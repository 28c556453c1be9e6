import BlockMarkup.Proofs.Pattern.Bounds

/-!
# Searching for texts

Threads that each spell out a text, side by side, end with the first of these texts that the searched
one starts with (`scan_spelling`). A program that gets to such threads at the start of a text finds the
first one that fits (`Program.find_texts`).
-/

namespace BlockMarkup.Pattern

/-! ### Texts by preference -/

/-- The length of the first of these texts that `cs` starts with. -/
def firstFit? (texts : List (List Char)) (cs : List Char) : Option Nat :=
  (texts.find? (·.isPrefixOf cs)).map List.length

/-- What is left of the texts after a character. An empty text has ended, and hides those behind it. -/
def advance (c : Char) : List (List Char) → List (List Char)
  | [] | [] :: _ => []
  | (d :: rest) :: texts => if c = d then rest :: advance c texts else advance c texts

theorem firstFit?_nil (texts : List (List Char)) :
    firstFit? texts [] = if [] ∈ texts then some 0 else none := by
  induction texts with
  | nil => rfl
  | cons text texts ih =>
    cases text with
    | nil => simp [firstFit?]
    | cons d rest => simpa [firstFit?, List.isPrefixOf] using ih

theorem firstFit?_cons (c : Char) (cs : List Char) (texts : List (List Char)) :
    firstFit? texts (c :: cs) =
      ((firstFit? (advance c texts) cs).map (· + 1)).or (if [] ∈ texts then some 0 else none) := by
  fun_induction advance c texts with
  | case1 => rfl
  | case2 => simp [firstFit?]
  | case3 rest texts ih =>
    by_cases fits : rest.isPrefixOf cs
    · simp [firstFit?, List.isPrefixOf, fits]
    · simpa [firstFit?, List.isPrefixOf, fits] using ih
  | case4 d rest texts other ih =>
    have differs : (d == c) = false := by simpa using fun same => other same.symm
    simpa [firstFit?, List.isPrefixOf, differs] using ih

/-! ### Threads that spell texts -/

/-- A thread that waits for a text and then notes the position in these slots. -/
def spelling (slots : List Nat) (marks : List (Nat × Nat)) (text : List Char) : Thread :=
  { todo := text.map .char ++ slots.map .mark, start := 0, marks }

/-- The marks of a thread that has noted a position in these slots. -/
def noted (slots : List Nat) (marks : List (Nat × Nat)) (index : Nat) : List (Nat × Nat) :=
  (slots.map (·, index)).reverse ++ marks

/-- The threads that are left to spell texts. One that has ended cuts off those behind it. -/
def settled (slots : List Nat) (marks : List (Nat × Nat)) (index : Nat) :
    List (List Char) → List Thread
  | [] => []
  | [] :: _ => [{ todo := [], start := 0, marks := noted slots marks index }]
  | text :: texts => spelling slots marks text :: settled slots marks index texts

variable {slots : List Nat} {marks : List (Nat × Nat)} {index : Nat} {texts : List (List Char)}
  {here : Place} {fuel seen : Nat} {threads done : List Thread} {best : Option Match} {p : Program}

theorem settle_marks (enough : slots.length < fuel) :
    settle here fuel ({ todo := slots.map .mark, start := 0, marks } :: threads) seen done =
      done.reverse ++ [{ todo := [], start := 0, marks := noted slots marks here.index }] := by
  induction slots generalizing fuel marks with
  | nil =>
    obtain ⟨fuel, rfl⟩ := Nat.exists_eq_add_of_lt enough
    simp [settle, noted]
  | cons slot slots ih =>
    obtain ⟨fuel, rfl⟩ := Nat.exists_eq_succ_of_ne_zero (Nat.ne_of_gt (Nat.zero_lt_of_lt enough))
    refine (ih (Nat.lt_of_succ_lt_succ enough)).trans ?_
    simp [noted]

theorem settle_spelling (enough : texts.length + slots.length < fuel) :
    settle here fuel (texts.map (spelling slots marks)) seen done =
      done.reverse ++ settled slots marks here.index texts := by
  fun_induction settled slots marks here.index texts generalizing fuel done with
  | case1 =>
    obtain ⟨fuel, rfl⟩ := Nat.exists_eq_add_of_lt enough
    simp [settle]
  | case2 texts => exact settle_marks (Nat.lt_of_le_of_lt (Nat.le_add_left ..) enough)
  | case3 text texts filled ih =>
    obtain ⟨c, rest, rfl⟩ := List.exists_cons_of_ne_nil filled
    obtain ⟨fuel, rfl⟩ := Nat.exists_eq_succ_of_ne_zero (Nat.ne_of_gt (Nat.zero_lt_of_lt enough))
    rw [List.length_cons] at enough
    refine (ih (by omega)).trans ?_
    simp

theorem consume_settled (c : Char) :
    (settled slots marks index texts).filterMap (Thread.consume c) =
      (advance c texts).map (spelling slots marks) := by
  fun_induction advance c texts with
  | case1 => rfl
  | case2 => rfl
  | case3 rest texts ih => simp [settled, spelling, Thread.consume, ih]
  | case4 d rest texts other ih => simp [settled, spelling, Thread.consume, ih, other]

/-- A thread that waits has not finished, and neither have those before it. -/
theorem finished?_cons {c : Char} {rest : List Char} :
    finished? index (spelling slots marks (c :: rest) :: threads) = finished? index threads := by
  unfold finished?
  rw [List.getLast?_cons]
  cases threads.getLast? <;> rfl

theorem finished?_settled :
    finished? index (settled slots marks index texts) =
      if [] ∈ texts then some { start := 0, stop := index, marks := noted slots marks index }
      else none := by
  fun_induction settled slots marks index texts with
  | case1 => rfl
  | case2 texts => simp [finished?]
  | case3 text texts filled ih =>
    obtain ⟨c, rest, rfl⟩ := List.exists_cons_of_ne_nil filled
    rw [finished?_cons, ih]
    simp

/-! ### The search -/

/-- The match of a text of this length that has been spelled from `index` on. -/
def spelled (slots : List Nat) (marks : List (Nat × Nat)) (index length : Nat) : Match :=
  { start := 0, stop := index + length, marks := noted slots marks (index + length) }

theorem scan_last {before : Option Char} :
    scan p true [] index before threads best =
      (finished? index (settle ⟨index, before, none⟩ ((threads.length + 1) * p.bound) threads 0 [])).or
        best := by
  rw [scan.eq_def]
  rfl

theorem scan_next {c : Char} {cs : List Char} {before : Option Char} {ready : List Thread}
    (waits : settle ⟨index, before, some c⟩ ((threads.length + 1) * p.bound) threads 0 [] = ready) :
    scan p true (c :: cs) index before threads best =
      if (ready.filterMap (Thread.consume c)).isEmpty then (finished? index ready).or best
      else scan p true cs (index + 1) (some c) (ready.filterMap (Thread.consume c))
        ((finished? index ready).or best) := by
  rw [scan.eq_def, ← waits]
  simp

theorem spelled_succ (length : Nat) :
    spelled slots marks index (length + 1) = spelled slots marks (index + 1) length := by
  unfold spelled
  rw [Nat.add_right_comm, Nat.add_assoc]

theorem settle_texts (room : slots.length + 2 ≤ p.bound) (here : Place) (texts : List (List Char)) :
    settle here (((texts.map (spelling slots marks)).length + 1) * p.bound)
      (texts.map (spelling slots marks)) 0 [] = settled slots marks here.index texts := by
  refine settle_spelling ?_
  have several := Nat.le_mul_of_pos_right texts.length (Nat.lt_of_lt_of_le (Nat.succ_pos _) room)
  rw [List.length_map, Nat.add_mul, Nat.one_mul]
  omega

/-- Threads that spell texts find the first of these that comes next, whatever they met before. -/
theorem scan_spelling (room : slots.length + 2 ≤ p.bound) {cs : List Char} {before : Option Char} :
    scan p true cs index before (texts.map (spelling slots marks)) best =
      ((firstFit? texts cs).map (spelled slots marks index)).or best := by
  induction cs generalizing index before texts best with
  | nil =>
    rw [scan_last, settle_texts room, finished?_settled, firstFit?_nil]
    split <;> rfl
  | cons c cs ih =>
    -- An empty text has been spelled here, and the longer ones before it still can be.
    have now : (if [] ∈ texts then some 0 else none).map (spelled slots marks index) =
        finished? index (settled slots marks index texts) := by
      rw [finished?_settled]
      split <;> rfl
    have later : ((firstFit? (advance c texts) cs).map (· + 1)).map (spelled slots marks index) =
        (firstFit? (advance c texts) cs).map (spelled slots marks (index + 1)) := by
      rw [Option.map_map]
      exact congrArg (Option.map · _) (funext spelled_succ)
    rw [scan_next (settle_texts room _ _), consume_settled, ih, firstFit?_cons, Option.map_or, now, later,
      Option.or_assoc]
    split
    next ended =>
      have ended : advance c texts = [] := by simpa using ended
      rw [ended]
      rfl
    next => rfl

/-- A program finds the first of some texts that comes next, if it gets to threads that spell them. -/
theorem Program.find_texts (anchored : p.isAnchored = true) (room : slots.length + 2 ≤ p.bound)
    (starts : ∀ after, settle ⟨0, none, after⟩ (2 * p.bound)
      [{ todo := p.nodes, start := 0, marks := [] }] 0 [] = settled slots marks 0 texts)
    (text : List Char) : p.find text = (firstFit? texts text).map (spelled slots marks 0) := by
  have same : scan p true text 0 none [{ todo := p.nodes, start := 0, marks := [] }] none =
      scan p true text 0 none (texts.map (spelling slots marks)) none := by
    cases text with
    | nil => rw [scan_last, scan_last, settle_texts room, ← starts]; rfl
    | cons c cs => rw [scan_next (starts _), scan_next (settle_texts room _ _)]
  rw [find, if_pos anchored, same, scan_spelling room, Option.or_none]

end BlockMarkup.Pattern
