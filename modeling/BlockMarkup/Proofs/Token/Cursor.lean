import BlockMarkup.Proofs.Token.Scans

/-!
# Scanning by byte positions

`ByteScanner` scans with a cursor in bytes beside the offset in characters, and cuts every text out of the
source by two positions. A cut inside a character fails. `scan_in_bytes` says that this gives the tokens of
the source after at most as many steps as it has bytes, unless the cursor comes to rest inside a character.
-/

namespace BlockMarkup

open Pattern (Match)

/-! ### Bytes of characters -/

def bytes (cs : List Char) : Nat := (String.ofList cs).utf8ByteSize

@[simp] theorem bytes_nil : bytes [] = 0 := rfl

@[simp] theorem bytes_cons (c : Char) (cs : List Char) : bytes (c :: cs) = c.utf8Size + bytes cs :=
  utf8ByteSize_cons c cs

@[simp] theorem bytes_append (a b : List Char) : bytes (a ++ b) = bytes a + bytes b := by
  rw [bytes, String.ofList_append, String.utf8ByteSize_append]
  rfl

@[simp] theorem bytes_reverse (cs : List Char) : bytes cs.reverse = bytes cs := by
  induction cs with
  | nil => rfl
  | cons c cs ih =>
    rw [List.reverse_cons, bytes_append, ih, bytes_cons, bytes_cons, bytes_nil]
    omega

theorem bytes_toList (s : String) : bytes s.toList = s.utf8ByteSize := by rw [bytes, String.ofList_toList]

theorem bytes_pos {cs : List Char} : 0 < bytes cs ↔ cs ≠ [] := by
  cases cs with
  | nil => simp
  | cons c cs =>
    have := c.utf8Size_pos
    simp only [bytes_cons, ne_eq, reduceCtorEq, not_false_eq_true, iff_true]
    omega

theorem bytes_slice_le (rest : List Char) (start stop : Nat) : (slice rest start stop).utf8ByteSize ≤ bytes rest := by
  have whole : bytes rest = bytes (rest.take start) + (bytes ((rest.drop start).take (stop - start)) +
      bytes ((rest.drop start).drop (stop - start))) := by
    rw [← bytes_append, List.take_append_drop, ← bytes_append, List.take_append_drop]
  have cut : (slice rest start stop).utf8ByteSize = bytes ((rest.drop start).take (stop - start)) := rfl
  omega

/-! ### Places in bytes -/

/-- A place before, behind or between the characters of a text. -/
def Boundary (cs : List Char) (n : Nat) : Prop := ∃ k, n = bytes (cs.take k)

theorem dropBytes_eq_some_iff {n : Nat} {cs rest : List Char} :
    dropBytes n cs = some rest ↔ ∃ a, cs = a ++ rest ∧ bytes a = n := by
  constructor
  · intro dropped
    fun_induction dropBytes n cs with
    | case1 cs =>
      cases dropped
      exact ⟨[], rfl, rfl⟩
    | case2 n c cs fits ih =>
      obtain ⟨a, rfl, size⟩ := ih dropped
      exact ⟨c :: a, rfl, by rw [bytes_cons]; omega⟩
    | case3 => cases dropped
    | case4 => cases dropped
  · rintro ⟨a, rfl, rfl⟩
    exact dropBytes_append a rest

theorem boundary_iff {cs : List Char} {n : Nat} : Boundary cs n ↔ ∃ rest, dropBytes n cs = some rest := by
  constructor
  · rintro ⟨k, rfl⟩
    exact ⟨cs.drop k, dropBytes_take k cs⟩
  · rintro ⟨rest, dropped⟩
    obtain ⟨a, rfl, rfl⟩ := dropBytes_eq_some_iff.mp dropped
    exact ⟨a.length, by simp⟩

theorem boundary_end (cs : List Char) : Boundary cs (bytes cs) := ⟨cs.length, by simp⟩

/-- The text between two places. None if one of them is inside a character, or if they are reversed. -/
def sliceBytes? (cs : List Char) (start stop : Nat) : Option String :=
  (dropBytes start cs).bind fun a => (dropBytes stop cs).bind fun b =>
    if start ≤ stop then some (String.ofList (a.take (a.length - b.length))) else none

theorem sliceBytes?_middle (a b c : List Char) :
    sliceBytes? (a ++ b ++ c) (bytes a) (bytes (a ++ b)) = some (String.ofList b) := by
  have upTo : dropBytes (bytes (a ++ b)) (a ++ b ++ c) = some c := dropBytes_append (a ++ b) c
  have before : dropBytes (bytes a) (a ++ b ++ c) = some (b ++ c) := by
    rw [List.append_assoc]
    exact dropBytes_append a (b ++ c)
  rw [sliceBytes?, before, upTo]
  simp

/-- Characters of one byte each have all their places between them. -/
theorem boundary_of_ascii {cs : List Char} (ascii : ∀ c ∈ cs, c.toNat < 128) {n : Nat} (inside : n ≤ bytes cs) :
    Boundary cs n := by
  have single : ∀ c ∈ cs, c.utf8Size = 1 := by
    intro c member
    have small := ascii c member
    exact if_pos (by rw [UInt32.le_iff_toNat_le]; exact Nat.le_of_lt_succ small)
  have count : ∀ k ≤ cs.length, bytes (cs.take k) = k := by
    intro k
    induction k with
    | zero => simp
    | succ k ih =>
      intro low
      rw [List.take_succ_eq_append_getElem low, bytes_append, ih (by omega), bytes_cons, bytes_nil,
        single _ (List.getElem_mem low)]
  have all := count cs.length (Nat.le_refl _)
  rw [List.take_length] at all
  exact ⟨n, (count n (by omega)).symm⟩

/-! ### A scanner that counts bytes -/

structure ByteScanner where
  /-- The bytes of what has been consumed. -/
  cursor : Nat
  /-- The characters of what has been consumed. -/
  offset : Nat
  /-- Where the pending text starts, in bytes and in characters. -/
  pending : Option (Nat × Nat)
  /-- Last one first. -/
  tokens : List Token

namespace ByteScanner

def start : ByteScanner := ⟨0, 0, none, []⟩

def flush? (source : List Char) (s : ByteScanner) : Option ByteScanner :=
  match s.pending with
  | none => some s
  | some (place, start) =>
    (sliceBytes? source place s.cursor).map fun value =>
      { s with pending := none, tokens := .text value ⟨start, s.offset⟩ :: s.tokens }

/-- Adds the token of a match and moves the cursor by as many bytes as it has. -/
def add (s : ByteScanner) (r : CompiledRule) (found : Found) : ByteScanner :=
  let offset := s.offset + found.value.length
  let token : Token :=
    { type := r.name
      value := found.value
      params := found.params
      loc := ⟨s.offset, offset⟩
      alternative := r.alternativeIndex found.value }
  { s with cursor := s.cursor + found.value.utf8ByteSize, offset, tokens := token :: s.tokens }

/-- Adds the next character to the pending text. If there is none, the cursor moves all the same. -/
def gather (s : ByteScanner) (next : Option Char) : ByteScanner :=
  { s with
    cursor := s.cursor + (next.map Char.utf8Size).getD 1
    offset := s.offset + 1
    pending := s.pending.or (some (s.cursor, s.offset)) }

/-- One turn of the loop. None if the rest of the source starts inside a character. -/
def step? (rules : List CompiledRule) (source : List Char) (s : ByteScanner) : Option ByteScanner :=
  (dropBytes s.cursor source).bind fun rest =>
    match firstMatch rest rules with
    | some (r, found) => (s.flush? source).map (·.add r found)
    | none => some (s.gather rest.head?)

/-- The scanner stands like this before turn `n`, counted from zero. -/
inductive Reaches (rules : List CompiledRule) (source : List Char) : Nat → ByteScanner → Prop
  | start : Reaches rules source 0 .start
  | next {n : Nat} {s u : ByteScanner} (before : Reaches rules source n s)
      (more : s.cursor < bytes source) (stepped : s.step? rules source = some u) :
      Reaches rules source (n + 1) u

/-- The loop ends before turn `n`: at the end of the source, or because there is no such turn. -/
inductive Ends (rules : List CompiledRule) (source : List Char) : Nat → Option (List Token) → Prop
  | done {n : Nat} {s : ByteScanner} (reaches : Reaches rules source n s)
      (stop : bytes source ≤ s.cursor) :
      Ends rules source n ((s.flush? source).map fun u => u.tokens.reverse)
  | stuck {n : Nat} {s : ByteScanner} (reaches : Reaches rules source n s)
      (more : s.cursor < bytes source) (refused : s.step? rules source = none) :
      Ends rules source n none

/-! ### Both scanners side by side -/

variable {rules : List CompiledRule} {source done : List Char} {s : Scanner} {b : ByteScanner}

/-- Two scanners that stand behind the characters `done` of the source. -/
structure Follows (source done : List Char) (s : Scanner) (b : ByteScanner) : Prop where
  split : source = done ++ s.rest
  cursor : b.cursor = bytes done
  offset : b.offset = s.offset
  gathered : s.pending.reverse <:+ done
  pending : b.pending = if s.pending = [] then none
    else some (b.cursor - bytes s.pending, s.offset - s.pending.length)
  tokens : b.tokens = s.tokens

namespace Follows

theorem start (source : List Char) : Follows source [] (.start source) .start :=
  ⟨rfl, rfl, rfl, List.suffix_refl _, rfl, rfl⟩

theorem cursor_le (follows : Follows source done s b) : b.cursor ≤ bytes source := by
  rw [follows.split, follows.cursor, bytes_append]
  omega

theorem more_iff (follows : Follows source done s b) : b.cursor < bytes source ↔ s.rest ≠ [] := by
  rw [follows.split, follows.cursor, bytes_append, ← bytes_pos]
  omega

theorem rest (follows : Follows source done s b) : dropBytes b.cursor source = some s.rest := by
  rw [follows.split, follows.cursor]
  exact dropBytes_append done s.rest

theorem boundary (follows : Follows source done s b) : Boundary source b.cursor :=
  boundary_iff.mpr ⟨s.rest, follows.rest⟩

theorem flush (follows : Follows source done s b) :
    ∃ u, b.flush? source = some u ∧ u.pending = none ∧ Follows source done s.flush u := by
  obtain ⟨split, cursor, offset, ⟨front, gathered⟩, pending, tokens⟩ := follows
  cases waiting : s.pending with
  | nil =>
    rw [waiting, if_pos rfl] at pending
    have idle : s.flush = s := by rw [Scanner.flush, waiting]
    refine ⟨b, by rw [flush?, pending], pending, ?_⟩
    rw [idle]
    exact ⟨split, cursor, offset, waiting ▸ List.nil_suffix, by rw [waiting, if_pos rfl, pending], tokens⟩
  | cons c cs =>
    rw [waiting] at gathered
    rw [waiting, if_neg (List.cons_ne_nil c cs)] at pending
    have place : b.cursor - bytes (c :: cs) = bytes front := by
      rw [cursor, ← gathered, bytes_append, bytes_reverse]
      omega
    have value : sliceBytes? source (b.cursor - bytes (c :: cs)) b.cursor =
        some (String.ofList (c :: cs).reverse) := by
      rw [place, cursor, split, ← gathered]
      exact sliceBytes?_middle front (c :: cs).reverse s.rest
    refine ⟨_, by rw [flush?, pending]; dsimp only; rw [value]; rfl, rfl, ?_⟩
    exact {
      split := by rw [Tracer.flush_rest]; exact split
      cursor
      offset := by rw [Tracer.flush_offset]; exact offset
      gathered := by rw [Tracer.flush_pending]; exact List.nil_suffix
      pending := by rw [Tracer.flush_pending, if_pos rfl]
      tokens := by rw [Scanner.flush, waiting]; dsimp only; rw [offset, tokens] }

theorem gather (follows : Follows source done s b) {c : Char} {rest : List Char} (next : s.rest = c :: rest) :
    Follows source (done ++ [c])
      { s with rest, offset := s.offset + 1, pending := c :: s.pending } (b.gather (some c)) := by
  obtain ⟨split, cursor, offset, ⟨front, gathered⟩, pending, tokens⟩ := follows
  exact {
    split := by rw [split, next, List.append_assoc]; rfl
    cursor := by simp [ByteScanner.gather, cursor]
    offset := by simp [ByteScanner.gather, offset]
    gathered := ⟨front, by rw [← gathered]; simp⟩
    pending := by
      have place : b.cursor + c.utf8Size - bytes (c :: s.pending) = b.cursor - bytes s.pending := by
        rw [bytes_cons]
        omega
      have start : s.offset + 1 - (c :: s.pending).length = s.offset - s.pending.length := by
        rw [List.length_cons]
        omega
      simp only [ByteScanner.gather, Option.map_some, Option.getD_some, reduceCtorEq, if_false, place, start]
      rw [pending]
      split
      next none => simp [none, offset]
      next => rfl
    tokens }

/-- The token of a match takes at least one byte and none that is not there. The scanner in characters fails
where the new cursor is inside a character. -/
theorem emit (follows : Follows source done s b) {r : CompiledRule} {found : Found}
    (chosen : firstMatch s.rest rules = some (r, found)) :
    ∃ v, (b.flush? source).map (·.add r found) = some v ∧ b.cursor < v.cursor ∧ v.cursor ≤ bytes source ∧
      (∀ u, s.emit r found = some u → ∃ a, a ≠ [] ∧ Follows source (done ++ a) u v) ∧
      (s.emit r found = none → ¬ Boundary source v.cursor) := by
  obtain ⟨m, wins, value⟩ := firstMatch_wins chosen
  have nonempty : 0 < found.value.utf8ByteSize := by
    have filled : ¬ (slice s.rest m.start m.stop).isEmpty = true :=
      mt (slice_isEmpty (Pattern.Program.find_bounds wins.found)).mp (not_not_intro wins.nonempty)
    rw [value, Nat.pos_iff_ne_zero, ne_eq, String.utf8ByteSize_eq_zero_iff]
    rwa [String.isEmpty_iff] at filled
  have fits : found.value.utf8ByteSize ≤ bytes s.rest := by
    rw [value]
    exact bytes_slice_le ..
  obtain ⟨u, flushed, none, follows'⟩ := follows.flush
  have place : (u.add r found).cursor = bytes done + found.value.utf8ByteSize :=
    congrArg (· + found.value.utf8ByteSize) follows'.cursor
  have inside : bytes source = bytes done + bytes s.rest := by rw [follows.split, bytes_append]
  have left : dropBytes (bytes done + found.value.utf8ByteSize) source =
      dropBytes found.value.utf8ByteSize s.rest := by
    rw [follows.split]
    exact dropBytes_past done s.rest _
  refine ⟨u.add r found, by rw [flushed]; rfl, ?_, ?_, ?_, ?_⟩
  · rw [place, follows.cursor]
    omega
  · rw [place, inside]
    omega
  · intro v emitted
    rw [Scanner.emit] at emitted
    obtain ⟨rest, dropped, rfl⟩ := Option.map_eq_some_iff.mp emitted
    rw [Tracer.flush_rest] at dropped
    obtain ⟨a, split, size⟩ := dropBytes_eq_some_iff.mp dropped
    refine ⟨a, bytes_pos.mp (size ▸ nonempty), ?_⟩
    exact {
      split := by rw [follows.split, split, List.append_assoc]
      cursor := by rw [place, bytes_append, size]
      offset := by simp [add, follows'.offset]
      gathered := by simp
      pending := by simp [add, none]
      tokens := by simp [add, follows'.tokens, follows'.offset] }
  · intro failed inner
    rw [Scanner.emit, Option.map_eq_none_iff, Tracer.flush_rest] at failed
    obtain ⟨rest, dropped⟩ := boundary_iff.mp inner
    rw [place, left, failed] at dropped
    cases dropped

theorem step (rules : List CompiledRule) (follows : Follows source done s b) (more : s.rest ≠ []) :
    ∃ v, b.step? rules source = some v ∧ b.cursor < v.cursor ∧ v.cursor ≤ bytes source ∧
      (∀ u, s.step rules = some u → ∃ a, a ≠ [] ∧ Follows source (done ++ a) u v) ∧
      (s.step rules = none → ¬ Boundary source v.cursor) := by
  rw [step?, follows.rest, Option.bind_some, Scanner.step]
  cases chosen : firstMatch s.rest rules with
  | some winner => exact follows.emit chosen
  | none =>
    obtain ⟨c, rest, next⟩ := List.exists_cons_of_ne_nil more
    have gathered := follows.gather next
    rw [next]
    dsimp only
    refine ⟨_, rfl, ?_, gathered.cursor_le, ?_, fun failed => ?_⟩
    · have := c.utf8Size_pos
      simp only [ByteScanner.gather, List.head?_cons, Option.map_some, Option.getD_some]
      omega
    · intro u moved
      cases moved
      exact ⟨[c], List.cons_ne_nil c [], gathered⟩
    · cases failed

end Follows

/-! ### The loop -/

variable {n m : Nat} {u : ByteScanner} {result : Option (List Token)}

namespace Reaches

/-- A turn moves the cursor, but not past the end. Where it is at a boundary, it stands where a scanner in
characters does. -/
theorem stands (reaches : Reaches rules source n b) :
    n ≤ b.cursor ∧ b.cursor ≤ bytes source ∧
      (Boundary source b.cursor → ∃ done s, Follows source done s b) := by
  induction reaches with
  | start => exact ⟨Nat.le_refl _, Nat.zero_le _, fun _ => ⟨[], _, Follows.start source⟩⟩
  | @next n b u before more stepped ih =>
    obtain ⟨turns, inside, follows⟩ := ih
    obtain ⟨rest, there, -⟩ := Option.bind_eq_some_iff.mp stepped
    obtain ⟨done, s, follows⟩ := follows (boundary_iff.mpr ⟨rest, there⟩)
    obtain ⟨v, moved, forward, inside, onward, split⟩ := follows.step rules (follows.more_iff.mp more)
    obtain rfl := Option.some.inj (moved.symm.trans stepped)
    refine ⟨by omega, inside, fun boundary => ?_⟩
    cases taken : s.step rules with
    | some s => exact ⟨_, s, (onward s taken).choose_spec.2⟩
    | none => exact absurd boundary (split taken)

theorem step?_none_iff (reaches : Reaches rules source n b) (more : b.cursor < bytes source) :
    b.step? rules source = none ↔ ¬ Boundary source b.cursor := by
  constructor
  · intro refused boundary
    obtain ⟨done, s, follows⟩ := reaches.stands.2.2 boundary
    obtain ⟨v, moved, -⟩ := follows.step rules (follows.more_iff.mp more)
    cases refused.symm.trans moved
  · intro inner
    have nothing : dropBytes b.cursor source = none :=
      Option.eq_none_iff_forall_not_mem.mpr fun rest there => inner (boundary_iff.mpr ⟨rest, there⟩)
    rw [step?, nothing, Option.bind_none]

theorem flushes (reaches : Reaches rules source n b) (stop : bytes source ≤ b.cursor) :
    ∃ u, b.flush? source = some u := by
  obtain ⟨-, inside, follows⟩ := reaches.stands
  have place : b.cursor = bytes source := Nat.le_antisymm inside stop
  obtain ⟨done, s, follows⟩ := follows (place ▸ boundary_end source)
  obtain ⟨u, flushed, -⟩ := follows.flush
  exact ⟨u, flushed⟩

theorem unique (left : Reaches rules source n b) (right : Reaches rules source n u) : b = u := by
  induction left generalizing u with
  | start =>
    cases right
    rfl
  | next before more stepped ih =>
    cases right with
    | next before' more' stepped' =>
      obtain rfl := ih before'
      exact Option.some.inj (stepped.symm.trans stepped')

/-- Before every turn but the last one there was a next one. -/
theorem earlier (reaches : Reaches rules source m u) (before : n < m) :
    ∃ b v, Reaches rules source n b ∧ b.cursor < bytes source ∧ b.step? rules source = some v := by
  induction reaches with
  | start => cases before
  | @next m b v reaches more stepped ih =>
    rcases Nat.lt_succ_iff_lt_or_eq.mp before with sooner | rfl
    · exact ih sooner
    · exact ⟨b, v, reaches, more, stepped⟩

end Reaches

namespace Ends

/-- The state before the turn in which the loop ends, in which there is no further turn. -/
theorem last (ends : Ends rules source n result) :
    ∃ b, Reaches rules source n b ∧ ¬ (b.cursor < bytes source ∧ ∃ v, b.step? rules source = some v) := by
  cases ends with
  | done reaches stop => exact ⟨_, reaches, fun further => by omega⟩
  | stuck reaches more refused => exact ⟨_, reaches, fun ⟨_, v, moved⟩ => by cases refused.symm.trans moved⟩

theorem not_lt {result' : Option (List Token)} (left : Ends rules source n result)
    (right : Ends rules source m result') : ¬ n < m := by
  intro before
  obtain ⟨b, reaches, last⟩ := left.last
  obtain ⟨u, reaches', -⟩ := right.last
  obtain ⟨b', v, same, more, moved⟩ := reaches'.earlier before
  obtain rfl := reaches.unique same
  exact last ⟨more, v, moved⟩

theorem unique {result' : Option (List Token)} (left : Ends rules source n result)
    (right : Ends rules source m result') : result = result' := by
  obtain rfl : n = m := by
    have := left.not_lt right
    have := right.not_lt left
    omega
  cases left with
  | done reaches stop =>
    cases right with
    | done reaches' => rw [reaches.unique reaches']
    | stuck reaches' more =>
      obtain rfl := reaches.unique reaches'
      omega
  | stuck reaches more =>
    cases right with
    | done reaches' stop =>
      obtain rfl := reaches.unique reaches'
      omega
    | stuck => rfl

/-- A loop without a result has come to a place inside a character. -/
theorem inside (ends : Ends rules source n none) :
    ∃ b, Reaches rules source n b ∧ b.cursor < bytes source ∧ ¬ Boundary source b.cursor := by
  generalize none : (Option.none : Option (List Token)) = result at ends
  cases ends with
  | done reaches stop =>
    obtain ⟨u, flushed⟩ := reaches.flushes stop
    rw [flushed] at none
    cases none
  | stuck reaches more refused => exact ⟨_, reaches, more, (reaches.step?_none_iff more).mp refused⟩

theorem turns_le (ends : Ends rules source n result) : n ≤ bytes source := by
  obtain ⟨b, reaches, -⟩ := ends.last
  obtain ⟨turns, inside, -⟩ := reaches.stands
  exact Nat.le_trans turns inside

end Ends

theorem Follows.ends (follows : Follows source done s b) (reaches : Reaches rules source n b)
    (empty : s.rest = []) : Ends rules source n (some s.flush.tokens.reverse) := by
  obtain ⟨u, flushed, -, follows'⟩ := follows.flush
  have stop : bytes source ≤ b.cursor := Nat.le_of_not_lt fun more => follows.more_iff.mp more empty
  have ends := Ends.done reaches stop
  rwa [flushed, Option.map_some, follows'.tokens] at ends

/-- The loop ends as a run in characters does that has enough fuel. -/
theorem ends_of_run (fuel : Nat) (follows : Follows source done s b) (reaches : Reaches rules source n b)
    (enough : s.rest.length ≤ fuel) :
    ∃ m, Ends rules source m ((s.run rules fuel).map fun u => u.flush.tokens.reverse) := by
  induction fuel generalizing done s b n with
  | zero => exact ⟨n, follows.ends reaches (List.eq_nil_of_length_eq_zero (Nat.le_zero.mp enough))⟩
  | succ fuel ih =>
    rw [Scanner.run]
    by_cases empty : s.rest = []
    · rw [if_pos (List.isEmpty_iff.mpr empty)]
      exact ⟨n, follows.ends reaches empty⟩
    · rw [if_neg (mt List.isEmpty_iff.mp empty)]
      obtain ⟨v, moved, forward, inside, onward, split⟩ := follows.step rules empty
      have reaches' := reaches.next (follows.more_iff.mpr empty) moved
      cases taken : s.step rules with
      | none =>
        have inner := split taken
        have more : v.cursor < bytes source :=
          Nat.lt_of_le_of_ne inside fun place => inner (place ▸ boundary_end source)
        exact ⟨n + 1, .stuck reaches' more ((reaches'.step?_none_iff more).mpr inner)⟩
      | some u =>
        obtain ⟨a, some, follows'⟩ := onward u taken
        have shorter : s.rest = a ++ u.rest := by
          have same := follows.split.symm.trans follows'.split
          rwa [List.append_assoc, List.append_cancel_left_eq] at same
        have less : 0 < a.length := List.length_pos_iff.mpr some
        rw [shorter, List.length_append] at enough
        exact ih follows' reaches' (by omega)

theorem ends_tokenize (rules : List CompiledRule) (source : String) :
    ∃ n, Ends rules source.toList n (tokenize rules source) :=
  ends_of_run source.toList.length (Follows.start source.toList) .start (Nat.le_refl _)

/-! ### Where the cursor is at a boundary -/

/-- The cursor and the offset are one place of the source, and so are the two ends of the pending text. -/
structure Aligned (source : List Char) (b : ByteScanner) : Prop where
  inside : b.offset ≤ source.length
  cursor : b.cursor = bytes (source.take b.offset)
  pending : ∀ place start, b.pending = some (place, start) →
    start ≤ b.offset ∧ place ≤ b.cursor ∧ place = bytes (source.take start)

theorem Aligned.boundary (aligned : b.Aligned source) : Boundary source b.cursor := ⟨_, aligned.cursor⟩

/-- Under anchored rules a scanner in characters that stands in the source is followed all along. -/
theorem Reaches.placed (anchored : ∀ r ∈ rules, r.Anchored) (reaches : Reaches rules source n b) :
    ∃ done, ∃ t : Tracer, Follows source done t.scanner b ∧ t.scanner.At rules source := by
  induction reaches with
  | start => exact ⟨[], .start source, Follows.start source, Tracer.start_at rules source⟩
  | @next n b u before more stepped ih =>
    obtain ⟨done, t, follows, place⟩ := ih
    have rest := follows.more_iff.mp more
    have further : ∃ w, t.step rules = some w ∧ w.scanner.At rules source := by
      by_cases hit : Hit rules (source.drop t.scanner.offset)
      · obtain ⟨r, m, wins⟩ := hit.wins
        obtain ⟨w, taken, place', -⟩ := Tracer.step_emit place anchored wins
        exact ⟨w, taken, place'⟩
      · rw [place.rest, ne_eq, List.drop_eq_nil_iff, Nat.not_le] at rest
        obtain ⟨w, taken, place', -⟩ := Tracer.step_gather place rest hit
        exact ⟨w, taken, place'⟩
    obtain ⟨w, taken, place'⟩ := further
    obtain ⟨s, stepped', rfl⟩ := Option.map_eq_some_iff.mp taken
    obtain ⟨v, moved, -, -, onward, -⟩ := follows.step rules rest
    obtain rfl := Option.some.inj (moved.symm.trans stepped)
    obtain ⟨a, -, follows'⟩ := onward s stepped'
    exact ⟨_, _, follows', place'⟩

theorem Reaches.aligned (anchored : ∀ r ∈ rules, r.Anchored) (reaches : Reaches rules source n b) :
    b.Aligned source := by
  obtain ⟨done, t, follows, place⟩ := reaches.placed anchored
  have inside := place.inside
  have width : done.length = t.scanner.offset := by
    have lengths := congrArg List.length follows.split
    rw [List.length_append, place.rest, List.length_drop] at lengths
    omega
  have upTo : source.take t.scanner.offset = done := by
    rw [follows.split, ← width]
    exact List.take_left
  refine ⟨follows.offset ▸ inside, by rw [follows.cursor, follows.offset, upTo], ?_⟩
  intro position start waiting
  rw [follows.pending] at waiting
  split at waiting
  next => cases waiting
  next =>
    cases waiting
    refine ⟨follows.offset ▸ Nat.sub_le .., Nat.sub_le .., ?_⟩
    -- The pending characters are the ones from the mark up to the offset.
    have cut : done = source.take t.scanner.mark ++ t.scanner.pending.reverse := by
      have back := place.back
      rw [place.pending, ← upTo, ← List.take_add, Scanner.mark, Nat.sub_add_cancel back]
    rw [follows.cursor, cut, bytes_append, bytes_reverse, Nat.add_sub_cancel]
    rfl

end ByteScanner

open ByteScanner (Reaches Ends ends_tokenize)

theorem tokenize_of_boundaries {rules : List CompiledRule} {source : String}
    (boundaries : ∀ n b, Reaches rules source.toList n b → Boundary source.toList b.cursor) :
    ∃ tokens, tokenize rules source = some tokens := by
  obtain ⟨n, ends⟩ := ends_tokenize rules source
  cases result : tokenize rules source with
  | some tokens => exact ⟨tokens, rfl⟩
  | none =>
    rw [result] at ends
    obtain ⟨b, reaches, -, inner⟩ := ends.inside
    exact absurd (boundaries n b reaches) inner

/-- Every source that is ASCII has tokens, whatever the rules match. -/
theorem tokenize_of_ascii (rules : List CompiledRule) {source : String}
    (ascii : ∀ c ∈ source.toList, c.toNat < 128) : ∃ tokens, tokenize rules source = some tokens :=
  tokenize_of_boundaries fun _ _ reaches => boundary_of_ascii ascii reaches.stands.2.1

/-- A loop that scans by byte positions makes the tokens of the source. It ends after at most as many turns as
the source has bytes, with the cursor never behind the end, and it has no result only where the cursor comes
to a place inside a character. Under anchored rules cursor and offset are always the same place, so that this
never happens, as it never does in ASCII. -/
theorem scan_in_bytes (rules : List CompiledRule) (source : String) :
    (∀ n b, Reaches rules source.toList n b → n ≤ b.cursor ∧ b.cursor ≤ source.utf8ByteSize) ∧
    (∃ n ≤ source.utf8ByteSize, Ends rules source.toList n (tokenize rules source)) ∧
    (∀ n result, Ends rules source.toList n result → n ≤ source.utf8ByteSize ∧ result = tokenize rules source ∧
      (result = none → ∃ b, Reaches rules source.toList n b ∧ b.cursor < source.utf8ByteSize ∧
        ¬ Boundary source.toList b.cursor)) ∧
    ((∀ r ∈ rules, r.Anchored) →
      ∀ n b, Reaches rules source.toList n b → b.Aligned source.toList) ∧
    ((∀ r ∈ rules, r.Anchored) ∨ (∀ c ∈ source.toList, c.toNat < 128) →
      (∀ n b, Reaches rules source.toList n b → Boundary source.toList b.cursor) ∧
        ∃ tokens, tokenize rules source = some tokens) := by
  rw [← bytes_toList]
  have ends := ends_tokenize rules source
  refine ⟨?_, ?_, ?_, fun anchored n b reaches => reaches.aligned anchored, ?_⟩
  · intro n b reaches
    obtain ⟨turns, inside, -⟩ := reaches.stands
    exact ⟨turns, inside⟩
  · obtain ⟨n, ends⟩ := ends
    exact ⟨n, ends.turns_le, ends⟩
  · intro n result ended
    obtain ⟨m, ends⟩ := ends
    refine ⟨ended.turns_le, ended.unique ends, ?_⟩
    rintro rfl
    exact ended.inside
  · intro safe
    have boundaries : ∀ n b, Reaches rules source.toList n b → Boundary source.toList b.cursor := by
      intro n b reaches
      rcases safe with anchored | ascii
      · exact (reaches.aligned anchored).boundary
      · exact boundary_of_ascii ascii reaches.stands.2.1
    exact ⟨boundaries, tokenize_of_boundaries boundaries⟩

theorem scan_in_bytes_sample :
    (∃ rules, compileAll sampleRules = .ok rules ∧ (∀ r ∈ rules, r.Anchored) ∧
        (∀ n b, Reaches rules "aéxb]".toList n b → b.Aligned "aéxb]".toList) ∧
        ∃ tokens, tokenize rules "aéxb]" = some tokens) ∧
      ∃ r, (Rule.pattern "a)|(?:b" "").compile "marker" = .ok r ∧
        (∀ c ∈ "xbb".toList, c.toNat < 128) ∧ ∃ tokens, tokenize [r] "xbb" = some tokens := by
  obtain ⟨rules, compiled, anchored, -⟩ := sampleRules_compile
  obtain ⟨-, -, -, aligned, safe⟩ := scan_in_bytes rules "aéxb]"
  have ascii : ∀ c ∈ "xbb".toList, c.toNat < 128 := by simp
  refine ⟨⟨rules, compiled, anchored, aligned anchored, (safe (.inl anchored)).2⟩, _, rfl, ascii, ?_⟩
  exact ((scan_in_bytes _ "xbb").2.2.2.2 (.inr ascii)).2

end BlockMarkup
