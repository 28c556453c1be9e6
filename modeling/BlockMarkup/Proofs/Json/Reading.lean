import BlockMarkup.Proofs.Json.Kept
import BlockMarkup.Proofs.Json.Parts

/-!
# Reading printed JSON

What was printed is read back, in either layout and with anything behind it that does not go on with a
number (`value_write`). A text with no more than the allowed nesting gives its value (`read?_print`).
-/

namespace BlockMarkup.Json

namespace Value

mutual

/-- How many steps it takes to read the value. -/
def weight : Value → Nat
  | null | bool _ | int _ | real _ | string _ => 1
  | array items => weightOfAll items + 1
  | object members => weightOfMembers members + 1

def weightOfAll : List Value → Nat
  | [] => 0
  | v :: rest => v.weight + weightOfAll rest + 1

def weightOfMembers : List (String × Value) → Nat
  | [] => 0
  | (_, v) :: rest => v.weight + weightOfMembers rest + 1

end

theorem weight_pos (v : Value) : 0 < v.weight := by
  cases v <;> simp [weight]

/-- A character that values of one kind start with, for all of them. -/
def kind : Value → Char
  | null => 'n'
  | bool _ => 'f'
  | int _ | real _ => '0'
  | string _ => '"'
  | array _ => '['
  | object _ => '\x7b'

end Value

namespace Reader

/-! ### Blanks -/

theorem skipBlanks_blanks {gap : List Char} (blank : ∀ c ∈ gap, isBlank c = true) (cs : List Char) :
    skipBlanks (gap ++ cs) = skipBlanks cs :=
  List.dropWhile_append_of_pos blank

theorem skipBlanks_cons {c : Char} (solid : isBlank c = false) (cs : List Char) :
    skipBlanks (c :: cs) = c :: cs := by
  simp [skipBlanks, solid]

theorem isBlank_layout (l : Layout) (depth : Nat) : ∀ c ∈ l.line depth ++ l.gap, isBlank c = true := by
  intro c member
  rcases l.blank depth c member with rfl | rfl <;> rfl

variable (l : Layout) (depth : Nat) (cs : List Char)

theorem skipBlanks_line : skipBlanks (l.line depth ++ cs) = skipBlanks cs :=
  skipBlanks_blanks (fun c member => isBlank_layout l depth c (List.mem_append_left _ member)) cs

theorem skipBlanks_gap : skipBlanks (l.gap ++ cs) = skipBlanks cs :=
  skipBlanks_blanks (fun c member => isBlank_layout l 0 c (List.mem_append_right _ member)) cs

theorem value_skipped {cs cs' : List Char} (same : skipBlanks cs = skipBlanks cs') (fuel room : Nat) :
    value fuel room cs = value fuel room cs' := by
  cases fuel with
  | zero => rw [value, value]
  | succ fuel => rw [value, value, same]

theorem elements_skipped {cs cs' : List Char} (same : skipBlanks cs = skipBlanks cs') (fuel room : Nat)
    (done : List Value) : elements fuel room done cs = elements fuel room done cs' := by
  cases fuel with
  | zero => rw [elements, elements]
  | succ fuel => rw [elements, elements, value_skipped same]

theorem members_skipped {cs cs' : List Char} (same : skipBlanks cs = skipBlanks cs') (fuel room : Nat)
    (done : List (String × Value)) : members fuel room done cs = members fuel room done cs' := by
  cases fuel with
  | zero => rw [members, members]
  | succ fuel => rw [members, members, same]

/-! ### One step -/

theorem value_string (fuel room : Nat) (s : String) (after : List Char) :
    value (fuel + 1) room (printString s after) = some (.string s, after) := by
  rw [printString, value, skipBlanks_cons rfl]
  simp [characters_escape]

theorem value_array {fuel room : Nat} {c : Char} {rest : List Char} (text : List Char)
    (first : skipBlanks text = c :: rest) (solid : isBlank c = false) (filled : c ≠ ']') :
    value (fuel + 1) (room + 1) ('[' :: text) = elements fuel room [] text := by
  have skipped : skipBlanks (c :: rest) = skipBlanks text := by rw [first, skipBlanks_cons solid]
  rw [value, skipBlanks_cons rfl]
  simp only [first]
  split
  next same => exact absurd (List.cons.inj same).1 filled
  next => exact elements_skipped skipped fuel room []

theorem value_object {fuel room : Nat} {rest : List Char} (text : List Char)
    (first : skipBlanks text = '"' :: rest) :
    value (fuel + 1) (room + 1) ('\x7b' :: text) = members fuel room [] text := by
  have skipped : skipBlanks ('"' :: rest) = skipBlanks text := by rw [first, skipBlanks_cons rfl]
  rw [value, skipBlanks_cons rfl]
  simp only [first]
  exact members_skipped skipped fuel room []

section

variable {fuel room : Nat} {v : Value} {text rest after : List Char}

theorem elements_last {done : List Value} (first : value fuel room text = some (v, rest))
    (closed : skipBlanks rest = ']' :: after) :
    elements (fuel + 1) room done text = some (.array (v :: done).reverse, after) := by
  rw [elements, first]
  simp only [closed]

theorem elements_next {done : List Value} {more : List Char}
    (first : value fuel room text = some (v, rest)) (comma : skipBlanks rest = ',' :: more) :
    elements (fuel + 1) room done text = elements fuel room (v :: done) more := by
  rw [elements, first]
  simp only [comma]

variable {done : List (String × Value)} {k : String}

theorem members_last (first : value fuel room text = some (v, rest))
    (closed : skipBlanks rest = '\x7d' :: after) :
    members (fuel + 1) room done (printString k (':' :: text)) =
      some (.object (Keyed.ofList ((k, v) :: done).reverse), after) := by
  rw [members, printString, skipBlanks_cons rfl]
  simp [characters_escape, skipBlanks_cons (c := ':') rfl, first, closed]

theorem members_next {more : List Char} (first : value fuel room text = some (v, rest))
    (comma : skipBlanks rest = ',' :: more) :
    members (fuel + 1) room done (printString k (':' :: text)) =
      members fuel room ((k, v) :: done) more := by
  rw [members, printString, skipBlanks_cons rfl]
  simp [characters_escape, skipBlanks_cons (c := ':') rfl, first, comma]

end

theorem isBlank_digit {c : Char} (digit : c.isDigit = true) : isBlank c = false := by
  cases blank : isBlank c with
  | false => rfl
  | true =>
    simp only [isBlank, Bool.or_eq_true, decide_eq_true_eq] at blank
    rcases blank with ((rfl | rfl) | rfl) | rfl <;> cases digit

theorem value_digits {c : Char} {rest : List Char} (digit : c.isDigit = true) (fuel room : Nat) :
    value (fuel + 1) room (c :: rest) = number? false (c :: rest) := by
  rw [value, skipBlanks_cons (isBlank_digit digit)]
  split <;> simp_all

theorem value_minus {rest : List Char} (fuel room : Nat) :
    value (fuel + 1) room ('-' :: rest) = number? true rest := by
  rw [value, skipBlanks_cons rfl]
  rfl

theorem integer_toDigits {n : Nat} (small : n < 2 ^ 64) :
    integer false (Nat.toDigits 10 n) = some (.int n) := by
  have bound : n < Nat.pow 2 64 := small
  simp [integer, digitsValue_toDigits, bound]

theorem integer_negative {n : Nat} (positive : 0 < n) (small : n ≤ 2 ^ 63) :
    integer true (Nat.toDigits 10 n) = some (.int (-n)) := by
  have bound : ¬ Nat.pow 2 63 < n := Nat.not_lt.mpr small
  simp [integer, digitsValue_toDigits, bound, Nat.pos_iff_ne_zero.mp positive]

theorem value_int {n : Int} (low : -2 ^ 63 ≤ n) (high : n < 2 ^ 64) {after : List Char}
    (ends : Ends after) (fuel room : Nat) :
    value (fuel + 1) room (printInt n after) = some (.int n, after) := by
  unfold printInt
  split
  next negative =>
    have same : -(n.natAbs : Int) = n := by omega
    rw [List.cons_append, value_minus, number?_toDigits ends, integer_negative (by omega) (by omega),
      same, Option.map_some]
  next positive =>
    have same : (n.natAbs : Int) = n := by omega
    obtain ⟨d, rest, digits, digit⟩ := toDigits_eq_cons n.natAbs
    rw [digits, List.cons_append, value_digits digit, ← List.cons_append, ← digits,
      number?_toDigits ends, integer_toDigits (by omega), same, Option.map_some]

/-! ### Printed values -/

/-- The kind of a value that starts with the character. -/
def kindOf (c : Char) : Char := if c.isDigit || c = '-' then '0' else if c = 't' then 'f' else c

theorem write_head (l : Layout) {v : Value} (exact : ∀ text, v ≠ .real text) (depth : Nat)
    (after : List Char) :
    ∃ c rest, v.write l depth after = c :: rest ∧ kindOf c = v.kind ∧ isBlank c = false ∧ c ≠ ']' := by
  cases v with
  | null => exact ⟨'n', _, rfl, rfl, rfl, by decide⟩
  | bool b => cases b <;> exact ⟨_, _, rfl, rfl, rfl, by decide⟩
  | int n =>
    rw [Value.write, printInt]
    split
    next => exact ⟨'-', _, rfl, rfl, rfl, by decide⟩
    next =>
      obtain ⟨d, rest, digits, digit⟩ := toDigits_eq_cons n.natAbs
      refine ⟨d, rest ++ after, by rw [digits, List.cons_append], ?_, isBlank_digit digit, ?_⟩
      · rw [kindOf, digit]
        rfl
      · rintro rfl
        cases digit
  | real text => exact absurd rfl (exact text)
  | string s => exact ⟨'"', _, rfl, rfl, rfl, by decide⟩
  | array items => cases items <;> exact ⟨'[', _, rfl, rfl, rfl, by decide⟩
  | object members =>
    match members with
    | [] => exact ⟨'\x7b', _, by rw [Value.write]; rfl, rfl, rfl, by decide⟩
    | (k, v) :: rest => exact ⟨'\x7b', _, by rw [Value.write], rfl, rfl, by decide⟩

theorem ends_line (l : Layout) (depth : Nat) {cs : List Char} (ends : Ends cs) :
    Ends (l.line depth ++ cs) := by
  cases line : l.line depth with
  | nil => exact ends
  | cons c rest =>
    intro d first
    obtain rfl : c = d := by simpa using first
    have blank := l.blank depth c (by simp [line])
    rcases blank with rfl | rfl <;> decide

theorem ends_items (l : Layout) (depth : Nat) (rest : List Value) (after : List Char) :
    Ends (writeItems l depth rest after) := by
  cases rest with
  | nil =>
    rw [writeItems]
    exact ends_line l depth fun c first => by cases first; decide
  | cons v rest =>
    rw [writeItems]
    exact fun c first => by cases first; decide

theorem ends_members (l : Layout) (depth : Nat) (rest : List (String × Value)) (after : List Char) :
    Ends (writeMembers l depth rest after) := by
  match rest with
  | [] =>
    rw [writeMembers]
    exact ends_line l depth fun c first => by cases first; decide
  | (k, v) :: rest =>
    rw [writeMembers]
    exact fun c first => by cases first; decide

section

variable (l : Layout) (depth : Nat) (after : List Char)

theorem skipBlanks_itemsEnd : skipBlanks (writeItems l depth [] after) = ']' :: after := by
  rw [writeItems, skipBlanks_line, skipBlanks_cons rfl]

theorem skipBlanks_items (v : Value) (rest : List Value) :
    skipBlanks (writeItems l depth (v :: rest) after) =
      ',' :: (writeItems l depth (v :: rest) after).tail := by
  rw [writeItems, skipBlanks_cons rfl, List.tail_cons]

/-- Behind the opening bracket of an array and behind a comma in it stands the next element. -/
theorem skipBlanks_item (v : Value) (rest : List Value) :
    skipBlanks (writeItems l depth (v :: rest) after).tail =
      skipBlanks (v.write l (depth + 1) (writeItems l depth rest after)) := by
  rw [writeItems, List.tail_cons, skipBlanks_line]

theorem skipBlanks_membersEnd : skipBlanks (writeMembers l depth [] after) = '\x7d' :: after := by
  rw [writeMembers, skipBlanks_line, skipBlanks_cons rfl]

variable (k : String) (v : Value) (rest : List (String × Value))

theorem skipBlanks_members :
    skipBlanks (writeMembers l depth ((k, v) :: rest) after) =
      ',' :: (writeMembers l depth ((k, v) :: rest) after).tail := by
  rw [writeMembers, skipBlanks_cons rfl, List.tail_cons]

theorem skipBlanks_member :
    skipBlanks (writeMembers l depth ((k, v) :: rest) after).tail =
      printString k (':' :: (l.gap ++ v.write l (depth + 1) (writeMembers l depth rest after))) := by
  rw [writeMembers, List.tail_cons, skipBlanks_line, printString, skipBlanks_cons rfl]

end

variable (l : Layout)

mutual

theorem value_write (v : Value) {depth fuel room : Nat} {after : List Char} (whole : v.InRange)
    (nested : v.nesting ≤ room) (enough : v.weight ≤ fuel) (ends : Ends after) :
    value fuel room (v.write l depth after) = some (v.merged, after) := by
  obtain ⟨fuel, rfl⟩ : ∃ f, fuel = f + 1 := ⟨fuel - 1, by have := v.weight_pos; omega⟩
  cases v with
  | null =>
    rw [Value.write, value, List.cons_append, skipBlanks_cons rfl]
    rfl
  | bool b =>
    cases b <;> rw [Value.write, value, List.cons_append, skipBlanks_cons rfl] <;> rfl
  | int n => rw [Value.write, value_int whole.1 whole.2 ends, Value.merged]
  | real => exact whole.elim
  | string s => rw [Value.write, value_string, Value.merged]
  | array items =>
    rw [Value.nesting] at nested
    rw [Value.weight] at enough
    obtain ⟨room, rfl⟩ : ∃ r, room = r + 1 := ⟨room - 1, by omega⟩
    match items with
    | [] =>
      rw [Value.write, value, List.cons_append, skipBlanks_cons rfl]
      rfl
    | v :: rest =>
      have read : elements fuel room [] (writeItems l depth (v :: rest) after).tail =
          some (.array ([].reverse ++ Value.mergedAll (v :: rest)), after) :=
        elements_write (v :: rest) whole (by omega) (by omega) (List.cons_ne_nil _ _)
      obtain ⟨c, cs, text, -, solid, filled⟩ :=
        write_head l whole.1.ne_real (depth + 1) (writeItems l depth rest after)
      have first : skipBlanks (writeItems l depth (v :: rest) after).tail = c :: cs := by
        rw [skipBlanks_item, text, skipBlanks_cons solid]
      calc value (fuel + 1) (room + 1) ((Value.array (v :: rest)).write l depth after)
          = elements fuel room [] (writeItems l depth (v :: rest) after).tail :=
            value_array _ first solid filled
        _ = some (.array (Value.mergedAll (v :: rest)), after) := read
  | object members =>
    rw [Value.nesting] at nested
    rw [Value.weight] at enough
    obtain ⟨room, rfl⟩ : ∃ r, room = r + 1 := ⟨room - 1, by omega⟩
    match members with
    | [] =>
      rw [Value.write, value, List.cons_append, skipBlanks_cons rfl]
      rfl
    | (k, v) :: rest =>
      have read : Reader.members fuel room [] (writeMembers l depth ((k, v) :: rest) after).tail =
          some (.object (Keyed.ofList ([].reverse ++ Value.mergedMembers ((k, v) :: rest))), after) :=
        members_write ((k, v) :: rest) whole (by omega) (by omega) (List.cons_ne_nil _ _)
      calc value (fuel + 1) (room + 1) ((Value.object ((k, v) :: rest)).write l depth after)
          = Reader.members fuel room [] (writeMembers l depth ((k, v) :: rest) after).tail :=
            value_object _ (skipBlanks_member l depth after k v rest)
        _ = some (.object (Keyed.ofList (Value.mergedMembers ((k, v) :: rest))), after) := read

theorem elements_write (items : List Value) {depth fuel room : Nat} {after : List Char}
    {done : List Value} (whole : Value.InRangeAll items) (nested : Value.nestingOfAll items ≤ room)
    (enough : Value.weightOfAll items ≤ fuel) (filled : items ≠ []) :
    elements fuel room done (writeItems l depth items after).tail =
      some (.array (done.reverse ++ Value.mergedAll items), after) := by
  match items with
  | [] => exact absurd rfl filled
  | v :: rest =>
    rw [Value.nestingOfAll, Nat.max_le] at nested
    rw [Value.weightOfAll] at enough
    obtain ⟨fuel, rfl⟩ : ∃ f, fuel = f + 1 := ⟨fuel - 1, by omega⟩
    have first : value fuel room (v.write l (depth + 1) (writeItems l depth rest after)) =
        some (v.merged, writeItems l depth rest after) :=
      value_write v whole.1 nested.1 (by omega) (ends_items l depth rest after)
    rw [elements_skipped (skipBlanks_item l depth after v rest)]
    match rest with
    | [] =>
      rw [elements_last first (skipBlanks_itemsEnd l depth after)]
      simp [Value.mergedAll]
    | w :: rest =>
      have later : elements fuel room (v.merged :: done) (writeItems l depth (w :: rest) after).tail =
          some (.array ((v.merged :: done).reverse ++ Value.mergedAll (w :: rest)), after) :=
        elements_write (w :: rest) whole.2 nested.2 (by omega) (List.cons_ne_nil _ _)
      rw [elements_next first (skipBlanks_items l depth after w rest), later]
      simp [Value.mergedAll]

theorem members_write (members : List (String × Value)) {depth fuel room : Nat} {after : List Char}
    {done : List (String × Value)} (whole : Value.InRangeMembers members)
    (nested : Value.nestingOfMembers members ≤ room) (enough : Value.weightOfMembers members ≤ fuel)
    (filled : members ≠ []) :
    Reader.members fuel room done (writeMembers l depth members after).tail =
      some (.object (Keyed.ofList (done.reverse ++ Value.mergedMembers members)), after) := by
  match members with
  | [] => exact absurd rfl filled
  | (k, v) :: rest =>
    rw [Value.nestingOfMembers, Nat.max_le] at nested
    rw [Value.weightOfMembers] at enough
    obtain ⟨fuel, rfl⟩ : ∃ f, fuel = f + 1 := ⟨fuel - 1, by omega⟩
    have first : value fuel room (l.gap ++ v.write l (depth + 1) (writeMembers l depth rest after)) =
        some (v.merged, writeMembers l depth rest after) := by
      rw [value_skipped (skipBlanks_gap l _)]
      exact value_write v whole.1 nested.1 (by omega) (ends_members l depth rest after)
    have text : skipBlanks (writeMembers l depth ((k, v) :: rest) after).tail = skipBlanks (printString k
        (':' :: (l.gap ++ v.write l (depth + 1) (writeMembers l depth rest after)))) := by
      rw [skipBlanks_member, printString, skipBlanks_cons rfl]
    rw [members_skipped text]
    match rest with
    | [] =>
      rw [members_last first (skipBlanks_membersEnd l depth after)]
      simp [Value.mergedMembers]
    | (k', w) :: rest =>
      have later : Reader.members fuel room ((k, v.merged) :: done)
            (writeMembers l depth ((k', w) :: rest) after).tail =
          some (.object (Keyed.ofList (((k, v.merged) :: done).reverse ++
            Value.mergedMembers ((k', w) :: rest))), after) :=
        members_write ((k', w) :: rest) whole.2 nested.2 (by omega) (List.cons_ne_nil _ _)
      rw [members_next first (skipBlanks_members l depth after k' w rest), later]
      simp [Value.mergedMembers]

end

mutual

/-- Every step of reading has a character of its own. -/
theorem weight_write (v : Value) (depth : Nat) (after : List Char) (whole : v.InRange) :
    v.weight + after.length ≤ (v.write l depth after).length := by
  cases v with
  | null =>
    simp [Value.weight, Value.write]
    omega
  | bool b => cases b <;> simp [Value.weight, Value.write] <;> omega
  | int n =>
    have digits := Nat.length_toDigits_pos (b := 10) (n := n.natAbs)
    rw [Value.weight, Value.write, printInt]
    split <;> simp <;> omega
  | real => exact whole.elim
  | string s =>
    simp only [Value.weight, Value.write, printString, List.length_cons, List.length_append]
    omega
  | array items =>
    match items with
    | [] =>
      simp [Value.weight, Value.weightOfAll, Value.write]
      omega
    | v :: rest =>
      have inside := weight_items (v :: rest) depth after whole
      rw [writeItems, List.length_cons] at inside
      rw [Value.weight, Value.write, List.length_cons]
      omega
  | object members =>
    match members with
    | [] =>
      simp [Value.weight, Value.weightOfMembers, Value.write]
      omega
    | (k, v) :: rest =>
      have inside := weight_members ((k, v) :: rest) depth after whole
      rw [writeMembers, List.length_cons] at inside
      rw [Value.weight, Value.write, List.length_cons]
      omega

theorem weight_items (items : List Value) (depth : Nat) (after : List Char)
    (whole : Value.InRangeAll items) :
    Value.weightOfAll items + after.length < (writeItems l depth items after).length := by
  match items with
  | [] =>
    simp only [Value.weightOfAll, writeItems, List.length_append, List.length_cons]
    omega
  | v :: rest =>
    have first := weight_write v (depth + 1) (writeItems l depth rest after) whole.1
    have later := weight_items rest depth after whole.2
    simp only [Value.weightOfAll, writeItems, List.length_append, List.length_cons]
    omega

theorem weight_members (members : List (String × Value)) (depth : Nat) (after : List Char)
    (whole : Value.InRangeMembers members) :
    Value.weightOfMembers members + after.length < (writeMembers l depth members after).length := by
  match members with
  | [] =>
    simp only [Value.weightOfMembers, writeMembers, List.length_append, List.length_cons]
    omega
  | (k, v) :: rest =>
    have first := weight_write v (depth + 1) (writeMembers l depth rest after) whole.1
    have later := weight_members rest depth after whole.2
    simp only [Value.weightOfMembers, writeMembers, printString, List.length_append, List.length_cons]
    omega

end

theorem value_text {v : Value} {room : Nat} (whole : v.InRange) (nested : v.nesting ≤ room) :
    value ((v.write l 0 []).length + 1) room (v.write l 0 []) = some (v.merged, []) := by
  have enough := weight_write l v 0 [] whole
  exact value_write l v whole nested (Nat.le_succ_of_le enough) nofun

end Reader

/-- The text of a value gives the value back, in any layout. -/
theorem read?_write (l : Layout) {v : Value} (whole : v.InRange) (nested : v.nesting ≤ nestingLimit) :
    read? (String.ofList (v.write l 0 [])) = some v.merged := by
  rw [read?, String.toList_ofList, Reader.value_text l whole nested]
  rfl

theorem read?_print {v : Value} (whole : v.InRange) (nested : v.nesting ≤ nestingLimit) (pretty : Bool) :
    read? (v.print pretty) = some v.merged := read?_write _ whole nested

end BlockMarkup.Json
