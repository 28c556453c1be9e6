import BlockMarkup.Proofs.Json.Reading

/-!
# Printed values told apart

A printed value ends where its own text says, so two values are printed alike only if they are the same
(`Exact.print_inj`). Integers of any size are told apart, also those that are not read back.
-/

namespace BlockMarkup.Json

namespace Value

mutual

/-- All numbers are integers. -/
def Exact : Value → Prop
  | null | bool _ | int _ | string _ => True
  | real _ => False
  | array items => ExactAll items
  | object members => ExactMembers members

def ExactAll : List Value → Prop
  | [] => True
  | v :: rest => v.Exact ∧ ExactAll rest

def ExactMembers : List (String × Value) → Prop
  | [] => True
  | (_, v) :: rest => v.Exact ∧ ExactMembers rest

end

theorem exactAll_iff {items : List Value} : ExactAll items ↔ ∀ v ∈ items, v.Exact := by
  induction items with
  | nil => simp [ExactAll]
  | cons v rest ih => simp [ExactAll, ih]

theorem exactMembers_iff {members : List (String × Value)} :
    ExactMembers members ↔ ∀ m ∈ members, m.2.Exact := by
  induction members with
  | nil => simp [ExactMembers]
  | cons m rest ih => simp [ExactMembers, ih]

theorem Exact.ne_real {v : Value} (exact : v.Exact) (text : String) : v ≠ real text := by
  rintro rfl
  exact exact

end Value

namespace Reader

/-! ### Strings and numbers -/

section

variable {a b : List Char}

theorem printString_inj {s t : String} (same : printString s a = printString t b) : s = t ∧ a = b := by
  have text := (List.cons.inj same).2
  have read := characters_escape s.toList [] a
  rw [text, characters_escape, Option.some.injEq, Prod.mk.injEq] at read
  exact ⟨String.toList_injective read.1.symm, read.2.symm⟩

theorem toDigits_append_inj {n m : Nat} (ends : Ends a) (ends' : Ends b)
    (same : Nat.toDigits 10 n ++ a = Nat.toDigits 10 m ++ b) : n = m ∧ a = b := by
  have digits := (span_toDigits ends n).1
  rw [same, (span_toDigits ends' m).1] at digits
  obtain rfl := toDigits_inj digits
  exact ⟨rfl, List.append_cancel_left same⟩

theorem minus_ne_toDigits (n : Nat) : '-' :: a ≠ Nat.toDigits 10 n ++ b := by
  obtain ⟨d, rest, digits, digit⟩ := toDigits_eq_cons n
  rw [digits, List.cons_append]
  intro same
  rw [← (List.cons.inj same).1] at digit
  cases digit

theorem printInt_inj {n m : Int} (ends : Ends a) (ends' : Ends b)
    (same : printInt n a = printInt m b) : n = m ∧ a = b := by
  unfold printInt at same
  split at same <;> split at same
  next negative negative' =>
    obtain ⟨size, rest⟩ := toDigits_append_inj ends ends' (List.cons.inj same).2
    exact ⟨by omega, rest⟩
  next => exact absurd same (minus_ne_toDigits _)
  next => exact absurd same.symm (minus_ne_toDigits _)
  next positive positive' =>
    obtain ⟨size, rest⟩ := toDigits_append_inj ends ends' same
    exact ⟨by omega, rest⟩

end

/-! ### Values -/

variable {l l' : Layout} {depth depth' : Nat} {a b : List Char}

theorem kind_eq {v w : Value} (exact : v.Exact) (exact' : w.Exact)
    (same : v.write l depth a = w.write l' depth' b) : v.kind = w.kind := by
  obtain ⟨c, x, text, kind, -⟩ := write_head l exact.ne_real depth a
  obtain ⟨d, y, text', kind', -⟩ := write_head l' exact'.ne_real depth' b
  rw [text, text', List.cons.injEq] at same
  rw [← kind, ← kind', same.1]

theorem skipBlanks_write {v : Value} (exact : v.Exact) :
    skipBlanks (v.write l depth a) = v.write l depth a := by
  obtain ⟨c, rest, text, -, solid, -⟩ := write_head l exact.ne_real depth a
  rw [text, skipBlanks_cons solid]

/-- An array with an element does not end behind its bracket. -/
theorem itemsEnd_ne {v : Value} (exact : v.Exact) (rest : List Value) :
    ']' :: b ≠ (writeItems l depth (v :: rest) a).tail := by
  intro same
  obtain ⟨c, cs, text, -, solid, filled⟩ :=
    write_head l exact.ne_real (depth + 1) (writeItems l depth rest a)
  have first := congrArg skipBlanks same
  rw [skipBlanks_item, skipBlanks_write exact, text, skipBlanks_cons rfl] at first
  exact filled (List.cons.inj first).1.symm

theorem membersEnd_ne (k : String) (v : Value) (rest : List (String × Value)) :
    '\x7d' :: b ≠ (writeMembers l depth ((k, v) :: rest) a).tail := by
  intro same
  have first := congrArg skipBlanks same
  rw [skipBlanks_member, skipBlanks_cons rfl] at first
  cases (List.cons.inj first).1

mutual

/-- A value ends at one place of a text only, and no other value is written there. -/
theorem write_inj (v : Value) {w : Value} {depth depth' : Nat} {a b : List Char} (exact : v.Exact)
    (exact' : w.Exact) (ends : Ends a) (ends' : Ends b)
    (same : v.write l depth a = w.write l' depth' b) : v = w ∧ a = b := by
  -- Values of different kinds start differently, so only `w` of the kind of `v` are left.
  have kind := kind_eq exact exact' same
  cases v with
  | null =>
    cases w
    case null => exact ⟨rfl, List.append_cancel_left same⟩
    all_goals cases kind
  | bool c =>
    cases w
    case bool d =>
      obtain rfl : c = d := by
        cases c <;> cases d <;> first | rfl | cases (List.cons.inj same).1
      cases c <;> exact ⟨rfl, List.append_cancel_left same⟩
    all_goals cases kind
  | int n =>
    cases w
    case int m =>
      rw [Value.write, Value.write] at same
      obtain ⟨number, after⟩ := printInt_inj ends ends' same
      exact ⟨by rw [number], after⟩
    case real => exact exact'.elim
    all_goals cases kind
  | real => exact exact.elim
  | string s =>
    cases w
    case string t =>
      rw [Value.write, Value.write] at same
      obtain ⟨text, after⟩ := printString_inj same
      exact ⟨by rw [text], after⟩
    all_goals cases kind
  | array items =>
    cases w
    case array items' =>
      match items, items' with
      | [], [] => exact ⟨rfl, List.append_cancel_left same⟩
      | [], w :: rest' => exact absurd (List.cons.inj same).2 (itemsEnd_ne exact'.1 rest')
      | v :: rest, [] => exact absurd (List.cons.inj same).2.symm (itemsEnd_ne exact.1 rest)
      | v :: rest, w :: rest' =>
        obtain ⟨each, after⟩ := items_inj (v :: rest) exact exact' (List.cons_ne_nil _ _)
          (List.cons_ne_nil _ _) (List.cons.inj same).2
        exact ⟨by rw [each], after⟩
    all_goals cases kind
  | object members =>
    cases w
    case object members' =>
      match members, members' with
      | [], [] => exact ⟨rfl, List.append_cancel_left same⟩
      | [], (k, w) :: rest' => exact absurd (List.cons.inj same).2 (membersEnd_ne k w rest')
      | (k, v) :: rest, [] => exact absurd (List.cons.inj same).2.symm (membersEnd_ne k v rest)
      | (k, v) :: rest, (k', w) :: rest' =>
        obtain ⟨each, after⟩ := members_inj ((k, v) :: rest) exact exact' (List.cons_ne_nil _ _)
          (List.cons_ne_nil _ _) (List.cons.inj same).2
        exact ⟨by rw [each], after⟩
    all_goals cases kind

theorem items_inj (items : List Value) {items' : List Value} {depth depth' : Nat} {a b : List Char}
    (exact : Value.ExactAll items) (exact' : Value.ExactAll items') (filled : items ≠ [])
    (filled' : items' ≠ [])
    (same : (writeItems l depth items a).tail = (writeItems l' depth' items' b).tail) :
    items = items' ∧ a = b := by
  match items, items' with
  | [], _ => exact absurd rfl filled
  | _, [] => exact absurd rfl filled'
  | v :: rest, w :: rest' =>
    have text := congrArg skipBlanks same
    rw [skipBlanks_item, skipBlanks_item, skipBlanks_write exact.1, skipBlanks_write exact'.1] at text
    obtain ⟨rfl, behind⟩ := write_inj v exact.1 exact'.1 (ends_items l depth rest a)
      (ends_items l' depth' rest' b) text
    -- Behind equal elements either both lists end with a bracket or both go on with a comma.
    have next := congrArg skipBlanks behind
    match rest, rest' with
    | [], [] =>
      rw [skipBlanks_itemsEnd, skipBlanks_itemsEnd, List.cons.injEq] at next
      exact ⟨rfl, next.2⟩
    | [], w :: rest' =>
      rw [skipBlanks_itemsEnd, skipBlanks_items] at next
      cases (List.cons.inj next).1
    | v :: rest, [] =>
      rw [skipBlanks_itemsEnd, skipBlanks_items] at next
      cases (List.cons.inj next).1
    | v :: rest, w :: rest' =>
      rw [skipBlanks_items, skipBlanks_items, List.cons.injEq] at next
      obtain ⟨others, after⟩ := items_inj (v :: rest) exact.2 exact'.2 (List.cons_ne_nil _ _)
        (List.cons_ne_nil _ _) next.2
      exact ⟨by rw [others], after⟩

theorem members_inj (members : List (String × Value)) {members' : List (String × Value)}
    {depth depth' : Nat} {a b : List Char} (exact : Value.ExactMembers members)
    (exact' : Value.ExactMembers members') (filled : members ≠ []) (filled' : members' ≠ [])
    (same : (writeMembers l depth members a).tail = (writeMembers l' depth' members' b).tail) :
    members = members' ∧ a = b := by
  match members, members' with
  | [], _ => exact absurd rfl filled
  | _, [] => exact absurd rfl filled'
  | (k, v) :: rest, (k', w) :: rest' =>
    have text := congrArg skipBlanks same
    rw [skipBlanks_member, skipBlanks_member] at text
    obtain ⟨rfl, colon⟩ := printString_inj text
    have text := congrArg skipBlanks (List.cons.inj colon).2
    rw [skipBlanks_gap, skipBlanks_gap, skipBlanks_write exact.1, skipBlanks_write exact'.1] at text
    obtain ⟨rfl, behind⟩ := write_inj v exact.1 exact'.1 (ends_members l depth rest a)
      (ends_members l' depth' rest' b) text
    have next := congrArg skipBlanks behind
    match rest, rest' with
    | [], [] =>
      rw [skipBlanks_membersEnd, skipBlanks_membersEnd, List.cons.injEq] at next
      exact ⟨rfl, next.2⟩
    | [], (k', w) :: rest' =>
      rw [skipBlanks_membersEnd, skipBlanks_members] at next
      cases (List.cons.inj next).1
    | (k', v) :: rest, [] =>
      rw [skipBlanks_membersEnd, skipBlanks_members] at next
      cases (List.cons.inj next).1
    | (k₁, v) :: rest, (k₂, w) :: rest' =>
      rw [skipBlanks_members, skipBlanks_members, List.cons.injEq] at next
      obtain ⟨others, after⟩ := members_inj ((k₁, v) :: rest) exact.2 exact'.2 (List.cons_ne_nil _ _)
        (List.cons_ne_nil _ _) next.2
      exact ⟨by rw [others], after⟩

end

end Reader

/-- The text of a value tells the value, whatever its layout. -/
theorem Value.Exact.print_inj {v w : Value} {pretty pretty' : Bool} (exact : v.Exact) (exact' : w.Exact)
    (same : v.print pretty = w.print pretty') : v = w := by
  have ended : Reader.Ends [] := nofun
  exact (Reader.write_inj v exact exact' ended ended (String.ofList_injective same)).1

end BlockMarkup.Json
