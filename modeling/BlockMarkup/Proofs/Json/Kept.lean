import Mathlib.Algebra.Ring.Int.Defs
import Mathlib.Algebra.Ring.Nat
import BlockMarkup.Json.Value
import BlockMarkup.Keyed

/-!
# Values that a text can keep

A text keeps integers of 64 bits, and of members with one key the last value. Values made of nothing
else, with distinct keys, are `Kept` as they are.
-/

namespace BlockMarkup.Json

namespace Value

mutual

/-- All numbers are integers of 64 bits. -/
def InRange : Value → Prop
  | null | bool _ | string _ => True
  | int n => -2 ^ 63 ≤ n ∧ n < 2 ^ 64
  | real _ => False
  | array items => InRangeAll items
  | object members => InRangeMembers members

def InRangeAll : List Value → Prop
  | [] => True
  | v :: rest => v.InRange ∧ InRangeAll rest

def InRangeMembers : List (String × Value) → Prop
  | [] => True
  | (_, v) :: rest => v.InRange ∧ InRangeMembers rest

end

mutual

/-- How many arrays and objects are around the innermost place of a value. -/
def nesting : Value → Nat
  | null | bool _ | int _ | real _ | string _ => 0
  | array items => nestingOfAll items + 1
  | object members => nestingOfMembers members + 1

def nestingOfAll : List Value → Nat
  | [] => 0
  | v :: rest => max v.nesting (nestingOfAll rest)

def nestingOfMembers : List (String × Value) → Nat
  | [] => 0
  | (_, v) :: rest => max v.nesting (nestingOfMembers rest)

end

mutual

/-- The value without repeated keys. -/
def merged : Value → Value
  | null => null
  | bool b => bool b
  | int n => int n
  | real text => real text
  | string s => string s
  | array items => array (mergedAll items)
  | object members => object (Keyed.ofList (mergedMembers members))

def mergedAll : List Value → List Value
  | [] => []
  | v :: rest => v.merged :: mergedAll rest

def mergedMembers : List (String × Value) → List (String × Value)
  | [] => []
  | (k, v) :: rest => (k, v.merged) :: mergedMembers rest

end

theorem InRange.ne_real {v : Value} (whole : v.InRange) (text : String) : v ≠ real text := by
  rintro rfl
  exact whole

/-! ### Lists of values -/

theorem inRangeAll_iff {items : List Value} : InRangeAll items ↔ ∀ v ∈ items, v.InRange := by
  induction items with
  | nil => simp [InRangeAll]
  | cons v rest ih => simp [InRangeAll, ih]

theorem inRangeMembers_iff {members : List (String × Value)} :
    InRangeMembers members ↔ ∀ m ∈ members, m.2.InRange := by
  induction members with
  | nil => simp [InRangeMembers]
  | cons m rest ih => simp [InRangeMembers, ih]

theorem nestingOfAll_le {items : List Value} {room : Nat} :
    nestingOfAll items ≤ room ↔ ∀ v ∈ items, v.nesting ≤ room := by
  induction items with
  | nil => simp [nestingOfAll]
  | cons v rest ih => rw [nestingOfAll, Nat.max_le, ih, List.forall_mem_cons]

theorem nestingOfMembers_le {members : List (String × Value)} {room : Nat} :
    nestingOfMembers members ≤ room ↔ ∀ m ∈ members, m.2.nesting ≤ room := by
  induction members with
  | nil => simp [nestingOfMembers]
  | cons m rest ih => rw [nestingOfMembers, Nat.max_le, ih, List.forall_mem_cons]

theorem mergedAll_eq_map (items : List Value) : mergedAll items = items.map merged := by
  induction items with
  | nil => rfl
  | cons v rest ih => rw [mergedAll, ih, List.map_cons]

theorem mergedMembers_eq_map (members : List (String × Value)) :
    mergedMembers members = members.map fun m => (m.1, m.2.merged) := by
  induction members with
  | nil => rfl
  | cons m rest ih => rw [mergedMembers, ih, List.map_cons]

theorem merged_object {members : List (String × Value)} (each : ∀ m ∈ members, m.2.merged = m.2) :
    (object members).merged = object (Keyed.ofList members) := by
  have same : (members.map fun m => (m.1, m.2.merged)) = members :=
    calc (members.map fun m => (m.1, m.2.merged)) = members.map fun m => m :=
          List.map_congr_left fun m member => by rw [each m member]
      _ = members := List.map_id' members
  rw [merged, mergedMembers_eq_map, same]

/-! ### Values that are kept -/

/-- The text of the value is read back as the value, if `room` arrays and objects may be entered. -/
structure Kept (room : Nat) (v : Value) : Prop where
  whole : v.InRange
  nested : v.nesting ≤ room
  plain : v.merged = v

variable {room : Nat}

theorem Kept.null : Kept room null := ⟨trivial, Nat.zero_le _, rfl⟩

theorem Kept.string (s : String) : Kept room (string s) := ⟨trivial, Nat.zero_le _, rfl⟩

theorem Kept.nat {n : Nat} (small : n < 2 ^ 64) : Kept room (nat n) where
  whole := ⟨by omega, by omega⟩
  nested := Nat.zero_le _
  plain := rfl

theorem Kept.array {items : List Value} (each : ∀ v ∈ items, Kept room v) :
    Kept (room + 1) (array items) where
  whole := inRangeAll_iff.mpr fun v member => (each v member).whole
  nested := Nat.succ_le_succ (nestingOfAll_le.mpr fun v member => (each v member).nested)
  plain := by
    have same : items.map merged = items :=
      calc items.map merged = items.map fun v => v :=
            List.map_congr_left fun v member => (each v member).plain
        _ = items := List.map_id' items
    rw [merged, mergedAll_eq_map, same]

theorem Kept.object {members : List (String × Value)} (distinct : (Keyed.keys members).Nodup)
    (each : ∀ m ∈ members, Kept room m.2) : Kept (room + 1) (object members) where
  whole := inRangeMembers_iff.mpr fun m member => (each m member).whole
  nested := Nat.succ_le_succ (nestingOfMembers_le.mpr fun m member => (each m member).nested)
  plain := by
    rw [merged_object fun m member => (each m member).plain, Keyed.ofList_of_nodup distinct]

end Value

end BlockMarkup.Json
