import BlockMarkup.Proofs.Json.Reading
import BlockMarkup.Proofs.Keyed
import BlockMarkup.Rule.File

/-!
# Rules written as a mapping

The text of a mapping from names to rules is read as the rule set that these rules make when they are
inserted one after the other, also where a name is repeated (`ofText_mapping`).
-/

namespace BlockMarkup

open Json (Value)
open Json.Value (Kept)

namespace Rule

def toValue : Rule → Value
  | literal text => .string text
  | pattern source flags => .object [("pattern", .string source), ("flags", .string flags)]
  | alternatives texts => .strings texts

theorem texts?_map (texts : List String) : texts? (texts.map .string) = some texts := by
  induction texts with
  | nil => rfl
  | cons text rest ih => rw [List.map_cons, texts?, Value.string?, Option.bind_some, ih, Option.map_some]

theorem ofValue?_toValue (rule : Rule) : ofValue? rule.toValue = some rule := by
  cases rule with
  | literal text => rfl
  | pattern source flags => rfl
  | alternatives texts => rw [toValue, Value.strings, ofValue?, texts?_map, Option.map_some]

theorem kept_toValue (rule : Rule) : Kept 1 rule.toValue := by
  cases rule with
  | literal text => exact .string text
  | pattern source flags =>
    refine .object (show ["pattern", "flags"].Nodup by decide) fun m member => ?_
    obtain rfl | rfl : m = ("pattern", .string source) ∨ m = ("flags", .string flags) := by
      simpa using member
    · exact .string source
    · exact .string flags
  | alternatives texts =>
    refine .array fun v member => ?_
    obtain ⟨text, -, rfl⟩ := List.mem_map.mp member
    exact .string text

end Rule

namespace RuleSet

/-- Inserts rules one after the other. -/
def insertAll (set : RuleSet) (entries : List (String × Rule)) : RuleSet :=
  entries.foldl (fun set e => set.insert e.1 e.2) set

def mapping (entries : List (String × Rule)) : Value :=
  .object (entries.map fun e => (e.1, e.2.toValue))

theorem insertAll_empty (entries : List (String × Rule)) :
    empty.insertAll entries = ⟨Keyed.ofList entries⟩ := by
  have behind : ∀ (entries : List (String × Rule)) (set : RuleSet), set.insertAll entries =
      ⟨entries.foldl (fun out e => Keyed.put e.1 e.2 out) set.rules⟩ := by
    intro entries
    induction entries with
    | nil => exact fun set => rfl
    | cons e rest ih => exact fun set => ih (set.insert e.1 e.2)
  exact behind entries empty

theorem insertValues_toValue (set : RuleSet) (entries : List (String × Rule)) :
    set.insertValues (entries.map fun e => (e.1, e.2.toValue)) = .ok (set.insertAll entries) := by
  induction entries generalizing set with
  | nil => rfl
  | cons e rest ih =>
    rw [List.map_cons, insertValues, insertValue, Rule.ofValue?_toValue]
    exact ih (set.insert e.1 e.2)

theorem ofValue_mapping (entries : List (String × Rule)) :
    ofValue (mapping entries) = .ok (empty.insertAll entries) := insertValues_toValue empty entries

/-- Reading a mapping merges what has one name, as inserting does. -/
theorem merged_mapping (entries : List (String × Rule)) :
    (mapping entries).merged = mapping (Keyed.ofList entries) := by
  have plain : ∀ m ∈ entries.map (fun e => (e.1, e.2.toValue)), m.2.merged = m.2 := by
    intro m member
    obtain ⟨e, -, rfl⟩ := List.mem_map.mp member
    exact e.2.kept_toValue.plain
  rw [mapping, Json.Value.merged_object plain, Keyed.ofList_map, mapping]

theorem read?_mapping (l : Json.Layout) (entries : List (String × Rule)) :
    Json.read? (String.ofList ((mapping entries).write l 0 [])) = some (mapping (Keyed.ofList entries)) := by
  have kept : ∀ m ∈ entries.map (fun e => (e.1, e.2.toValue)), Kept 1 m.2 := by
    intro m member
    obtain ⟨e, -, rfl⟩ := List.mem_map.mp member
    exact e.2.kept_toValue
  have whole : (mapping entries).InRange :=
    Json.Value.inRangeMembers_iff.mpr fun m member => (kept m member).whole
  have nested : (mapping entries).nesting ≤ Json.nestingLimit := by
    have flat : (mapping entries).nesting ≤ 2 :=
      Nat.succ_le_succ (Json.Value.nestingOfMembers_le.mpr fun m member => (kept m member).nested)
    exact Nat.le_trans flat (by decide)
  rw [Json.read?_write l whole nested, merged_mapping]

/-- The text of a mapping, in any layout and with repeated names, gives the rules that are inserted one
after the other: each name has its first place and its last rule. -/
theorem ofText_mapping (l : Json.Layout) (entries : List (String × Rule)) :
    ofText .json (String.ofList ((mapping entries).write l 0 [])) = .ok (empty.insertAll entries) ∧
      (empty.insertAll entries).names = (entries.map (·.1)).eraseDups ∧
      ∀ name, (empty.insertAll entries).rules.lookup name = entries.reverse.lookup name := by
  have same : empty.insertAll (Keyed.ofList entries) = empty.insertAll entries := by
    rw [insertAll_empty, insertAll_empty, Keyed.ofList_of_nodup (Keyed.nodup_ofList entries)]
  refine ⟨?_, ?_, ?_⟩
  · rw [ofText, RuleFileFormat.read, read?_mapping]
    simp only [ofValue_mapping, same]
  · rw [insertAll_empty]
    exact Keyed.keys_ofList entries
  · rw [insertAll_empty]
    exact fun name => Keyed.lookup_ofList name entries

end RuleSet

end BlockMarkup
