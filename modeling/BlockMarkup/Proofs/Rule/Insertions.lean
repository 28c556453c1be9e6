import Mathlib.Data.Finset.Card
import BlockMarkup.Proofs.Rule.Mapping

/-!
# Rule sets made by insertions

Whichever calls insert rules into the empty set, it has each name once, in the order of first insertions and
with the rule that was inserted last (`RuleSet.insertions_recorded`).
-/

namespace BlockMarkup

/-- A call that adds one rule to a rule set. -/
inductive Insertion where
  | insert (name : String) (rule : Rule)
  | withRule (name : String) (rule : Rule)
  | literal (name text : String)
  | pattern (name source flags : String)
  | alternatives (name : String) (texts : List String)

namespace Insertion

def name : Insertion → String
  | insert name _ | withRule name _ | literal name _ | pattern name _ _ | alternatives name _ => name

def rule : Insertion → Rule
  | insert _ rule | withRule _ rule => rule
  | literal _ text => .literal text
  | pattern _ source flags => .pattern source flags
  | alternatives _ texts => .alternatives texts

def run (set : RuleSet) : Insertion → RuleSet
  | insert name rule => set.insert name rule
  | withRule name rule => set.withRule name rule
  | literal name text => set.literal name text
  | pattern name source flags => set.pattern name source flags
  | alternatives name texts => set.alternatives name texts

def entry (call : Insertion) : String × Rule := (call.name, call.rule)

theorem run_eq (set : RuleSet) (call : Insertion) : call.run set = set.insert call.name call.rule := by
  cases call <;> rfl

theorem keys_entries (calls : List Insertion) : Keyed.keys (calls.map entry) = calls.map name := by
  rw [Keyed.keys, List.map_map]
  rfl

end Insertion

namespace RuleSet

/-- The set that calls make of the empty one. -/
def ofCalls (calls : List Insertion) : RuleSet := calls.foldl Insertion.run empty

variable (calls : List Insertion)

theorem ofCalls_concat (call : Insertion) :
    ofCalls (calls ++ [call]) = (ofCalls calls).insert call.name call.rule := by
  rw [ofCalls, List.foldl_concat, Insertion.run_eq, ofCalls]

theorem rules_ofCalls : (ofCalls calls).rules = Keyed.ofList (calls.map Insertion.entry) := by
  induction calls using List.reverseRecOn with
  | nil => rfl
  | append_singleton calls call ih =>
    rw [ofCalls_concat, insert, ih, List.map_append, List.map_singleton, Keyed.ofList_concat]
    rfl

theorem names_ofCalls : (ofCalls calls).names = Keyed.keys (Keyed.ofList (calls.map Insertion.entry)) := by
  rw [names, rules_ofCalls]

theorem mem_names_ofCalls (name : String) :
    name ∈ (ofCalls calls).names ↔ name ∈ calls.map Insertion.name := by
  rw [names_ofCalls, Keyed.mem_keys_ofList, Insertion.keys_entries]

theorem nodup_names_ofCalls : (ofCalls calls).names.Nodup := by
  rw [names_ofCalls]
  exact Keyed.nodup_ofList _

theorem size_ofCalls : (ofCalls calls).size = (calls.map Insertion.name).toFinset.card := by
  have members : (ofCalls calls).names.toFinset = (calls.map Insertion.name).toFinset := by
    ext name
    rw [List.mem_toFinset, List.mem_toFinset, mem_names_ofCalls]
  rw [← members, List.toFinset_card_of_nodup (nodup_names_ofCalls calls)]
  exact (List.length_map _).symm

/-- What a rule set keeps of the calls that made it. -/
structure Records (calls : List Insertion) (set : RuleSet) : Prop where
  distinct : set.names.Nodup
  known : ∀ name, name ∈ set.names ↔ ∃ call ∈ calls, call.name = name
  /-- Names come as they were inserted first. -/
  inOrder : set.names.Pairwise fun a b =>
    (calls.map Insertion.name).idxOf a < (calls.map Insertion.name).idxOf b
  /-- Each has the rule that was inserted last. -/
  latest : ∀ name, set.rules.lookup name = (calls.findRev? (·.name = name)).map Insertion.rule
  size : set.size = (calls.map Insertion.name).toFinset.card

/-- A rule set made by any calls has the names that were inserted, once each and in the order of their first
insertions, with the rules of the last ones. So one more call leaves other names where they are, and their
rules as they are. -/
theorem insertions_recorded :
    Records calls (ofCalls calls) ∧
      ∀ call name, name ≠ call.name →
        (ofCalls (calls ++ [call])).names.idxOf? name = (ofCalls calls).names.idxOf? name ∧
        (ofCalls (calls ++ [call])).rules.lookup name = (ofCalls calls).rules.lookup name := by
  refine ⟨⟨nodup_names_ofCalls calls, ?_, ?_, ?_, size_ofCalls calls⟩, ?_⟩
  · intro name
    rw [mem_names_ofCalls, List.mem_map]
  · rw [names_ofCalls, ← Insertion.keys_entries]
    exact Keyed.keys_ofList_inOrder _
  · intro name
    rw [rules_ofCalls, Keyed.lookup_ofList, ← List.map_reverse, List.findRev?_eq_find?_reverse]
    exact Keyed.lookup_map name Insertion.name Insertion.rule calls.reverse
  · intro call name other
    rw [ofCalls_concat]
    constructor
    · exact Keyed.idxOf?_keys_put call.rule _ other
    · rw [insert, Keyed.lookup_put, if_neg other]

def openThenClose : List Insertion := [.literal "open" "<", .withRule "close" (.literal ">")]

/-- The call gives the first name another rule. -/
def reopen : Insertion := .alternatives "open" ["<", "("]

theorem insertions_recorded_replaced :
    "close" ≠ reopen.name ∧ (ofCalls (openThenClose ++ [reopen])).names = ["open", "close"] ∧
      (ofCalls (openThenClose ++ [reopen])).names.idxOf? "close" = some 1 ∧
      (ofCalls (openThenClose ++ [reopen])).rules.lookup "close" = some (.literal ">") ∧
      (ofCalls (openThenClose ++ [reopen])).rules.lookup "open" = some (.alternatives ["<", "("]) := by
  have other : "close" ≠ reopen.name := by decide
  obtain ⟨place, rule⟩ := (insertions_recorded openThenClose).2 reopen "close" other
  obtain ⟨recorded, -⟩ := insertions_recorded (openThenClose ++ [reopen])
  exact ⟨other, rfl, place, rule, recorded.latest "open"⟩

end RuleSet

end BlockMarkup
