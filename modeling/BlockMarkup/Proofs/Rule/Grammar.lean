import Mathlib.Data.List.Forall2
import BlockMarkup.Proofs.Rule.Mapping

/-!
# Which values are rules

`Describes` is the grammar of values that stand for rules. A mapping is read exactly if all its values
describe rules, and otherwise the first one that does not is reported (`RuleSet.ofValue_grammar`).
-/

namespace BlockMarkup

open Json (Value)

namespace Rule

/-! ### The grammar -/

/-- The source of a pattern. What is under `source` counts only if there is no key `pattern`, whatever that
one holds. -/
inductive SourceIs (members : List (String × Value)) (source : String) : Prop
  | pattern (listed : members.lookup "pattern" = some (.string source))
  | source (unlisted : members.lookup "pattern" = none)
      (listed : members.lookup "source" = some (.string source))

inductive FlagsAre (members : List (String × Value)) : String → Prop
  | unlisted (absent : members.lookup "flags" = none) : FlagsAre members ""
  | null (listed : members.lookup "flags" = some .null) : FlagsAre members ""
  | letters {flags : String} (listed : members.lookup "flags" = some (.string flags)) : FlagsAre members flags

inductive Describes : Value → Rule → Prop
  | literal (text : String) : Describes (.string text) (.literal text)
  | alternatives (texts : List String) : Describes (.array (texts.map .string)) (.alternatives texts)
  | pattern {members : List (String × Value)} {source flags : String} (found : SourceIs members source)
      (set : FlagsAre members flags) : Describes (.object members) (.pattern source flags)

/-! ### Reading one value -/

variable {members : List (String × Value)} {v : Value}

theorem string?_eq_some_iff {s : String} : v.string? = some s ↔ v = .string s := by
  cases v <;> simp [Value.string?]

theorem texts?_eq_some_iff {items : List Value} {texts : List String} :
    texts? items = some texts ↔ items = texts.map .string := by
  constructor
  · intro read
    induction items generalizing texts with
    | nil => cases read; rfl
    | cons item items ih =>
      simp only [texts?, Option.bind_eq_some_iff, Option.map_eq_some_iff] at read
      obtain ⟨text, first, others, rest, rfl⟩ := read
      rw [string?_eq_some_iff.mp first, ih rest, List.map_cons]
  · rintro rfl
    exact texts?_map texts

theorem source?_eq_some_iff {source : String} : source? members = some source ↔ SourceIs members source := by
  unfold source?
  cases listed : members.lookup "pattern" with
  | some v =>
    dsimp only
    rw [string?_eq_some_iff]
    constructor
    · rintro rfl
      exact .pattern listed
    · rintro (found | ⟨unlisted, -⟩)
      · exact Option.some.inj (listed.symm.trans found)
      · cases listed.symm.trans unlisted
  | none =>
    simp only [Option.bind_eq_some_iff, string?_eq_some_iff]
    constructor
    · rintro ⟨v, found, rfl⟩
      exact .source listed found
    · rintro (found | ⟨-, found⟩)
      · cases listed.symm.trans found
      · exact ⟨_, found, rfl⟩

theorem flags?_eq_some_iff {flags : String} : flags? members = some flags ↔ FlagsAre members flags := by
  constructor
  · intro read
    unfold flags? at read
    split at read
    next absent => cases read; exact .unlisted absent
    next listed => cases read; exact .null listed
    next v _ listed => exact .letters (string?_eq_some_iff.mp read ▸ listed)
  · rintro (absent | listed | listed)
    · rw [flags?, absent]
    · rw [flags?, listed]
    · rw [flags?, listed]
      rfl

theorem ofValue?_eq_some_iff {rule : Rule} : ofValue? v = some rule ↔ Describes v rule := by
  constructor
  · intro read
    cases v with
    | string text => cases read; exact .literal text
    | array items =>
      obtain ⟨texts, items, rfl⟩ := Option.map_eq_some_iff.mp read
      exact texts?_eq_some_iff.mp items ▸ .alternatives texts
    | object members =>
      obtain ⟨source, found, read⟩ := Option.bind_eq_some_iff.mp read
      obtain ⟨flags, set, rfl⟩ := Option.map_eq_some_iff.mp read
      exact .pattern (source?_eq_some_iff.mp found) (flags?_eq_some_iff.mp set)
    | null | bool | int | real => cases read
  · intro described
    cases described with
    | literal text => rfl
    | alternatives texts => rw [ofValue?, texts?_map, Option.map_some]
    | pattern found set =>
      rw [ofValue?, source?_eq_some_iff.mpr found, flags?_eq_some_iff.mpr set]
      rfl

end Rule

/-! ### Reading a mapping -/

namespace RuleSet

open Rule (Describes ofValue?_eq_some_iff)

/-- The rule has the name of the member and is what its value describes. -/
def ReadAs (m : String × Value) (p : String × Rule) : Prop := p.1 = m.1 ∧ Describes m.2 p.2

variable {set out : RuleSet} {name : String} {v : Value} {members : List (String × Value)} {e : RuleError}

theorem insertValue_ok_iff :
    set.insertValue name v = .ok out ↔ ∃ rule, Describes v rule ∧ out = set.insert name rule := by
  simp only [← ofValue?_eq_some_iff, insertValue]
  cases Rule.ofValue? v <;> simp [eq_comm]

theorem insertValue_error_iff :
    set.insertValue name v = .error e ↔ (∀ rule, ¬ Describes v rule) ∧ e = .invalidRule name := by
  simp only [← ofValue?_eq_some_iff, insertValue]
  cases Rule.ofValue? v <;> simp [eq_comm]

theorem insertValues_ok_iff :
    set.insertValues members = .ok out ↔
      ∃ rules, List.Forall₂ ReadAs members rules ∧ out = set.insertAll rules := by
  induction members generalizing set with
  | nil => simp [insertValues, insertAll, eq_comm]
  | cons m members ih =>
    obtain ⟨name, v⟩ := m
    constructor
    · intro read
      rw [insertValues] at read
      split at read
      next next inserted =>
        obtain ⟨rule, described, rfl⟩ := insertValue_ok_iff.mp inserted
        obtain ⟨rules, others, rfl⟩ := ih.mp read
        exact ⟨(name, rule) :: rules, .cons ⟨rfl, described⟩ others, rfl⟩
      next => cases read
    · rintro ⟨rules, described, rfl⟩
      cases described with
      | @cons _ p _ rules first others =>
        obtain ⟨name, rule⟩ := p
        obtain ⟨rfl, described⟩ := first
        rw [insertValues, insertValue_ok_iff.mpr ⟨rule, described, rfl⟩]
        exact ih.mpr ⟨rules, others, rfl⟩

/-- The first value that describes no rule decides, whatever comes after it. -/
theorem insertValues_error_iff :
    set.insertValues members = .error e ↔
      ∃ before name v after, members = before ++ (name, v) :: after ∧
        (∀ m ∈ before, ∃ rule, Describes m.2 rule) ∧ (∀ rule, ¬ Describes v rule) ∧ e = .invalidRule name := by
  induction members generalizing set with
  | nil => simp [insertValues]
  | cons m members ih =>
    obtain ⟨name, v⟩ := m
    constructor
    · intro failed
      rw [insertValues] at failed
      split at failed
      next next inserted =>
        obtain ⟨rule, described, -⟩ := insertValue_ok_iff.mp inserted
        obtain ⟨before, name', v', after, rfl, earlier, refused⟩ := ih.mp failed
        exact ⟨(name, v) :: before, name', v', after, rfl,
          List.forall_mem_cons.mpr ⟨⟨rule, described⟩, earlier⟩, refused⟩
      next e' refused =>
        cases failed
        exact ⟨[], name, v, members, rfl, by simp, insertValue_error_iff.mp refused⟩
    · rintro ⟨_ | ⟨m, before⟩, name', v', after, split, earlier, refused⟩
      · cases split
        rw [insertValues, insertValue_error_iff.mpr refused]
      · obtain ⟨rfl, rfl⟩ := List.cons.inj split
        obtain ⟨⟨rule, described⟩, earlier⟩ := List.forall_mem_cons.mp earlier
        rw [insertValues, insertValue_ok_iff.mpr ⟨rule, described, rfl⟩]
        exact ih.mpr ⟨before, name', v', after, rfl, earlier, refused⟩

theorem keys_of_readAs {rules : List (String × Rule)} (read : List.Forall₂ ReadAs members rules) :
    Keyed.keys rules = Keyed.keys members := by
  induction read with
  | nil => rfl
  | cons first _ ih => exact congrArg₂ List.cons first.1 ih

theorem exists_readAs_iff :
    (∃ rules, List.Forall₂ ReadAs members rules) ↔ ∀ m ∈ members, ∃ rule, Describes m.2 rule := by
  induction members with
  | nil => simp
  | cons m members ih =>
    rw [List.forall_mem_cons, ← ih]
    constructor
    · rintro ⟨_ | ⟨p, rules⟩, read⟩
      · cases read
      · obtain ⟨⟨-, described⟩, others⟩ := List.forall₂_cons.mp read
        exact ⟨⟨p.2, described⟩, rules, others⟩
    · rintro ⟨⟨rule, described⟩, rules, others⟩
      exact ⟨(m.1, rule) :: rules, .cons ⟨rfl, described⟩ others⟩

/-- Only mappings are read. A mapping is read if each of its values describes a rule, and with distinct keys
the rules are then those of the members in their order. Otherwise the first value that describes none is
reported under its key, whatever the other values are. -/
theorem ofValue_grammar (v : Value) :
    (ofValue v = .error .notAMapping ↔ ∀ members, v ≠ .object members) ∧
    ∀ members, v = .object members →
      ((∃ set, ofValue v = .ok set) ↔ ∀ m ∈ members, ∃ rule, Describes m.2 rule) ∧
      ((Keyed.keys members).Nodup → ∀ set, ofValue v = .ok set ↔ List.Forall₂ ReadAs members set.rules) ∧
      ∀ e, ofValue v = .error e ↔
        ∃ before name v after, members = before ++ (name, v) :: after ∧
          (∀ m ∈ before, ∃ rule, Describes m.2 rule) ∧ (∀ rule, ¬ Describes v rule) ∧
          e = .invalidRule name := by
  constructor
  · constructor
    · rintro failed members rfl
      obtain ⟨-, name, -, -, -, -, -, other⟩ := insertValues_error_iff.mp failed
      cases other
    · intro other
      cases v with
      | object members => exact absurd rfl (other members)
      | null | bool | int | real | string | array => rfl
  · rintro members rfl
    refine ⟨?_, ?_, fun e => insertValues_error_iff⟩
    · rw [← exists_readAs_iff]
      constructor
      · rintro ⟨set, accepted⟩
        obtain ⟨rules, read, -⟩ := insertValues_ok_iff.mp accepted
        exact ⟨rules, read⟩
      · rintro ⟨rules, read⟩
        exact ⟨empty.insertAll rules, insertValues_ok_iff.mpr ⟨rules, read, rfl⟩⟩
    · intro distinct set
      have kept : ∀ rules, List.Forall₂ ReadAs members rules → empty.insertAll rules = ⟨rules⟩ := by
        intro rules read
        rw [insertAll_empty, Keyed.ofList_of_nodup (keys_of_readAs read ▸ distinct)]
      rw [ofValue, insertValues_ok_iff]
      constructor
      · rintro ⟨rules, read, rfl⟩
        rw [kept rules read]
        exact read
      · intro read
        exact ⟨set.rules, read, (kept set.rules read).symm⟩

/-- The key `pattern` holds no string, so `source` beside it does not help, and the number comes too late. -/
def lostSource : List (String × Value) :=
  [("close", .string "]"), ("open", .object [("pattern", .bool true), ("source", .string "<")]),
    ("marker", .int 42)]

def givenSource : List (String × Value) :=
  [("open", .object [("flags", .null), ("source", .string "<(b)?")]), ("marker", .array [.string "*"])]

theorem ofValue_grammar_source :
    ofValue (.object lostSource) = .error (.invalidRule "open") ∧
      (Keyed.keys givenSource).Nodup ∧
      ofValue (.object givenSource) =
        .ok ⟨[("open", .pattern "<(b)?" ""), ("marker", .alternatives ["*"])]⟩ := by
  have distinct : (Keyed.keys givenSource).Nodup := by decide
  obtain ⟨-, lost⟩ := ofValue_grammar (.object lostSource)
  obtain ⟨-, given⟩ := ofValue_grammar (.object givenSource)
  obtain ⟨-, -, refused⟩ := lost lostSource rfl
  obtain ⟨-, accepted, -⟩ := given givenSource rfl
  refine ⟨(refused _).mpr ?_, distinct, (accepted distinct _).mpr ?_⟩
  · refine ⟨lostSource.take 1, "open", _, lostSource.drop 2, rfl, ?_, ?_, rfl⟩
    · intro m member
      obtain rfl : m = ("close", .string "]") := by simpa [lostSource] using member
      exact ⟨_, .literal "]"⟩
    · intro rule described
      cases ofValue?_eq_some_iff.mpr described
  · refine .cons ⟨rfl, .pattern (.source rfl rfl) (.null rfl)⟩ (.cons ⟨rfl, ?_⟩ .nil)
    exact .alternatives ["*"]

end RuleSet

end BlockMarkup
