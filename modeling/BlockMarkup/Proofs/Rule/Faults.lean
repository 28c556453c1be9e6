import Mathlib.Data.List.Forall2
import BlockMarkup.Proofs.Rule.Compiling

/-!
# Why rules are refused

Rules are compiled in their order, and the first one that cannot be compiled decides the error
(`RuleSet.compile_first_fault`). In a pattern that is the leftmost letter among its flags that means
nothing, and only without such a letter the source.
-/

namespace BlockMarkup

open Pattern (Flags)

namespace Rule

/-! ### Flags -/

def flagAlphabet : List Char := ['g', 'i', 'm', 's', 'u', 'y']

/-- Flags with those of some letters switched on. It matters only which of three letters occur. -/
def addFlags (flags : Flags) (letters : List Char) : Flags :=
  { flags with
    caseInsensitive := flags.caseInsensitive || letters.contains 'i'
    multiLine := flags.multiLine || letters.contains 'm'
    dotMatchesNewline := flags.dotMatchesNewline || letters.contains 's' }

/-- The leftmost letter that means nothing. -/
def strange? (letters : List Char) : Option Char := letters.find? fun c => !flagAlphabet.contains c

theorem strange?_none {letters : List Char} :
    strange? letters = none ↔ ∀ c ∈ letters, c ∈ flagAlphabet := by
  simp [strange?]

theorem setFlag?_eq (flags : Flags) (c : Char) :
    setFlag? flags c = if c ∈ flagAlphabet then some (addFlags flags [c]) else none := by
  by_cases known : c ∈ flagAlphabet
  · rw [if_pos known]
    simp only [flagAlphabet, List.mem_cons, List.not_mem_nil, or_false] at known
    rcases known with rfl | rfl | rfl | rfl | rfl | rfl <;> simp [setFlag?, addFlags]
  · rw [if_neg known]
    unfold setFlag?
    split
    all_goals first | rfl | exact absurd (by decide) known

theorem addFlags_cons (flags : Flags) (c : Char) (letters : List Char) :
    addFlags (addFlags flags [c]) letters = addFlags flags (c :: letters) := by
  simp [addFlags, Bool.or_assoc]

theorem setFlags_eq (flags : Flags) (letters : List Char) :
    setFlags flags letters =
      match strange? letters with
      | some c => .error c
      | none => .ok (addFlags flags letters) := by
  induction letters generalizing flags with
  | nil => simp [setFlags, strange?, addFlags]
  | cons c letters ih =>
    rw [setFlags, setFlag?_eq]
    by_cases known : c ∈ flagAlphabet
    · have same : strange? (c :: letters) = strange? letters := by simp [strange?, known]
      rw [if_pos known, same]
      dsimp only
      rw [ih, addFlags_cons]
    · have found : strange? (c :: letters) = some c := by simp [strange?, known]
      rw [if_neg known, found]

/-! ### One rule -/

/-- Why a rule of this name is refused. A letter that means nothing comes first, whatever the source is. -/
inductive Fault (name : String) : Rule → RuleError → Prop
  | letter {source flags : String} {c : Char} (leftmost : strange? flags.toList = some c) :
      Fault name (.pattern source flags) (.unsupportedFlag name c)
  | source {rule : Rule} (known : ∀ c ∈ rule.flagLetters, c ∈ flagAlphabet)
      (refused : Pattern.compile? (addFlags {} rule.flagLetters) rule.patternSource = none) :
      Fault name rule (.invalidPattern name)

variable {name : String} {rule : Rule} {e : RuleError}

theorem compile_eq (name : String) (rule : Rule) (known : ∀ c ∈ rule.flagLetters, c ∈ flagAlphabet) :
    rule.compile name =
      match Pattern.compile? (addFlags {} rule.flagLetters) rule.patternSource with
      | none => .error (.invalidPattern name)
      | some program => .ok
        { name, source := String.ofList rule.patternSource, program, alternatives := rule.literals? } := by
  have flags : setFlags {} rule.flagLetters = .ok (addFlags {} rule.flagLetters) := by
    rw [setFlags_eq, strange?_none.mpr known]
  cases compiled : Pattern.compile? (addFlags {} rule.flagLetters) rule.patternSource <;>
    simp only [compile, flags, compiled]

theorem compile_strange {c : Char} (leftmost : strange? rule.flagLetters = some c) :
    rule.compile name = .error (.unsupportedFlag name c) := by
  rw [compile, setFlags_eq, leftmost]

theorem compile_error_iff : rule.compile name = .error e ↔ Fault name rule e := by
  constructor
  · intro failed
    cases letters : strange? rule.flagLetters with
    | some c =>
      cases (compile_strange letters).symm.trans failed
      cases rule with
      | pattern source flags => exact .letter letters
      | literal | alternatives => cases letters
    | none =>
      have known := strange?_none.mp letters
      rw [compile_eq name rule known] at failed
      split at failed
      next refused =>
        cases failed
        exact .source known refused
      next => cases failed
  · rintro (leftmost | ⟨known, refused⟩)
    · exact compile_strange leftmost
    · rw [compile_eq name rule known, refused]

/-- Of the flags of a pattern it matters only which of the three letters occur that switch something on. -/
theorem compile_alike (name source : String) {flags flags' : String}
    (known : ∀ c ∈ flags.toList, c ∈ flagAlphabet) (known' : ∀ c ∈ flags'.toList, c ∈ flagAlphabet)
    (alike : ∀ c ∈ ['i', 'm', 's'], c ∈ flags.toList ↔ c ∈ flags'.toList) :
    (pattern source flags).compile name = (pattern source flags').compile name := by
  have same : addFlags {} flags.toList = addFlags {} flags'.toList := by
    have occurs : ∀ c ∈ ['i', 'm', 's'], flags.toList.contains c = flags'.toList.contains c := by
      intro c member
      rw [Bool.eq_iff_iff, List.contains_iff_mem, List.contains_iff_mem]
      exact alike c member
    simp only [addFlags, occurs, List.mem_cons, true_or, or_true]
  rw [compile_eq name (pattern source flags) known, compile_eq name (pattern source flags') known',
    flagLetters, flagLetters, same]
  rfl

theorem literals?_eq_some {texts : List String} : rule.literals? = some texts ↔ rule = .alternatives texts := by
  cases rule <;> simp [literals?]

end Rule

/-! ### Rule sets -/

variable {rules : List (String × Rule)} {e : RuleError}

theorem compileAll_ok_iff {compiled : List CompiledRule} :
    compileAll rules = .ok compiled ↔
      List.Forall₂ (fun p r => p.2.compile p.1 = .ok r) rules compiled := by
  induction rules generalizing compiled with
  | nil => simp [compileAll, eq_comm]
  | cons p rules ih =>
    rw [compileAll_cons, List.forall₂_cons_left_iff]
    constructor
    · rintro ⟨r, others, first, later, rfl⟩
      exact ⟨r, others, first, ih.mp later, rfl⟩
    · rintro ⟨r, others, first, later, rfl⟩
      exact ⟨r, others, first, ih.mpr later, rfl⟩

/-- The rule that decides has a fault, and all before it can be compiled. -/
theorem compileAll_error_iff :
    compileAll rules = .error e ↔
      ∃ before name rule after, rules = before ++ (name, rule) :: after ∧
        (∀ p ∈ before, ∃ r, p.2.compile p.1 = .ok r) ∧ rule.Fault name e := by
  induction rules with
  | nil => simp [compileAll]
  | cons p rules ih =>
    obtain ⟨name, rule⟩ := p
    rw [compileAll_cons_error, ih, Rule.compile_error_iff]
    constructor
    · rintro (fault | ⟨compiles, before, name', rule', after, rfl, earlier, fault⟩)
      · exact ⟨[], name, rule, rules, rfl, by simp, fault⟩
      · exact ⟨(name, rule) :: before, name', rule', after, rfl,
          List.forall_mem_cons.mpr ⟨compiles, earlier⟩, fault⟩
    · rintro ⟨_ | ⟨p, before⟩, name', rule', after, split, earlier, fault⟩
      · cases split
        exact .inl fault
      · obtain ⟨rfl, rfl⟩ := List.cons.inj split
        obtain ⟨compiles, earlier⟩ := List.forall_mem_cons.mp earlier
        exact .inr ⟨compiles, before, name', rule', after, rfl, earlier, fault⟩

theorem compileAll_ok_of_all (all : ∀ p ∈ rules, ∃ r, p.2.compile p.1 = .ok r) :
    ∃ compiled, compileAll rules = .ok compiled := by
  cases result : compileAll rules with
  | ok compiled => exact ⟨compiled, rfl⟩
  | error e =>
    obtain ⟨p, member, failed⟩ := compileAll_error result
    obtain ⟨r, compiles⟩ := all p member
    cases failed.symm.trans compiles

/-- A rule set is compiled if each of its rules is, and then rule by rule: in order, under their names, with
literals for lists only. Otherwise the first rule with a fault is reported. Where its flags all mean
something, a pattern is compiled alike however they are ordered, repeated or joined by those without effect. -/
theorem RuleSet.compile_first_fault (set : RuleSet) :
    ((∃ compiled, set.compile = .ok compiled) ↔ ∀ p ∈ set.rules, ∃ r, p.2.compile p.1 = .ok r) ∧
    (∀ compiled, set.compile = .ok compiled →
      List.Forall₂ (fun p r => p.2.compile p.1 = .ok r ∧ r.name = p.1 ∧
        ∀ texts, r.alternatives = some texts ↔ p.2 = .alternatives texts) set.rules compiled) ∧
    (∀ e, set.compile = .error e ↔
      ∃ before name rule after, set.rules = before ++ (name, rule) :: after ∧
        (∀ p ∈ before, ∃ r, p.2.compile p.1 = .ok r) ∧ rule.Fault name e) ∧
    (∀ name source flags flags', (∀ c ∈ flags.toList, c ∈ Rule.flagAlphabet) →
      (∀ c ∈ flags'.toList, c ∈ Rule.flagAlphabet) →
      (∀ c ∈ ['i', 'm', 's'], c ∈ flags.toList ↔ c ∈ flags'.toList) →
      (Rule.pattern source flags).compile name = (Rule.pattern source flags').compile name) := by
  refine ⟨⟨?_, compileAll_ok_of_all⟩, ?_, fun e => compileAll_error_iff, ?_⟩
  · rintro ⟨compiled, ok⟩ p member
    obtain ⟨before, after, split⟩ := List.append_of_mem member
    rw [compile, split] at ok
    obtain ⟨-, r, -, -, -, compiles, -⟩ := compileAll_split ok
    exact ⟨r, compiles⟩
  · intro compiled ok
    refine (compileAll_ok_iff.mp ok).imp fun p r compiles => ?_
    obtain ⟨named, listed⟩ := Rule.compile_keeps compiles
    exact ⟨compiles, named, fun texts => by rw [listed, Rule.literals?_eq_some]⟩
  · intro name source flags flags' known known' alike
    exact Rule.compile_alike name source known known' alike

/-- The second rule has an unknown flag and a source that cannot be read, and the third one such a source. -/
def faultyRules : List (String × Rule) :=
  [("open", .alternatives ["<", "("]), ("marker", .pattern "(" "giqx"), ("close", .pattern "(" "")]

theorem RuleSet.compile_first_fault_letter :
    RuleSet.compile ⟨faultyRules⟩ = .error (.unsupportedFlag "marker" 'q') ∧
      (∃ compiled, RuleSet.compile ⟨faultyRules.take 1⟩ = .ok compiled ∧
        List.Forall₂ (fun p r => p.2.compile p.1 = .ok r ∧ r.name = p.1 ∧
          ∀ texts, r.alternatives = some texts ↔ p.2 = .alternatives texts) (faultyRules.take 1) compiled) ∧
      (Rule.pattern "a(b)" "mi").compile "close" = (Rule.pattern "a(b)" "gimyiu").compile "close" := by
  have list : ∀ p ∈ faultyRules.take 1, ∃ r, p.2.compile p.1 = .ok r := by
    intro p member
    obtain rfl : p = ("open", .alternatives ["<", "("]) := by simpa [faultyRules] using member
    exact ⟨_, rfl⟩
  obtain ⟨-, -, faults, alike⟩ := RuleSet.compile_first_fault ⟨faultyRules⟩
  obtain ⟨compiles, keeps, -, -⟩ := RuleSet.compile_first_fault ⟨faultyRules.take 1⟩
  obtain ⟨compiled, ok⟩ := compiles.mpr list
  refine ⟨(faults _).mpr ?_, ⟨compiled, ok, keeps compiled ok⟩, ?_⟩
  · exact ⟨faultyRules.take 1, "marker", _, faultyRules.drop 2, rfl, list, .letter (by decide)⟩
  · exact alike "close" "a(b)" "mi" "gimyiu" (by simp [Rule.flagAlphabet]) (by simp [Rule.flagAlphabet])
      (by simp)

end BlockMarkup
