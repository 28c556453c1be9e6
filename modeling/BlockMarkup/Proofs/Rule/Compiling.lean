import BlockMarkup.Rule.Compiled

/-!
# What compiling gives

A rule whose pattern has a meaning under its flags is compiled, unless it is too large
(`Rule.compile_of_meant`). A rule set is compiled rule by rule.
-/

namespace BlockMarkup

open Pattern (Expr sizeLimit read?)

namespace Rule

theorem compile_ok {name : String} {rule : Rule} {r : CompiledRule} (compiled : rule.compile name = .ok r) :
    ∃ flags, Pattern.compile? flags rule.patternSource = some r.program := by
  unfold compile at compiled
  split at compiled
  next => cases compiled
  next flags _ =>
    split at compiled
    next => cases compiled
    next program known =>
      cases compiled
      exact ⟨flags, known⟩

theorem compile_keeps {name : String} {rule : Rule} {r : CompiledRule}
    (compiled : rule.compile name = .ok r) : r.name = name ∧ r.alternatives = rule.literals? := by
  unfold compile at compiled
  split at compiled
  next => cases compiled
  next =>
    split at compiled
    next => cases compiled
    next =>
      cases compiled
      exact ⟨rfl, rfl⟩

/-- Where the pattern of a rule has a meaning under its flags, the rule is refused for its size only. -/
theorem compile_of_meant (name : String) {rule : Rule} {e : Expr} {flags after : Pattern.Flags}
    (flagged : setFlags {} rule.flagLetters = .ok flags)
    (meant : (read? rule.patternSource).bind (Expr.ofAst? flags) = some (e, after)) :
    rule.compile name =
      if e.size ≤ sizeLimit then
        .ok { name, source := String.ofList rule.patternSource, program := .ofExpr e,
              alternatives := rule.literals? }
      else .error (.invalidPattern name) := by
  have program : Pattern.compile? flags rule.patternSource =
      if e.size ≤ sizeLimit then some (.ofExpr e) else none := by
    rw [Pattern.compile?, ← Option.bind_assoc, meant]
    rfl
  unfold compile
  rw [flagged]
  dsimp only
  rw [program]
  by_cases small : e.size ≤ sizeLimit
  · rw [if_pos small, if_pos small]
  · rw [if_neg small, if_neg small]

theorem compile_of_unread (name : String) {rule : Rule} {flags : Pattern.Flags}
    (flagged : setFlags {} rule.flagLetters = .ok flags) (unread : read? rule.patternSource = none) :
    rule.compile name = .error (.invalidPattern name) := by
  have refused : Pattern.compile? flags rule.patternSource = none := by rw [Pattern.compile?, unread]; rfl
  unfold compile
  rw [flagged]
  dsimp only
  rw [refused]

end Rule

/-! ### Rule sets -/

theorem compileAll_cons {name : String} {rule : Rule} {rules : List (String × Rule)}
    {compiled : List CompiledRule} :
    compileAll ((name, rule) :: rules) = .ok compiled ↔
      ∃ r others, rule.compile name = .ok r ∧ compileAll rules = .ok others ∧ compiled = r :: others := by
  rw [compileAll]
  cases rule.compile name with
  | error e => simp
  | ok r =>
    cases compileAll rules with
    | error e => simp
    | ok others => simp [eq_comm]

theorem compileAll_cons_error {name : String} {rule : Rule} {rules : List (String × Rule)} {e : RuleError} :
    compileAll ((name, rule) :: rules) = .error e ↔
      rule.compile name = .error e ∨ (∃ r, rule.compile name = .ok r) ∧ compileAll rules = .error e := by
  rw [compileAll]
  cases rule.compile name with
  | error e' => simp
  | ok r => cases compileAll rules <;> simp

/-- Rules that can be compiled can be compiled in any order. -/
theorem compileAll_perm {rules others : List (String × Rule)} (order : rules.Perm others)
    {compiled : List CompiledRule} (ok : compileAll rules = .ok compiled) :
    ∃ again, compileAll others = .ok again ∧ compiled.Perm again := by
  induction order generalizing compiled with
  | nil => exact ⟨compiled, ok, .refl compiled⟩
  | cons pair _ ih =>
    obtain ⟨r, rest, first, tail, rfl⟩ := compileAll_cons.mp ok
    obtain ⟨again, ok, order⟩ := ih tail
    exact ⟨r :: again, compileAll_cons.mpr ⟨r, again, first, ok, rfl⟩, order.cons r⟩
  | swap a b rules =>
    obtain ⟨r, more, first, later, rfl⟩ := compileAll_cons.mp ok
    obtain ⟨q, rest, second, last, rfl⟩ := compileAll_cons.mp later
    exact ⟨q :: r :: rest,
      compileAll_cons.mpr ⟨q, r :: rest, second, compileAll_cons.mpr ⟨r, rest, first, last, rfl⟩, rfl⟩,
      .swap q r rest⟩
  | trans _ _ ih ih' =>
    obtain ⟨middle, ok, order⟩ := ih ok
    obtain ⟨again, ok, order'⟩ := ih' ok
    exact ⟨again, ok, order.trans order'⟩

/-- What cannot be compiled has a rule that cannot. -/
theorem compileAll_error {rules : List (String × Rule)} {e : RuleError} (failed : compileAll rules = .error e) :
    ∃ pair ∈ rules, pair.2.compile pair.1 = .error e := by
  induction rules with
  | nil => cases failed
  | cons pair rules ih =>
    rcases compileAll_cons_error.mp failed with refused | ⟨-, later⟩
    · exact ⟨pair, List.mem_cons_self, refused⟩
    · obtain ⟨pair, member, refused⟩ := ih later
      exact ⟨pair, List.mem_cons_of_mem _ member, refused⟩

theorem compileAll_split {before after : List (String × Rule)} {name : String} {rule : Rule}
    {compiled : List CompiledRule} (ok : compileAll (before ++ (name, rule) :: after) = .ok compiled) :
    ∃ earlier r later, compiled = earlier ++ r :: later ∧ compileAll before = .ok earlier ∧
      rule.compile name = .ok r ∧ compileAll after = .ok later := by
  induction before generalizing compiled with
  | nil =>
    obtain ⟨r, later, first, rest, rfl⟩ := compileAll_cons.mp ok
    exact ⟨[], r, later, rfl, rfl, first, rest⟩
  | cons pair before ih =>
    obtain ⟨q, others, first, rest, rfl⟩ := compileAll_cons.mp ok
    obtain ⟨earlier, r, later, rfl, left, known, right⟩ := ih rest
    exact ⟨q :: earlier, r, later, rfl, compileAll_cons.mpr ⟨q, earlier, first, left, rfl⟩, known, right⟩

theorem compileAll_mem {rules : List (String × Rule)} {compiled : List CompiledRule} {r : CompiledRule}
    (ok : compileAll rules = .ok compiled) (member : r ∈ compiled) :
    ∃ pair ∈ rules, pair.2.compile pair.1 = .ok r := by
  induction rules generalizing compiled with
  | nil =>
    cases ok
    cases member
  | cons pair rules ih =>
    obtain ⟨q, others, first, rest, rfl⟩ := compileAll_cons.mp ok
    rcases List.mem_cons.mp member with rfl | member
    · exact ⟨pair, List.mem_cons_self, first⟩
    · obtain ⟨pair, known, same⟩ := ih rest member
      exact ⟨pair, List.mem_cons_of_mem _ known, same⟩

end BlockMarkup
