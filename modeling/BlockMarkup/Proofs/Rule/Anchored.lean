import BlockMarkup.Proofs.Pattern.Bounds
import BlockMarkup.Proofs.Rule.Compiling
import BlockMarkup.Proofs.Rule.Source

/-!
# Which rules are anchored

A literal, a list and a pattern that can be read on its own match only at the start of a text. The
group around a pattern is put there as text, so a pattern that closes it and opens another one is not
held back: `a)|(?:b` compiles, and finds a `b` anywhere (`escaping_pattern_not_anchored`).
-/

namespace BlockMarkup

namespace Pattern

theorem isAnchored_of_atStart {flags after : Flags} {kind : GroupKind} {body : Ast} {e : Expr}
    (meant : Expr.ofAst? flags (atStart kind body) = some (e, after)) :
    (Program.ofExpr e).isAnchored = true := by
  obtain ⟨⟨es, left⟩, items, same⟩ := Option.map_eq_some_iff.mp meant
  cases same
  obtain ⟨⟨test, between⟩, first, items⟩ := Option.bind_eq_some_iff.mp items
  obtain ⟨⟨es, left⟩, -, same⟩ := Option.map_eq_some_iff.mp items
  cases first
  cases same
  rfl

theorem isAnchored_of_read {flags : Flags} {source : List Char} {program : Program}
    (compiled : compile? flags source = some program)
    (read : ∀ ast, read? source = some ast → ∃ kind body, ast = atStart kind body) :
    program.isAnchored = true := by
  obtain ⟨ast, known, compiled⟩ := Option.bind_eq_some_iff.mp compiled
  obtain ⟨⟨e, left⟩, meant, small⟩ := Option.bind_eq_some_iff.mp compiled
  obtain ⟨kind, body, rfl⟩ := read ast known
  dsimp only at small
  split at small
  next =>
    cases small
    exact isAnchored_of_atStart meant
  next => cases small

end Pattern

namespace Rule

open Pattern (read? atStart)

/-- The rule is a literal or a list, or its pattern can be read on its own. -/
def SelfContained : Rule → Prop
  | pattern source _ => (read? source.toList).isSome
  | literal _ | alternatives _ => True

theorem SelfContained.read {rule : Rule} (whole : rule.SelfContained) {ast : Pattern.Ast}
    (read : read? rule.patternSource = some ast) : ∃ kind body, ast = atStart kind body := by
  cases rule with
  | literal text => exact ⟨_, _, (Option.some.inj ((read_literal text).symm.trans read)).symm⟩
  | alternatives texts => exact ⟨_, _, (Option.some.inj ((read_alternatives texts).symm.trans read)).symm⟩
  | pattern source flags =>
    obtain ⟨body, alone⟩ := Option.isSome_iff_exists.mp whole
    exact ⟨_, _, read_pattern alone read⟩

/-- Where a rule is a literal, a list, or a pattern that can be read on its own, the pattern that it is
compiled to matches at the start of a text only, whatever its flags say. -/
theorem compile_anchored (name : String) (rule : Rule) (r : CompiledRule)
    (compiled : rule.compile name = .ok r) (whole : rule.SelfContained) : r.Anchored := by
  obtain ⟨flags, program⟩ := compile_ok compiled
  exact CompiledRule.anchored_of_program (Pattern.isAnchored_of_read program fun _ => whole.read)

theorem compile_anchored_lines : ∃ r, (pattern "^a|b$" "m").compile "marker" = .ok r ∧ r.Anchored :=
  ⟨_, rfl, compile_anchored "marker" (pattern "^a|b$" "m") _ rfl rfl⟩

theorem escaping_pattern_not_anchored :
    ∃ r, (pattern "a)|(?:b" "").compile "marker" = .ok r ∧ ¬ r.Anchored :=
  ⟨_, rfl, fun anchored => by
    have found := anchored "xb".toList ⟨1, 2, []⟩ (by decide +kernel)
    cases found⟩

end Rule

end BlockMarkup
