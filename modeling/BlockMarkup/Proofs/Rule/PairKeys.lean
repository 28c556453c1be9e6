import BlockMarkup.Document
import BlockMarkup.Proofs.Rule.Listed

/-!
# What tokens are paired by

The tokens of a list are paired by position, those of a pattern by its first group. No other tokens have
a key (`scanSource_keys`).
-/

namespace BlockMarkup

namespace Rule

def IsList : Rule → Prop
  | alternatives _ => True
  | literal _ | pattern _ _ => False

/-- The rule is a pattern with a group. -/
def Captures : Rule → Prop
  | pattern source flags => ∃ name r, (pattern source flags).compile name = .ok r ∧ r.hasParams
  | literal _ | alternatives _ => False

/-- The keys that the tokens of a rule can have. -/
def Keys (rule : Rule) : PairKey → Prop
  | .alternative _ => rule.IsList
  | .param _ => rule.Captures

end Rule

variable {rules : List (String × Rule)} {compiled : List CompiledRule} {source : List Char} {t : Token}
  {key : PairKey}

theorem key_of_params (unlisted : t.alternative = none) (known : PairKey.ofToken? t = some key) :
    t.params ≠ none ∧ ∃ text, key = .param text := by
  simp only [PairKey.ofToken?, unlisted, Option.map_eq_some_iff] at known
  obtain ⟨text, first, rfl⟩ := known
  refine ⟨?_, text, rfl⟩
  intro absent
  simp [Token.firstParam, absent] at first

theorem captures_none {r : CompiledRule} (ungrouped : r.hasParams = false) (rest : List Char)
    (m : Pattern.Match) : r.captures rest m = none := by
  have none : r.program.groups = 0 := by simpa [CompiledRule.hasParams] using ungrouped
  simp [CompiledRule.captures, none]

theorem unlisted_alternative {r : CompiledRule} (single : r.alternatives = none) (text : String) :
    r.alternativeIndex text = none := by
  rw [CompiledRule.alternativeIndex, single]
  rfl

theorem literal_ungrouped {name text : String} {r : CompiledRule}
    (known : (Rule.literal text).compile name = .ok r) : r.hasParams = false := by
  rw [Rule.compile_literal] at known
  split at known
  next =>
    cases known
    exact (CompiledRule.verbatim_of_program rfl).ungrouped
  next => cases known

theorem Made.keys (ok : compileAll rules = .ok compiled) {origin : Origin}
    (made : Made compiled source (origin, t)) (known : PairKey.ofToken? t = some key) :
    ∃ rule, (t.type, rule) ∈ rules ∧ rule.Keys key := by
  cases made with
  | text value loc => cases known
  | @rule rest r m left wins loc =>
    obtain ⟨⟨name, rule⟩, member, compiles⟩ := compileAll_mem ok wins.mem
    obtain ⟨rfl, literals⟩ := Rule.compile_keeps compiles
    refine ⟨rule, member, ?_⟩
    cases rule with
    | alternatives texts =>
      obtain ⟨i, text, chosen, rfl⟩ := list_match compiles wins.found wins.nonempty
      obtain ⟨value, -, position⟩ := list_reports compiles chosen
      simp only [PairKey.ofToken?, value, position, Option.some.injEq] at known
      exact known ▸ trivial
    | literal text =>
      have absent := captures_none (literal_ungrouped compiles) rest m
      obtain ⟨grouped, -⟩ := key_of_params (unlisted_alternative literals _) known
      exact absurd absent grouped
    | pattern source flags =>
      obtain ⟨grouped, text, rfl⟩ := key_of_params (unlisted_alternative literals _) known
      refine ⟨r.name, r, compiles, ?_⟩
      by_contra ungrouped
      exact grouped (captures_none (by simpa using ungrouped) rest m)

/-- A token with a key comes of a rule that gives such keys. -/
theorem scanSource_keys {rules : RuleSet} {source : String} {tokens : List Token}
    (scanned : scanSource rules source = .ok tokens) (member : t ∈ tokens)
    (known : PairKey.ofToken? t = some key) : ∃ rule, (t.type, rule) ∈ rules.rules ∧ rule.Keys key := by
  unfold scanSource at scanned
  split at scanned
  next => cases scanned
  next compiled ok =>
    split at scanned
    next => cases scanned
    next tokens' found =>
      cases scanned
      rw [tokenize_eq_trace] at found
      obtain ⟨parts, traced, rfl⟩ := Option.map_eq_some_iff.mp found
      obtain ⟨⟨origin, t⟩, part, rfl⟩ := List.mem_map.mp member
      exact (trace_made traced _ part).keys ok known

end BlockMarkup
