import BlockMarkup.Proofs.Rule.Verbatim
import BlockMarkup.Proofs.Token.Parts
import BlockMarkup.Proofs.Token.Scans

/-!
# The order of rules

A scan asks its rules only which match comes first, and only where the source goes on. So a rule that is
always behind another one can be left out, and neighbours that never hit together can change places
(`tokenize_rule_order`).
-/

namespace BlockMarkup

variable {rules rules' : List CompiledRule}

/-! ### Two scans side by side -/

namespace Scanner

theorem step_rest {s u : Scanner} (stepped : s.step rules = some u) : u.rest <:+ s.rest := by
  unfold step at stepped
  cases chosen : firstMatch s.rest rules with
  | some winner =>
    simp only [chosen, emit] at stepped
    obtain ⟨rest, dropped, rfl⟩ := Option.map_eq_some_iff.mp stepped
    rw [Tracer.flush_rest] at dropped
    exact dropBytes_suffix dropped
  | none =>
    simp only [chosen] at stepped
    cases rest : s.rest with
    | nil =>
      simp only [rest, Option.some.injEq] at stepped
      have same : u.rest = [] := by rw [← stepped, rest]
      exact same ▸ List.suffix_refl _
    | cons c cs =>
      simp only [rest, Option.some.injEq] at stepped
      exact stepped ▸ List.suffix_cons c cs

theorem step_congr {s : Scanner} (agree : firstMatch s.rest rules = firstMatch s.rest rules') :
    s.step rules = s.step rules' := by
  rw [step, step, agree]

theorem run_congr {s : Scanner}
    (agree : ∀ rest, rest <:+ s.rest → firstMatch rest rules = firstMatch rest rules') (fuel : Nat) :
    s.run rules fuel = s.run rules' fuel := by
  induction fuel generalizing s with
  | zero => rfl
  | succ fuel ih =>
    rw [run, run, step_congr (agree s.rest (List.suffix_refl _))]
    cases stepped : s.step rules' with
    | none => rfl
    | some u =>
      have onward : u.rest <:+ s.rest := step_rest stepped
      have later := ih (s := u) fun rest left => agree rest (left.trans onward)
      simp only [later]

end Scanner

theorem tokenize_congr {source : String}
    (agree : ∀ rest, rest <:+ source.toList → firstMatch rest rules = firstMatch rest rules') :
    tokenize rules source = tokenize rules' source := by
  rw [tokenize, tokenize, Scanner.run_congr (s := .start source.toList) agree]

/-! ### Rules that make no difference -/

variable {rest : List Char} {earlier : List CompiledRule} {a b : CompiledRule}

/-- Rules behind one that hits are not asked. -/
theorem firstMatch_of_hit (hit : Hit earlier rest) (later : List CompiledRule) :
    firstMatch rest (earlier ++ later) = firstMatch rest earlier := by
  obtain ⟨r, m, wins⟩ := hit.wins
  obtain ⟨before, after, split, missed⟩ := wins.first
  have wins' : Wins (earlier ++ later) rest r m :=
    ⟨wins.found, wins.nonempty, before, after ++ later, by simp [split], missed⟩
  rw [wins.firstMatch, wins'.firstMatch]

theorem firstMatch_covered (covered : b.Hits rest → Hit earlier rest) (later : List CompiledRule) :
    firstMatch rest (earlier ++ b :: later) = firstMatch rest (earlier ++ later) := by
  by_cases hits : b.Hits rest
  · rw [firstMatch_of_hit (covered hits), firstMatch_of_hit (covered hits)]
  · exact firstMatch_skip hits earlier later

theorem firstMatch_swap (apart : ¬ (a.Hits rest ∧ b.Hits rest)) (earlier later : List CompiledRule) :
    firstMatch rest (earlier ++ a :: b :: later) = firstMatch rest (earlier ++ b :: a :: later) := by
  by_cases hits : a.Hits rest
  · have missed : ¬ b.Hits rest := fun other => apart ⟨hits, other⟩
    have behind := firstMatch_skip missed (earlier ++ [a]) later
    rw [List.append_assoc, List.append_assoc] at behind
    rw [firstMatch_skip missed earlier (a :: later)]
    exact behind
  · have behind := firstMatch_skip hits (earlier ++ [b]) later
    rw [List.append_assoc, List.append_assoc] at behind
    rw [firstMatch_skip hits earlier (b :: later)]
    exact behind.symm

/-- A rule that only hits where an earlier one does can be left out. Two neighbours that never hit in one
place can change places. A rule with an empty match does not hit. -/
theorem tokenize_rule_order (earlier later : List CompiledRule) (a b : CompiledRule) (source : String) :
    ((∀ rest, rest <:+ source.toList → b.Hits rest → Hit earlier rest) →
      tokenize (earlier ++ [b] ++ later) source = tokenize (earlier ++ later) source) ∧
    ((∀ rest, rest <:+ source.toList → ¬ (a.Hits rest ∧ b.Hits rest)) →
      tokenize (earlier ++ [a, b] ++ later) source = tokenize (earlier ++ [b, a] ++ later) source) := by
  constructor
  · intro covered
    refine tokenize_congr fun rest left => ?_
    rw [List.append_assoc]
    exact firstMatch_covered (covered rest left) later
  · intro apart
    refine tokenize_congr fun rest left => ?_
    rw [List.append_assoc, List.append_assoc]
    exact firstMatch_swap (apart rest left) earlier later

/-- A tag behind a bracket that it begins with, and two signs. -/
theorem tokenize_rule_order_tags :
    ∃ bracket tag star plus : CompiledRule,
      compileAll [("open", .literal "<"), ("marker", .literal "<b>"), ("marker", .literal "*"),
        ("close", .literal "+")] = .ok [bracket, tag, star, plus] ∧
      (∀ rest, tag.Hits rest → Hit [bracket] rest) ∧ (∀ rest, ¬ (star.Hits rest ∧ plus.Hits rest)) ∧
      tokenize [bracket, tag, star, plus] "a<b>*+" = tokenize [bracket, star, plus] "a<b>*+" ∧
      tokenize [bracket, star, plus] "a<b>*+" = tokenize [bracket, plus, star] "a<b>*+" := by
  obtain ⟨bracket, tag, star, plus, compiled, literals⟩ :
      ∃ bracket tag star plus : CompiledRule,
        compileAll [("open", .literal "<"), ("marker", .literal "<b>"), ("marker", .literal "*"),
          ("close", .literal "+")] = .ok [bracket, tag, star, plus] ∧
        bracket.Verbatim "<" ∧ tag.Verbatim "<b>" ∧ star.Verbatim "*" ∧ plus.Verbatim "+" :=
    ⟨_, _, _, _, rfl, CompiledRule.verbatim_of_program rfl, CompiledRule.verbatim_of_program rfl,
      CompiledRule.verbatim_of_program rfl, CompiledRule.verbatim_of_program rfl⟩
  obtain ⟨isBracket, isTag, isStar, isPlus⟩ := literals
  have covered : ∀ rest, tag.Hits rest → Hit [bracket] rest := by
    intro rest hits
    obtain ⟨-, fits⟩ := (isTag.hits_iff rest).mp hits
    have front : "<".toList <+: "<b>".toList := by decide
    exact ⟨bracket, List.mem_singleton_self _, (isBracket.hits_iff rest).mpr ⟨by decide, front.trans fits⟩⟩
  have apart : ∀ rest, ¬ (star.Hits rest ∧ plus.Hits rest) := by
    rintro rest ⟨left, right⟩
    obtain ⟨-, more, rfl⟩ := (isStar.hits_iff rest).mp left
    obtain ⟨-, other, same⟩ := (isPlus.hits_iff _).mp right
    cases same
  have left := (tokenize_rule_order [bracket] [star, plus] star tag "a<b>*+").1 fun rest _ => covered rest
  have right := (tokenize_rule_order [bracket] [] star plus "a<b>*+").2 fun rest _ => apart rest
  exact ⟨bracket, tag, star, plus, compiled, covered, apart, left, right⟩

end BlockMarkup
