import BlockMarkup.Proofs.Pattern.OneCharacter
import BlockMarkup.Proofs.Rule.Listed

/-!
# Rules for single characters

What a literal of one character and a list of such literals are compiled to. A list may be too large
for a pattern, and only then it is refused.
-/

namespace BlockMarkup

/-! ### Compiled rules -/

open Pattern (Expr sizeLimit)

namespace CompiledRule

def list (name : String) (chars : List Char) : CompiledRule :=
  { name
    source := String.ofList (Rule.alternatives (chars.map String.singleton)).patternSource
    program := .ofExpr (.list chars)
    alternatives := some (chars.map String.singleton) }

def single (name : String) (c : Char) : CompiledRule :=
  { name
    source := String.ofList (Rule.literal (String.singleton c)).patternSource
    program := .ofExpr (.single c)
    alternatives := none }

end CompiledRule

namespace Rule

theorem compile_list (name : String) {chars : List Char} (filled : chars ≠ []) :
    (alternatives (chars.map String.singleton)).compile name =
      if (Expr.list chars).size ≤ sizeLimit then .ok (.list name chars) else .error (.invalidPattern name) := by
  have texts : (chars.map String.singleton).map (·.toList) = chars.map fun c => [c] := by simp
  rw [compile_alternatives, texts, Pattern.listed_chars filled]
  rfl

theorem compile_single (name : String) (c : Char) :
    (literal (String.singleton c)).compile name = .ok (.single name c) := by
  have small : (Expr.verbatim [c]).size ≤ sizeLimit := by
    have bytes := c.utf8Size_le_four
    have limit : sizeLimit = 10485760 := rfl
    simp only [Expr.verbatim, Expr.word, Expr.size, Expr.sizes, limit]
    omega
  rw [compile_literal, String.toList_singleton, if_pos small]
  rfl

end Rule

/-! ### Matching -/

variable {rules : List CompiledRule} {r : CompiledRule} {chars : List Char} {marks : List (Nat × Nat)}
  {c : Char} {rest : List Char}

theorem CompiledRule.hits_iff (takes : r.program.Takes chars marks) :
    r.Hits (c :: rest) ↔ c ∈ chars := by
  unfold Hits
  rw [takes]
  by_cases taken : c ∈ chars <;> simp [taken]

theorem CompiledRule.anchored_of_takes (takes : r.program.Takes chars marks) : r.Anchored := by
  intro text m found
  rw [takes] at found
  split at found
  next => cases found
  next =>
    split at found
    next => cases found; rfl
    next => cases found

/-- Of rules for different characters the one for the first character wins. -/
theorem wins_of_takes (member : r ∈ rules) (takes : r.program.Takes chars marks) (taken : c ∈ chars)
    (others : ∀ q ∈ rules, q.Hits (c :: rest) → q = r) :
    Wins rules (c :: rest) r { start := 0, stop := 1, marks } := by
  have hit : Hit rules (c :: rest) := ⟨r, member, (CompiledRule.hits_iff takes).mpr taken⟩
  obtain ⟨q, m, wins⟩ := hit.wins
  obtain rfl := others q wins.mem ⟨m, wins.found, wins.nonempty⟩
  have found := wins.found
  rw [takes] at found
  simp only [taken, if_true, Option.some.injEq] at found
  exact found ▸ wins

end BlockMarkup
