import BlockMarkup.Proofs.Pattern.Words
import BlockMarkup.Proofs.Rule.Compiling
import BlockMarkup.Proofs.Rule.Source
import BlockMarkup.Proofs.Token.Winner

/-!
# Literals

A literal is compiled to the pattern of its text, unless that is too large, and matches where the text
comes next, character for character (`literal_verbatim`).
-/

namespace BlockMarkup

open Pattern (Expr Program sizeLimit read?)

/-! ### What verbatim texts mean -/

namespace Pattern

theorem ofAst?_literal (c : Char) : Expr.ofAst? {} (.literal { char := c }) = some (.char c, {}) := rfl

theorem ofAsts?_literals (chars : List Char) :
    Expr.ofAsts? {} (chars.map fun c => .literal { char := c }) = some (chars.map .char, {}) := by
  induction chars with
  | nil => rfl
  | cons c chars ih =>
    rw [List.map_cons, Expr.ofAsts?, ofAst?_literal, Option.bind_some]
    dsimp only
    rw [ih]
    rfl

theorem ofAst?_verbatim (text : List Char) : Expr.ofAst? {} (verbatim text) = some (.word text, {}) := by
  rcases text with _ | ⟨c, _ | ⟨d, text⟩⟩
  · rfl
  · rfl
  · have items := ofAsts?_literals (c :: d :: text)
    simp only [verbatim, List.map_cons, sequenceOf] at items ⊢
    rw [Expr.ofAst?, items]
    rfl

/-- The meaning of a group behind a test for the start of the text, which keeps its settings to itself. -/
theorem ofAst?_atStart {f after : Flags} {body : Ast} {e : Expr}
    (meant : Expr.ofAst? f body = some (e, after)) :
    Expr.ofAst? f (atStart (.plain []) body) = some (.concat [.look .textStart, e], f) ∧
      Expr.ofAst? f (atStart (.capturing 1) body) = some (.concat [.look .textStart, .group 1 e], f) := by
  have unchanged : f.setAll [] = f := rfl
  constructor <;>
    simp only [atStart, Expr.ofAst?, Expr.ofAsts?, Option.bind_some, unchanged, meant, Option.map_some] <;>
    rfl

/-! ### Sizes -/

theorem sizes_chars (text : List Char) :
    Expr.sizes (text.map .char) = 32 * (String.ofList text).utf8ByteSize := by
  induction text with
  | nil => rfl
  | cons c text ih =>
    rw [List.map_cons, Expr.sizes, Expr.size, ih, utf8ByteSize_cons, Nat.mul_add]

/-- A text counts with its bytes, and the empty one as one byte. -/
theorem size_word (text : List Char) :
    (Expr.word text).size = 32 * max (String.ofList text).utf8ByteSize 1 := by
  rcases text with _ | ⟨c, text⟩
  · rfl
  · have filled : 1 ≤ (String.ofList (c :: text)).utf8ByteSize := by
      have := c.utf8Size_pos
      rw [utf8ByteSize_cons]
      omega
    have chars : (Expr.word (c :: text)).size = Expr.sizes ((c :: text).map .char) := by
      cases text <;> simp [Expr.word, Expr.size, Expr.sizes]
    rw [chars, sizes_chars, Nat.max_eq_left filled]

theorem size_verbatim (text : List Char) :
    (Expr.verbatim text).size = 32 * (max (String.ofList text).utf8ByteSize 1 + 1) := by
  rw [Expr.verbatim, Expr.size, Expr.sizes, Expr.sizes, Expr.sizes, Expr.size, size_word]
  omega

end Pattern

/-! ### Compiled literals -/

theorem slice_of_prefix {text rest : List Char} (fits : text <+: rest) :
    slice rest 0 text.length = String.ofList text := by
  obtain ⟨more, rfl⟩ := fits
  simp [slice]

namespace CompiledRule

/-- The rule matches this text where it comes next, as it is written, and nothing else. -/
structure Verbatim (r : CompiledRule) (text : String) : Prop where
  ungrouped : r.hasParams = false
  finds : ∀ rest, r.program.find rest =
    if text.toList <+: rest then some { start := 0, stop := text.length } else none
  reports : ∀ rest, r.find? rest = if text.toList <+: rest then some ⟨text, none⟩ else none

theorem verbatim_of_program {r : CompiledRule} {text : String}
    (program : r.program = Program.ofExpr (.verbatim text.toList)) : r.Verbatim text := by
  have groups : r.program.groups = 0 := program ▸ Pattern.groups_verbatim text.toList
  have finds : ∀ rest, r.program.find rest =
      if text.toList <+: rest then some { start := 0, stop := text.length } else none := by
    intro rest
    rw [program, Pattern.find_verbatim, String.length_toList]
  refine ⟨by simp [hasParams, groups], finds, fun rest => ?_⟩
  rw [find?_eq, finds]
  by_cases fits : text.toList <+: rest
  · have value := slice_of_prefix fits
    rw [String.length_toList, String.ofList_toList] at value
    simp [fits, value, captures, groups]
  · simp [fits]

theorem Verbatim.hits_iff {r : CompiledRule} {text : String} (verbatim : r.Verbatim text)
    (rest : List Char) : r.Hits rest ↔ text ≠ "" ∧ text.toList <+: rest := by
  have filled : 0 < text.length ↔ text ≠ "" := by
    rw [Nat.pos_iff_ne_zero, ne_eq, String.length_eq_zero_iff]
  unfold Hits
  rw [verbatim.finds]
  by_cases fits : text.toList <+: rest <;> simp [fits, filled]

end CompiledRule

namespace Rule

theorem literal_meant (text : String) :
    (read? (literal text).patternSource).bind (Expr.ofAst? {}) = some (.verbatim text.toList, {}) := by
  rw [read_literal, Option.bind_some]
  exact (Pattern.ofAst?_atStart (Pattern.ofAst?_verbatim _)).1

theorem compile_literal (name text : String) :
    (literal text).compile name =
      if (Expr.verbatim text.toList).size ≤ sizeLimit then
        .ok { name, source := String.ofList (literal text).patternSource,
              program := .ofExpr (.verbatim text.toList), alternatives := none }
      else .error (.invalidPattern name) := compile_of_meant name rfl (literal_meant text)

/-- The pattern of a literal can be read for every text, so that only its size can be at fault. If it is
compiled, it matches the text verbatim. -/
theorem literal_verbatim (name text : String) :
    ∃ e, (read? (literal text).patternSource).bind (Expr.ofAst? {}) = some (e, {}) ∧
      e.size = 32 * (max text.utf8ByteSize 1 + 1) ∧
      (sizeLimit < e.size ∧ (literal text).compile name = .error (.invalidPattern name) ∨
        e.size ≤ sizeLimit ∧ ∃ r, (literal text).compile name = .ok r ∧ r.Verbatim text) := by
  have size := Pattern.size_verbatim text.toList
  rw [String.ofList_toList] at size
  refine ⟨_, literal_meant text, size, ?_⟩
  rw [compile_literal]
  by_cases small : (Expr.verbatim text.toList).size ≤ sizeLimit
  · rw [if_pos small]
    exact .inr ⟨small, _, rfl, CompiledRule.verbatim_of_program rfl⟩
  · rw [if_neg small]
    exact .inl ⟨Nat.lt_of_not_le small, rfl⟩

end Rule

end BlockMarkup
