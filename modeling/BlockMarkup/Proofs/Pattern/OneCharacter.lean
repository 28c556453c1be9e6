import BlockMarkup.Proofs.Pattern.Words

/-!
# Patterns that match one character

The pattern of a character or of a list of characters, behind a test for the start of the text, matches
the first character of a text if it is one of these, and nothing else (`Program.Takes`).
-/

namespace BlockMarkup.Pattern

/-- The pattern matches one of these characters, with these marks, at the start of a text only. -/
def Program.Takes (p : Program) (chars : List Char) (marks : List (Nat × Nat)) : Prop :=
  ∀ text, p.find text =
    match text with
    | [] => none
    | c :: _ => if c ∈ chars then some { start := 0, stop := 1, marks } else none

namespace Expr

/-- A choice between characters. -/
def anyOf : List Char → Expr
  | [c] => .char c
  | chars => .choice (chars.map .char)

/-- A list of characters behind a test for the start of the text. -/
def list (chars : List Char) : Expr := .concat [.look .textStart, .group 1 (anyOf chars)]

/-- A character behind a test for the start of the text. -/
def single (c : Char) : Expr := .concat [.look .textStart, .char c]

end Expr

variable {chars : List Char}

/-- Characters are texts of one character. -/
theorem listed_chars (filled : chars ≠ []) : Expr.listed (chars.map fun c => [c]) = .list chars := by
  rcases chars with _ | ⟨c, _ | ⟨d, chars⟩⟩
  · exact absurd rfl filled
  · rfl
  · simp [Expr.list, Expr.listed, Expr.anyOf, Expr.anyWord, Expr.word]

theorem firstFit?_chars (c : Char) (rest : List Char) :
    firstFit? (chars.map fun c => [c]) (c :: rest) = if c ∈ chars then some 1 else none := by
  induction chars with
  | nil => rfl
  | cons d chars ih =>
    by_cases same : d = c
    · subst same
      simp [firstFit?, List.isPrefixOf]
    · have differs : (d == c) = false := by simpa using same
      simpa [firstFit?, List.isPrefixOf, differs, Ne.symm same] using ih

theorem single_takes (c : Char) : (Program.ofExpr (.single c)).Takes [c] [] := by
  intro text
  change (Program.ofExpr (.verbatim [c])).find text = _
  rw [find_verbatim]
  cases text with
  | nil => simp
  | cons d rest => simp [eq_comm]

theorem list_takes (filled : chars ≠ []) :
    (Program.ofExpr (.list chars)).Takes chars [(3, 1), (2, 0)] := by
  have several : tried (chars.map fun c => [c]) = chars.map fun c => [c] := by
    cases chars with
    | nil => exact absurd rfl filled
    | cons c chars => rfl
  intro text
  rw [← listed_chars filled, find_listed, several]
  cases text with
  | nil => simp [firstFit?_nil]
  | cons c rest =>
    rw [firstFit?_chars]
    by_cases taken : c ∈ chars <;> simp [taken]

theorem groups_list (chars : List Char) : (Program.ofExpr (.list chars)).groups = 1 := by
  by_cases filled : chars = []
  · subst filled
    rfl
  · rw [← listed_chars filled, groups_listed]

end BlockMarkup.Pattern
