import BlockMarkup.Proofs.Pattern.FromStart
import BlockMarkup.Proofs.Rule.Verbatim

/-!
# Patterns in their group

The group behind a test for the start of the text, which is put around the source of a pattern, keeps what
the pattern matches at the start, with its groups (`pattern_keeps_matches`). But it is put there as text,
so a comment at the end of the pattern hides the parenthesis that closes the group: `(?x)a#c` is a pattern
and does not compile (`comment_hides_parenthesis`).
-/

namespace BlockMarkup

open Pattern

/-! ### Patterns on their own -/

namespace Pattern

/-- The expression of a pattern on its own, of whatever size. -/
def meaning? (flags : Flags) (source : List Char) : Option Expr :=
  (read? source).bind fun ast => (Expr.ofAst? flags ast).map (·.1)

theorem compile?_eq (flags : Flags) (source : List Char) :
    compile? flags source =
      (meaning? flags source).bind fun e => if e.size ≤ sizeLimit then some (.ofExpr e) else none := by
  rw [compile?, meaning?, Option.bind_assoc]
  simp [Option.bind_map]

/-- A comment at the end of the pattern hides a parenthesis that is put behind it. -/
def EndsInComment (source : List Char) : Prop :=
  ∃ ast, read? source = some ast ∧ read? (source ++ [')']) = some ast

/-- In a group, behind a test for the start of the text, the pattern is not nested too deeply either. -/
def Shallow (source : List Char) : Prop := ∀ ast, read? source = some ast → ast.height + 2 ≤ nestingLimit

end Pattern

namespace Rule

theorem read_wrapped {source : String} (flags : String) {ast : Ast} (alone : read? source.toList = some ast)
    (shallow : Shallow source.toList) :
    (¬ EndsInComment source.toList ∧
        read? (pattern source flags).patternSource = some (atStart (.plain []) ast)) ∨
      (EndsInComment source.toList ∧ read? (pattern source flags).patternSource = none) := by
  obtain ⟨reads, low⟩ := Option.filter_eq_some_iff.mp alone
  rcases run_pattern flags reads with ⟨unread, wrapped⟩ | ⟨-, hidden, unread⟩
  · have unread : read? (source.toList ++ [')']) = none := by rw [read?, unread]; rfl
    have height : (atStart (.plain []) ast).height ≤ nestingLimit := by
      have := shallow ast alone
      simp only [atStart, Ast.height, Ast.heights]
      omega
    refine .inl ⟨?_, ?_⟩
    · rintro ⟨ast, -, closed⟩
      cases unread.symm.trans closed
    · rw [read?, wrapped]
      exact Option.filter_eq_some_iff.mpr ⟨rfl, by simpa using height⟩
  · refine .inr ⟨⟨ast, alone, ?_⟩, ?_⟩
    · rw [read?, hidden]
      exact Option.filter_eq_some_iff.mpr ⟨rfl, low⟩
    · rw [read?, unread]
      rfl

/-- Comments start with a number sign. -/
theorem sign_of_endsInComment {source : String} (ends : EndsInComment source.toList) :
    '#' ∈ source.toList := by
  obtain ⟨ast, alone, closed⟩ := ends
  obtain ⟨alone, -⟩ := Option.filter_eq_some_iff.mp alone
  obtain ⟨closed, -⟩ := Option.filter_eq_some_iff.mp closed
  rcases run_pattern "" alone with ⟨unread, -⟩ | ⟨sign, -⟩
  · cases unread.symm.trans closed
  · exact sign

example : EndsInComment "(?x)a#c".toList := ⟨_, rfl, rfl⟩

theorem size_wrapped (e : Expr) : (Expr.concat [.look .textStart, e]).size = e.size + 32 := by
  simp only [Expr.size, Expr.sizes]
  omega

/-- A pattern that has a meaning on its own has the program of this meaning, up to the limit of size. The rule
of the pattern compiles too, unless the pattern ends in a comment, as none without a number sign does. Then
the rule matches, with the same groups, what the pattern prefers on its own at the start of a text. -/
theorem pattern_keeps_matches (name source flags : String) {f : Flags} {e : Expr}
    (flagged : setFlags {} flags.toList = .ok f) (alone : meaning? f source.toList = some e)
    (shallow : Shallow source.toList) :
    (compile? f source.toList = if e.size ≤ sizeLimit then some (.ofExpr e) else none) ∧
      ((∃ r, (pattern source flags).compile name = .ok r) ↔
        ¬ EndsInComment source.toList ∧ e.size + 32 ≤ sizeLimit) ∧
      (EndsInComment source.toList → '#' ∈ source.toList) ∧
      ∀ r, (pattern source flags).compile name = .ok r →
        r.program.groups = (Program.ofExpr e).groups ∧
          ∀ text, r.program.find text = ((Program.ofExpr e).find text).filter (·.start = 0) := by
  have flagged : setFlags {} (pattern source flags).flagLetters = .ok f := flagged
  refine ⟨by rw [compile?_eq, alone]; rfl, ?_⟩
  obtain ⟨ast, reads, known⟩ := Option.bind_eq_some_iff.mp alone
  obtain ⟨⟨e, after⟩, meant, rfl⟩ := Option.map_eq_some_iff.mp known
  dsimp only
  rcases read_wrapped flags reads shallow with ⟨visible, wrapped⟩ | ⟨hidden, unread⟩
  · have whole : (read? (pattern source flags).patternSource).bind (Expr.ofAst? f) =
        some (.concat [.look .textStart, e], f) := by
      rw [wrapped]
      exact (ofAst?_atStart meant).1
    have compiled := compile_of_meant name flagged whole
    rw [size_wrapped] at compiled
    by_cases small : e.size + 32 ≤ sizeLimit
    · rw [if_pos small] at compiled
      refine ⟨iff_of_true ⟨_, compiled⟩ ⟨visible, small⟩, sign_of_endsInComment, ?_⟩
      intro r ok
      cases compiled.symm.trans ok
      exact ⟨groups_behind_start e, find_behind_start e⟩
    · rw [if_neg small] at compiled
      simp [compiled, small, visible]
  · have refused := compile_of_unread name flagged unread
    simp [refused, hidden, sign_of_endsInComment hidden]

/-- An alternation and a comment that ends before the pattern does. -/
def commentedSource : String := "(?x) (a|b+) # first\n (c)?"

def commentedExpr : Expr :=
  .concat [.empty, .group 1 (.choice [.char 'a', .iterate 1 none true (.char 'b')]),
    .iterate 0 (some 1) true (.group 2 (.char 'c'))]

theorem commentedSource_meaning :
    meaning? { dotMatchesNewline := true } commentedSource.toList = some commentedExpr := rfl

theorem commentedSource_shallow : Shallow commentedSource.toList := by
  have low : (read? commentedSource.toList).all (·.height + 2 ≤ nestingLimit) = true := by decide +kernel
  intro ast reads
  simpa [reads] using low

theorem commentedSource_closed : ¬ EndsInComment commentedSource.toList := by
  rintro ⟨ast, -, closed⟩
  have refused : (read? (commentedSource.toList ++ [')'])).isSome = false := by decide +kernel
  simp [closed] at refused

theorem pattern_keeps_matches_commented :
    ∃ r, (pattern commentedSource "s").compile "marker" = .ok r ∧ r.program.groups = 2 ∧
      r.program.find "bbcb".toList = some ⟨0, 3, [(5, 3), (4, 2), (3, 2), (2, 0)]⟩ ∧
      r.program.find "xbbcb".toList = none := by
  obtain ⟨-, compiles, -, keeps⟩ := pattern_keeps_matches "marker" commentedSource "s" rfl
    commentedSource_meaning commentedSource_shallow
  obtain ⟨r, ok⟩ := compiles.mpr ⟨commentedSource_closed, by decide +kernel⟩
  obtain ⟨groups, finds⟩ := keeps r ok
  refine ⟨r, ok, groups, ?_, ?_⟩
  · rw [finds]
    decide +kernel
  · rw [finds]
    decide +kernel

/-- The group around the pattern is not closed. -/
theorem comment_hides_parenthesis :
    (compile? {} "(?x)a#c".toList).isSome = true ∧
      (pattern "(?x)a#c" "").compile "marker" = .error (.invalidPattern "marker") :=
  ⟨rfl, rfl⟩

end Rule

end BlockMarkup
