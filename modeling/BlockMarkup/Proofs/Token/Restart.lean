import BlockMarkup.Proofs.Token.FirstRule

/-!
# Scanning from a token on

A scan knows nothing of what came before a token: the rules see only what follows, and no characters are
pending where a token starts. So the source of the last tokens has these tokens
(`tokenize_from_token`).
-/

namespace BlockMarkup

/-- The same token in a source with `n` more characters in front. -/
def Token.behind (n : Nat) (t : Token) : Token :=
  { t with loc := ⟨n + t.loc.start, n + t.loc.stop⟩ }

def Part.behind (n : Nat) (part : Part) : Part := (part.1, part.2.behind n)

variable {rules : List CompiledRule} {source : List Char} {p k : Nat} {parts : List Part}

theorem slice_behind (source : List Char) (p a b : Nat) :
    slice (source.drop p) a b = slice source (p + a) (p + b) := by
  rw [slice, slice, List.drop_drop, Nat.add_sub_add_left]

theorem rulePart_behind (source : List Char) (p k : Nat) (r : CompiledRule) (m : Pattern.Match) :
    Part.behind p (rulePart (source.drop p) k r m) = rulePart source (p + k) r m := by
  simp only [rulePart, Part.behind, Token.behind, List.drop_drop, slice_behind, Nat.add_assoc]

theorem textPart_behind (source : List Char) (p a b : Nat) :
    Part.behind p (textPart (source.drop p) a b) = textPart source (p + a) (p + b) := by
  simp only [textPart, Part.behind, Token.behind, Token.text, slice_behind]

namespace Scans

/-- What scanning makes of the end of a source it makes of the source there. -/
theorem behind (inside : p ≤ source.length) (scans : Scans rules (source.drop p) k parts) :
    Scans rules source (p + k) (parts.map (Part.behind p)) := by
  have stop : p + (source.drop p).length = source.length := by
    rw [List.length_drop]
    omega
  induction scans with
  | done =>
    rw [stop]
    exact .done
  | @rule k r m parts wins later ih =>
    rw [List.map_cons, rulePart_behind]
    rw [List.drop_drop] at wins
    rw [← Nat.add_assoc] at ih
    exact .rule wins ih
  | @text k q parts filled missed ended later ih =>
    rw [List.map_cons, textPart_behind]
    refine .text (Nat.add_lt_add_left filled p) ?_ ?_ ih
    · intro i low high
      have free := missed (i - p) (by omega) (by omega)
      rwa [List.drop_drop, Nat.add_sub_cancel' (by omega)] at free
    · rcases ended with rfl | hit
      · exact .inl stop
      · exact .inr (by rwa [List.drop_drop] at hit)

theorem start_le (scans : Scans rules source p parts) : p ≤ source.length := by
  cases scans with
  | done => exact Nat.le_refl _
  | rule wins => exact Nat.le_of_lt (hit_inside wins.hit)
  | text filled _ ended => exact Nat.le_trans (Nat.le_of_lt filled) (ended_inside ended)

/-- Behind any part scanning goes on as if it started there. -/
theorem drop (scans : Scans rules source p parts) (i : Nat) :
    ∃ q, Scans rules source q (parts.drop i) := by
  induction i generalizing p parts with
  | zero => exact ⟨p, scans⟩
  | succ i ih =>
    cases scans with
    | done => exact ⟨_, .done⟩
    | rule _ later => exact ih later
    | text _ _ _ later => exact ih later

end Scans

/-- The source of the last tokens of a source has these tokens, as far to the left as the first of them
started. -/
theorem tokenize_from_token (anchored : ∀ r ∈ rules, r.Anchored) (source : String) :
    ∃ tokens, tokenize rules source = some tokens ∧ ∀ (i : Nat) (inside : i < tokens.length),
      ∃ later, tokenize rules (detokenize (tokens.drop i)) = some later ∧
        later.map (Token.behind tokens[i].loc.start) = tokens.drop i := by
  obtain ⟨parts, traced, scans⟩ := trace_scans anchored source
  refine ⟨parts.map (·.2), tokenize_of_trace traced, fun i inside => ?_⟩
  obtain ⟨q, onward⟩ := scans.drop i
  have tiles := onward.tiles
  rw [List.map_drop] at tiles
  have start : (parts.map Prod.snd)[i].loc.start = q := by
    refine tiles.head_start _ ?_
    rw [List.head?_drop, List.getElem?_eq_getElem inside]
    rfl
  have rest : (detokenize ((parts.map (·.2)).drop i)).toList = source.toList.drop q := by
    rw [toList_detokenize, tiles.joined]
  obtain ⟨later, traced', scans'⟩ := trace_scans anchored (detokenize ((parts.map (·.2)).drop i))
  rw [rest] at scans'
  have same : later.map (Part.behind q) = parts.drop i := (scans'.behind onward.start_le).unique onward
  refine ⟨later.map (·.2), tokenize_of_trace traced', ?_⟩
  rw [start, ← List.map_drop, ← same, List.map_map, List.map_map]
  rfl

/-- Patterns that look at what is before a place: at its line, at the text and at a word. -/
def lookingRules : List (String × Rule) :=
  [("open", .pattern "^é" "m"), ("close", .pattern "\\Ax" ""), ("marker", .pattern "\\b(y)" "")]

theorem lookingRules_compile :
    ∃ rules, compileAll lookingRules = .ok rules ∧ (∀ r ∈ rules, r.Anchored) ∧
      (tokenize rules "a éxyxb").map (·.map (·.value)) = some ["a ", "é", "x", "y", "x", "b"] :=
  ⟨_, rfl, CompiledRule.anchored_of_all rfl, by decide +kernel⟩

theorem tokenize_from_token_looking :
    ∃ rules, compileAll lookingRules = .ok rules ∧ (∀ r ∈ rules, r.Anchored) ∧
      ∃ tokens, tokenize rules "a éxyxb" = some tokens ∧
        tokens.map (·.value) = ["a ", "é", "x", "y", "x", "b"] ∧
        ∀ (i : Nat) (inside : i < tokens.length),
          ∃ later, tokenize rules (detokenize (tokens.drop i)) = some later ∧
            later.map (Token.behind tokens[i].loc.start) = tokens.drop i := by
  obtain ⟨rules, compiled, anchored, values⟩ := lookingRules_compile
  obtain ⟨tokens, found, restarts⟩ := tokenize_from_token anchored "a éxyxb"
  rw [found] at values
  exact ⟨rules, compiled, anchored, tokens, found, Option.some.inj values, restarts⟩

end BlockMarkup
