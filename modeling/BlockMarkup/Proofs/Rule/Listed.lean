import BlockMarkup.Proofs.Rule.Verbatim
import BlockMarkup.Proofs.Token.Parts
import BlockMarkup.Proofs.Token.Scans

/-!
# Lists of literals

Where a list is tried, its first literal that comes next decides. If that is empty the list is passed
over, else its token has the literal as value and as group, and tells its position in the list
(`lists_report_first`).
-/

namespace BlockMarkup

open Pattern (Expr Program sizeLimit read? firstFit? tried)

namespace Pattern

theorem ofAsts?_verbatim (texts : List (List Char)) :
    Expr.ofAsts? {} (texts.map verbatim) = some (texts.map .word, {}) := by
  induction texts with
  | nil => rfl
  | cons text texts ih =>
    rw [List.map_cons, Expr.ofAsts?, ofAst?_verbatim, Option.bind_some]
    dsimp only
    rw [ih]
    rfl

theorem ofAst?_alternatives (texts : List (List Char)) :
    Expr.ofAst? {} (alternativesOf (texts.map verbatim)) = some (.anyWord texts, {}) := by
  rcases texts with _ | ⟨text, _ | ⟨next, texts⟩⟩
  · rfl
  · exact ofAst?_verbatim text
  · have items := ofAsts?_verbatim (text :: next :: texts)
    simp only [List.map_cons, alternativesOf] at items ⊢
    rw [Expr.ofAst?, items]
    rfl

end Pattern

namespace Rule

/-- The pattern of a list has a meaning for all texts, so that a list is refused for its size only. -/
theorem compile_alternatives (name : String) (texts : List String) :
    (alternatives texts).compile name =
      if (Expr.listed (texts.map (·.toList))).size ≤ sizeLimit then
        .ok { name, source := String.ofList (alternatives texts).patternSource,
              program := .ofExpr (.listed (texts.map (·.toList))), alternatives := some texts }
      else .error (.invalidPattern name) := by
  have trees : texts.map (Pattern.verbatim ·.toList) = (texts.map (·.toList)).map Pattern.verbatim := by
    rw [List.map_map]
    rfl
  have meant : (read? (alternatives texts).patternSource).bind (Expr.ofAst? {}) =
      some (.listed (texts.map (·.toList)), {}) := by
    rw [read_alternatives, Option.bind_some, trees]
    exact (Pattern.ofAst?_atStart (Pattern.ofAst?_alternatives _)).2
  exact compile_of_meant name rfl meant

end Rule

/-! ### The first text that fits -/

/-- The text at position `i` comes next, and none before it does. -/
structure FirstListed (texts : List String) (rest : List Char) (i : Nat) (t : String) : Prop where
  listed : texts[i]? = some t
  fits : t.toList <+: rest
  first : ∀ j u, j < i → texts[j]? = some u → ¬ u.toList <+: rest

theorem FirstListed.index {texts : List String} {rest : List Char} {i : Nat} {t : String}
    (chosen : FirstListed texts rest i t) : texts.findIdx? (· = t) = some i := by
  obtain ⟨listed, fits, first⟩ := chosen
  obtain ⟨inside, at_i⟩ := List.getElem?_eq_some_iff.mp listed
  refine List.findIdx?_eq_some_iff_getElem.mpr ⟨inside, by simpa using at_i, ?_⟩
  intro j before
  have other : texts[j] ≠ t := by
    intro same
    refine first j texts[j] before ?_ (same ▸ fits)
    exact List.getElem?_eq_getElem (Nat.lt_trans before inside)
  simpa using other

theorem not_isPrefixOf {a b : List Char} : (!a.isPrefixOf b) = true ↔ ¬ a <+: b := by
  rw [Bool.not_eq_true', ← Bool.not_eq_true, List.isPrefixOf_iff_prefix]

theorem find?_iff_firstListed {texts : List String} {rest : List Char} {t : String} :
    texts.find? (·.toList.isPrefixOf rest) = some t ↔ ∃ i, FirstListed texts rest i t := by
  rw [List.find?_eq_some_iff_getElem]
  constructor
  · rintro ⟨fits, i, inside, at_i, before⟩
    refine ⟨i, List.getElem?_eq_some_iff.mpr ⟨inside, at_i⟩, List.isPrefixOf_iff_prefix.mp fits, ?_⟩
    intro j u earlier at_j
    obtain ⟨inside, rfl⟩ := List.getElem?_eq_some_iff.mp at_j
    exact not_isPrefixOf.mp (before j earlier)
  · rintro ⟨i, listed, fits, first⟩
    obtain ⟨inside, at_i⟩ := List.getElem?_eq_some_iff.mp listed
    refine ⟨List.isPrefixOf_iff_prefix.mpr fits, i, inside, at_i, ?_⟩
    intro j earlier
    have at_j := List.getElem?_eq_getElem (Nat.lt_trans earlier inside)
    exact not_isPrefixOf.mpr (first j texts[j] earlier at_j)

theorem firstFit?_iff_firstListed {texts : List String} {rest : List Char} {n : Nat} :
    firstFit? (texts.map (·.toList)) rest = some n ↔ ∃ i t, FirstListed texts rest i t ∧ t.length = n := by
  have lengths : firstFit? (texts.map (·.toList)) rest =
      (texts.find? (·.toList.isPrefixOf rest)).map String.length := by
    rw [firstFit?, List.find?_map, Option.map_map]
    rfl
  rw [lengths, Option.map_eq_some_iff]
  constructor
  · rintro ⟨t, found, width⟩
    obtain ⟨i, chosen⟩ := find?_iff_firstListed.mp found
    exact ⟨i, t, chosen, width⟩
  · rintro ⟨i, t, chosen, width⟩
    exact ⟨t, find?_iff_firstListed.mpr ⟨i, chosen⟩, width⟩

/-! ### Matching a list -/

section

variable {name : String} {texts : List String} {r : CompiledRule} {rest : List Char}

theorem list_compiled (compiled : (Rule.alternatives texts).compile name = .ok r) :
    r = { name, source := String.ofList (Rule.alternatives texts).patternSource,
          program := .ofExpr (.listed (texts.map (·.toList))), alternatives := some texts } := by
  rw [Rule.compile_alternatives] at compiled
  split at compiled
  next =>
    cases compiled
    rfl
  next => cases compiled

/-- A match of a list that is not empty is the first of its texts that comes next. -/
theorem list_match (compiled : (Rule.alternatives texts).compile name = .ok r) {m : Pattern.Match}
    (found : r.program.find rest = some m) (nonempty : m.start < m.stop) :
    ∃ i t, FirstListed texts rest i t ∧
      m = { start := 0, stop := t.length, marks := [(3, t.length), (2, 0)] } := by
  rw [list_compiled compiled, Pattern.find_listed] at found
  obtain ⟨n, fit, rfl⟩ := Option.map_eq_some_iff.mp found
  cases texts with
  | nil =>
    cases fit
    exact absurd nonempty (Nat.lt_irrefl 0)
  | cons text texts =>
    obtain ⟨i, t, chosen, rfl⟩ := firstFit?_iff_firstListed.mp fit
    exact ⟨i, t, chosen, rfl⟩

theorem list_finds (compiled : (Rule.alternatives texts).compile name = .ok r) {i : Nat} {t : String}
    (chosen : FirstListed texts rest i t) :
    r.program.find rest = some { start := 0, stop := t.length, marks := [(3, t.length), (2, 0)] } := by
  have fit := firstFit?_iff_firstListed.mpr ⟨i, t, chosen, rfl⟩
  have several : tried (texts.map (·.toList)) = texts.map (·.toList) := by
    cases texts with
    | nil => cases chosen.listed
    | cons text texts => rfl
  rw [list_compiled compiled, Pattern.find_listed, several, fit]
  rfl

/-- What a list reports of a match: the text, once more as the only group, and where it is listed. -/
theorem list_reports (compiled : (Rule.alternatives texts).compile name = .ok r) {i : Nat} {t : String}
    (chosen : FirstListed texts rest i t) :
    slice rest 0 t.length = t ∧
      r.captures rest { start := 0, stop := t.length, marks := [(3, t.length), (2, 0)] } = some [some t] ∧
      r.alternativeIndex t = some i := by
  have value := slice_of_prefix chosen.fits
  rw [String.length_toList, String.ofList_toList] at value
  have group : Pattern.Match.group { start := 0, stop := t.length, marks := [(3, t.length), (2, 0)] } 1 =
      some (0, t.length) := rfl
  rw [list_compiled compiled]
  refine ⟨value, ?_, chosen.index⟩
  simp [CompiledRule.captures, Pattern.groups_listed, group, value]

end

/-! ### Scanning with a list -/

/-- What a list of this name does between other rules. -/
structure ListScans (name : String) (texts : List String) (earlier : List CompiledRule)
    (r : CompiledRule) (later : List CompiledRule) : Prop where
  silent : ∀ s : Scanner, (∀ i t, FirstListed texts s.rest i t → t = "") →
    s.step (earlier ++ r :: later) = s.step (earlier ++ later)
  reports : ∀ (s : Scanner) (i : Nat) (t : String), FirstListed texts s.rest i t → t ≠ "" →
    ¬ Hit earlier s.rest →
    s.step (earlier ++ r :: later) = some
      { rest := s.rest.drop t.length, offset := s.offset + t.length, pending := []
        tokens := { type := name, value := t, params := some [some t],
                    loc := ⟨s.offset, s.offset + t.length⟩, alternative := some i } :: s.flush.tokens }

theorem list_scans {name : String} {texts : List String} {r : CompiledRule}
    (compiled : (Rule.alternatives texts).compile name = .ok r) (earlier later : List CompiledRule) :
    ListScans name texts earlier r later := by
  constructor
  · intro s nothing
    have missed : ¬ r.Hits s.rest := by
      rintro ⟨m, found, nonempty⟩
      obtain ⟨i, t, chosen, rfl⟩ := list_match compiled found nonempty
      rw [nothing i t chosen] at nonempty
      exact absurd nonempty (Nat.lt_irrefl 0)
    rw [Scanner.step, firstMatch_skip missed, ← Scanner.step]
  · intro s i t chosen filled before
    have wins : Wins (earlier ++ r :: later) s.rest r
        { start := 0, stop := t.length, marks := [(3, t.length), (2, 0)] } := by
      refine ⟨list_finds compiled chosen, ?_, earlier, later, rfl, ?_⟩
      · exact Nat.pos_of_ne_zero (by simpa using filled)
      · exact fun q member hits => before ⟨q, member, hits⟩
    obtain ⟨value, group, position⟩ := list_reports compiled chosen
    have onward : dropBytes t.utf8ByteSize s.rest = some (s.rest.drop t.length) := by
      have dropped := dropBytes_take t.length s.rest
      rwa [show String.ofList (s.rest.take t.length) = t from value] at dropped
    have named : r.name = name := by rw [list_compiled compiled]
    rw [Scanner.step, wins.firstMatch, value, group]
    simp [Scanner.emit, position, onward, named]

/-! ### Rule sets -/

/-- How a part tells of the lists among some rules: the token of a list has one of its literals as value
and as group, and the position of it; other tokens have no position. -/
def TellsPosition (rules : List (String × Rule)) (source : List Char) : Part → Prop
  | (.text, token) => token.alternative = none
  | (.rule, token) => ∃ rule, (token.type, rule) ∈ rules ∧
      match rule with
      | .alternatives texts => ∃ rest i, rest <:+ source ∧ FirstListed texts rest i token.value ∧
          token.params = some [some token.value] ∧ token.alternative = some i
      | .literal _ | .pattern _ _ => token.alternative = none

theorem Made.tellsPosition {rules : List (String × Rule)} {compiled : List CompiledRule}
    (ok : compileAll rules = .ok compiled) {source : List Char} {part : Part}
    (made : Made compiled source part) : TellsPosition rules source part := by
  cases made with
  | text value loc => rfl
  | @rule rest r m left wins loc =>
    obtain ⟨⟨name, rule⟩, member, known⟩ := compileAll_mem ok wins.mem
    obtain ⟨rfl, literals⟩ := Rule.compile_keeps known
    refine ⟨rule, member, ?_⟩
    have unlisted (single : rule.literals? = none) :
        r.alternativeIndex (slice rest m.start m.stop) = none := by
      rw [CompiledRule.alternativeIndex, literals, single]
      rfl
    cases rule with
    | alternatives texts =>
      obtain ⟨i, t, chosen, rfl⟩ := list_match known wins.found wins.nonempty
      obtain ⟨value, group, position⟩ := list_reports known chosen
      refine ⟨rest, i, left, ?_, ?_, ?_⟩
      · rwa [value]
      · rw [value, group]
      · rw [value, position]
    | literal text => exact unlisted rfl
    | pattern source flags => exact unlisted rfl

/-- A list in a rule set takes the first of its literals that comes next, and tells which one. Where there
is none, or an empty one, it has no part in the scan, even if a later literal comes next. Tokens that no
list has made have no position. -/
theorem lists_report_first {before after : List (String × Rule)} {name : String} {texts : List String}
    {compiled : List CompiledRule}
    (ok : compileAll (before ++ (name, .alternatives texts) :: after) = .ok compiled) :
    (∃ earlier r later, compiled = earlier ++ r :: later ∧ compileAll before = .ok earlier ∧
      (Rule.alternatives texts).compile name = .ok r ∧ ListScans name texts earlier r later) ∧
    ∀ source parts, trace compiled source = some parts →
      ∀ part ∈ parts, TellsPosition (before ++ (name, .alternatives texts) :: after) source.toList part := by
  constructor
  · obtain ⟨earlier, r, later, rfl, left, known, -⟩ := compileAll_split ok
    exact ⟨earlier, r, later, rfl, left, known, list_scans known earlier later⟩
  · intro source parts traced part member
    exact (trace_made traced part member).tellsPosition ok

theorem lists_report_first_hidden :
    ∃ compiled, compileAll [("open", .alternatives ["ab", "", "b"])] = .ok compiled ∧
      trace compiled "abb" = some
        [(.rule, { type := "open", value := "ab", params := some [some "ab"], loc := ⟨0, 2⟩,
                   alternative := some 0 }),
          (.text, .text "b" ⟨2, 3⟩)] ∧
      (∃ earlier r later, compiled = earlier ++ r :: later ∧ compileAll [] = .ok earlier ∧
        (Rule.alternatives ["ab", "", "b"]).compile "open" = .ok r ∧
        ListScans "open" ["ab", "", "b"] earlier r later) ∧
      ∀ source parts, trace compiled source = some parts →
        ∀ part ∈ parts, TellsPosition [("open", .alternatives ["ab", "", "b"])] source.toList part := by
  have ok : compileAll [("open", .alternatives ["ab", "", "b"])] = .ok _ := rfl
  exact ⟨_, ok, by decide +kernel, @lists_report_first [] [] "open" ["ab", "", "b"] _ ok⟩

end BlockMarkup
