import BlockMarkup.Proofs.Pattern.Grouped
import BlockMarkup.Rule.Compiled

/-!
# What the sources of rules are read as

The source of a rule starts with a test for the start of the text, and one group follows. In the group
of a literal its characters follow one another, whatever they mean in patterns; in the group of a list
the literals are alternatives; in the group of a pattern is the pattern, if it can be read on its own.
-/

namespace BlockMarkup.Pattern

def sequenceOf : List Ast → Ast
  | [] => .empty
  | [one] => one
  | several => .concat several

/-- The tree of a text that is matched as it is written. -/
def verbatim (text : List Char) : Ast := sequenceOf (text.map fun c => .literal { char := c })

def alternativesOf : List Ast → Ast
  | [] => .empty
  | [one] => one
  | several => .alternation several

/-- The tree of a group behind a test for the start of the text. -/
def atStart (kind : GroupKind) (body : Ast) : Ast := .concat [.anchor .textStart, .group kind body]

namespace Reader.Reading

/-! ### Reading piece by piece -/

/-- Reading gets from one state to the other on the way from `cs` to what is left of it. -/
def Reads (r : Reading) (cs : List Char) (s : Reading) (rest : List Char) : Prop :=
  ∃ steps, steps + rest.length ≤ cs.length ∧ ∀ fuel, run (steps + fuel) r cs = run fuel s rest

variable {r s t : Reading} {cs rest after : List Char} {c : Char}

namespace Reads

theorem refl (r : Reading) (cs : List Char) : Reads r cs r cs :=
  ⟨0, by simp, fun fuel => by rw [Nat.zero_add]⟩

theorem trans (first : Reads r cs s rest) (second : Reads s rest t after) : Reads r cs t after := by
  obtain ⟨n, few, reads⟩ := first
  obtain ⟨m, fewer, reads'⟩ := second
  refine ⟨n + m, by omega, fun fuel => ?_⟩
  rw [Nat.add_assoc, reads, reads']

theorem step (plain : r.verbose = false) (stepped : r.step c rest = some (s, after))
    (shorter : after.length ≤ rest.length) : Reads r (c :: rest) s after := by
  refine ⟨1, by simp; omega, fun fuel => ?_⟩
  rw [Nat.add_comm, run, plain]
  simp [settle, stepped]

/-- The steps for all of a source are enough. -/
theorem run_eq (reads : Reads r cs s []) : run cs.length r cs = s.finish? := by
  obtain ⟨steps, few, reads⟩ := reads
  obtain ⟨fuel, enough⟩ := Nat.exists_eq_add_of_le (Nat.le_of_add_right_le few)
  rw [enough, reads, run_nil]

end Reads

/-! ### Escaped text -/

theorem escaped_meta (special : isMeta c = true) :
    escaped false (c :: rest) = some (.literal { char := c }, rest) := by
  unfold isMeta at special
  split at special
  all_goals first | rfl | cases special

theorem step_plain (ordinary : isMeta c = false) :
    r.step c rest = some (r.push (.literal { char := c }), rest) := by
  unfold isMeta at ordinary
  split at ordinary
  all_goals try cases ordinary
  unfold step
  split <;> simp_all

/-- The text as the next characters of the branch that is being read. -/
def addText (r : Reading) (text : List Char) : Reading :=
  { r with items := (text.map fun c => .literal { char := c }).reverse ++ r.items }

theorem addText_cons (text : List Char) :
    r.addText (c :: text) = (r.push (.literal { char := c })).addText text := by
  simp [addText, push]

theorem reads_escape (plain : r.verbose = false) (text rest : List Char) :
    Reads r (escape text ++ rest) (r.addText text) rest := by
  induction text generalizing r with
  | nil => exact .refl r rest
  | cons c text ih =>
    rw [addText_cons]
    refine Reads.trans ?_ (ih (r := r.push (.literal { char := c })) plain)
    rw [escape]
    split
    next special =>
      refine .step plain ?_ (by simp)
      simp [Reading.step, plain, escaped_meta special]
    next ordinary =>
      exact .step plain (step_plain (by simpa using ordinary)) (Nat.le_refl _)

/-- The texts as alternatives of the branch that is being read. -/
def addTexts (r : Reading) : List (List Char) → Reading
  | [] => r
  | [text] => r.addText text
  | text :: texts =>
    addTexts { r with branches := concatOf (r.addText text).items :: r.branches, items := [] } texts

theorem addTexts_around (r : Reading) (texts : List (List Char)) :
    (r.addTexts texts).outer = r.outer ∧ (r.addTexts texts).verbose = r.verbose := by
  fun_induction addTexts r texts with
  | case1 => exact ⟨rfl, rfl⟩
  | case2 => exact ⟨rfl, rfl⟩
  | case3 _ _ _ _ ih => exact ih

theorem concatOf_eq (items : List Ast) : concatOf items = sequenceOf items.reverse := by
  rcases items with _ | ⟨last, _ | ⟨item, items⟩⟩
  · rfl
  · rfl
  · simp only [concatOf, List.reverse_cons, List.append_assoc]
    rcases items.reverse with _ | ⟨first, _ | ⟨second, more⟩⟩ <;> rfl

theorem branchesOf_eq (branches items : List Ast) :
    branchesOf branches items = alternativesOf (branches.reverse ++ [concatOf items]) := by
  rcases branches with _ | ⟨last, branches⟩
  · rfl
  · simp only [branchesOf, List.reverse_cons, List.append_assoc]
    rcases branches.reverse with _ | ⟨first, _ | ⟨second, more⟩⟩ <;> rfl

theorem branchesOf_addTexts (fresh : r.items = []) {texts : List (List Char)} (some : texts ≠ []) :
    branchesOf (r.addTexts texts).branches (r.addTexts texts).items =
      alternativesOf (r.branches.reverse ++ texts.map verbatim) := by
  have written : ∀ text, concatOf (r.addText text).items = verbatim text := by
    intro text
    simp [addText, fresh, verbatim, concatOf_eq]
  fun_induction addTexts r texts with
  | case1 => exact absurd rfl some
  | case2 r text =>
    rw [branchesOf_eq, written]
    rfl
  | case3 r text texts more ih =>
    rw [ih rfl (by simpa using more) fun _ => by simp [addText, verbatim, concatOf_eq], written]
    simp

end Reader.Reading

open Reader.Reading

theorem reads_alternation {r : Reader.Reading} (plain : r.verbose = false) (texts : List String)
    (rest : List Char) :
    Reads r (Rule.alternation texts ++ rest) (r.addTexts (texts.map (·.toList))) rest := by
  fun_induction Rule.alternation texts generalizing r with
  | case1 => exact .refl r rest
  | case2 text => exact reads_escape plain text.toList rest
  | case3 text texts more ih =>
    obtain ⟨next, texts, rfl⟩ := List.exists_cons_of_ne_nil (by simpa using more)
    rw [List.append_assoc]
    refine (reads_escape plain text.toList _).trans (Reads.trans ?_ (ih plain))
    exact .step plain rfl (Nat.le_refl _)

/-! ### Groups at the start of the text -/

/-- The state of reading in the group that follows a test for the start of the text. -/
def inGroup (kind : GroupKind) (captures : Nat) : Reader.Reading :=
  { outer := [⟨kind, [], [.anchor .textStart], false⟩], captures }

theorem reads_plain (rest : List Char) :
    Reads {} (['\\', 'A', '(', '?', ':'] ++ rest) (inGroup (.plain []) 0) rest :=
  Reads.trans (.step rfl rfl (by simp)) (.step rfl rfl (by simp; omega))

theorem reads_capture {rest : List Char} (capture : rest.head? ≠ some '?') :
    Reads {} (['\\', 'A', '('] ++ rest) (inGroup (.capturing 1) 1) rest :=
  Reads.trans (.step rfl rfl (by simp)) (.step rfl (Reader.Reading.paren?_plain capture) (Nat.le_refl _))

theorem run_group {kind : GroupKind} {r : Reader.Reading} {source : List Char}
    (reads : Reads {} source r [')']) (plain : r.verbose = false)
    (around : r.outer = [⟨kind, [], [.anchor .textStart], false⟩]) :
    Reader.Reading.run source.length {} source =
      some (atStart kind (Reader.branchesOf r.branches r.items)) := by
  have closed : r.step ')' [] = some (
      { r with outer := [], branches := [], verbose := false,
               items := [.group kind (Reader.branchesOf r.branches r.items), .anchor .textStart] }, []) := by
    simp [Reader.Reading.step, closeGroup?, around]
  rw [(reads.trans (.step plain closed (Nat.le_refl _))).run_eq]
  rfl

/-! ### Heights -/

theorem height_sequenceOf (items : List Ast) : (sequenceOf items).height ≤ Ast.heights items + 1 := by
  rcases items with _ | ⟨item, _ | ⟨next, items⟩⟩ <;> simp [sequenceOf, Ast.height, Ast.heights]

theorem height_alternativesOf (items : List Ast) :
    (alternativesOf items).height ≤ Ast.heights items + 1 := by
  rcases items with _ | ⟨item, _ | ⟨next, items⟩⟩ <;> simp [alternativesOf, Ast.height, Ast.heights]

theorem heights_le {items : List Ast} {bound : Nat} (low : ∀ item ∈ items, item.height ≤ bound) :
    Ast.heights items ≤ bound := by
  induction items with
  | nil => exact Nat.zero_le bound
  | cons item items ih =>
    rw [List.forall_mem_cons] at low
    exact Nat.max_le.mpr ⟨low.1, ih low.2⟩

theorem height_verbatim (text : List Char) : (verbatim text).height ≤ 1 := by
  refine Nat.le_trans (height_sequenceOf _) (Nat.succ_le_succ (heights_le ?_))
  simp [Ast.height]

theorem height_alternatives (texts : List (List Char)) :
    (alternativesOf (texts.map verbatim)).height ≤ 2 := by
  refine Nat.le_trans (height_alternativesOf _) (Nat.succ_le_succ (heights_le ?_))
  simp [height_verbatim]

theorem read_group {kind : GroupKind} {body : Ast} {source : List Char} (low : body.height ≤ 2)
    (reads : Reader.Reading.run source.length {} source = some (atStart kind body)) :
    read? source = some (atStart kind body) := by
  have height : (atStart kind body).height ≤ nestingLimit := by
    simp only [atStart, Ast.height, Ast.heights, nestingLimit]
    omega
  simp [read?, reads, height]

end BlockMarkup.Pattern

namespace BlockMarkup.Rule

open Pattern Reader.Reading

theorem read_literal (text : String) :
    read? (literal text).patternSource = some (atStart (.plain []) (verbatim text.toList)) := by
  have body : Reads (inGroup (.plain []) 0) (escape text.toList ++ [')'])
      ((inGroup (.plain []) 0).addText text.toList) [')'] := reads_escape rfl _ _
  have low : (verbatim text.toList).height ≤ 2 := Nat.le_succ_of_le (height_verbatim _)
  have written : Reader.branchesOf ((inGroup (.plain []) 0).addText text.toList).branches
      ((inGroup (.plain []) 0).addText text.toList).items = verbatim text.toList := by
    simp [inGroup, addText, Reader.branchesOf, concatOf_eq, verbatim]
  rw [← written] at low ⊢
  rw [patternSource, List.append_assoc]
  exact read_group low (run_group ((reads_plain _).trans body) rfl rfl)

theorem head_escape (text : List Char) {rest : List Char} (plain : rest.head? ≠ some '?') :
    (escape text ++ rest).head? ≠ some '?' := by
  cases text with
  | nil => exact plain
  | cons c text =>
    rw [escape]
    split
    next => simp
    next ordinary =>
      intro same
      obtain rfl : c = '?' := by simpa using same
      exact ordinary rfl

theorem head_alternation (texts : List String) {rest : List Char} (plain : rest.head? ≠ some '?') :
    (alternation texts ++ rest).head? ≠ some '?' := by
  fun_cases alternation texts with
  | case1 => exact plain
  | case2 text => exact head_escape _ plain
  | case3 text texts =>
    rw [List.append_assoc]
    exact head_escape _ (by simp)

theorem read_alternatives (texts : List String) :
    read? (alternatives texts).patternSource =
      some (atStart (.capturing 1) (alternativesOf (texts.map (verbatim ·.toList)))) := by
  have body : Reads (inGroup (.capturing 1) 1) (alternation texts ++ [')'])
      ((inGroup (.capturing 1) 1).addTexts (texts.map (·.toList))) [')'] := reads_alternation rfl _ _
  obtain ⟨around, plain⟩ := addTexts_around (inGroup (.capturing 1) 1) (texts.map (·.toList))
  have low := height_alternatives (texts.map (·.toList))
  have written : Reader.branchesOf
      ((inGroup (.capturing 1) 1).addTexts (texts.map (·.toList))).branches
      ((inGroup (.capturing 1) 1).addTexts (texts.map (·.toList))).items =
        alternativesOf ((texts.map (·.toList)).map verbatim) := by
    by_cases empty : texts = []
    · subst empty
      rfl
    · exact branchesOf_addTexts rfl (by simpa using empty)
  rw [List.map_map, Function.comp_def] at low written
  rw [← written] at low ⊢
  rw [patternSource, List.append_assoc]
  exact read_group low (run_group ((reads_capture (head_alternation texts (by simp))).trans body)
    plain around)

/-- The group around a pattern that can be read on its own is closed behind it, or a comment at the end of
the pattern hides what closes it. -/
theorem run_pattern {source : String} (flags : String) {ast : Ast}
    (alone : run source.toList.length {} source.toList = some ast) :
    (run (source.toList ++ [')']).length {} (source.toList ++ [')']) = none ∧
        run (pattern source flags).patternSource.length {} (pattern source flags).patternSource =
          some (atStart (.plain []) ast)) ∨
      ('#' ∈ source.toList ∧
        run (source.toList ++ [')']).length {} (source.toList ++ [')']) = some ast ∧
        run (pattern source flags).patternSource.length {} (pattern source flags).patternSource = none) := by
  obtain ⟨steps, few, reads⟩ := reads_plain (source.toList ++ [')'])
  rw [patternSource, List.append_assoc]
  obtain ⟨fuel, enough⟩ := Nat.exists_eq_add_of_le (Nat.le_of_add_right_le few)
  rw [enough, reads]
  rw [List.length_append, List.length_singleton] at few ⊢
  obtain ⟨fuel, rfl⟩ : ∃ k, fuel = k + 1 := ⟨fuel - 1, by omega⟩
  exact run_enclosed ⟨.plain [], [], [.anchor .textStart], false⟩ (.closed source.toList id)
    (Nat.le_refl _) (by omega) alone

theorem read_pattern {source flags : String} {ast whole : Ast} (alone : read? source.toList = some ast)
    (wrapped : read? (pattern source flags).patternSource = some whole) :
    whole = atStart (.plain []) ast := by
  obtain ⟨alone, -⟩ := Option.filter_eq_some_iff.mp alone
  obtain ⟨wrapped, -⟩ := Option.filter_eq_some_iff.mp wrapped
  rcases run_pattern flags alone with ⟨-, shut⟩ | ⟨-, -, hidden⟩
  · exact (Option.some.inj (shut.symm.trans wrapped)).symm
  · cases hidden.symm.trans wrapped

end BlockMarkup.Rule
