import Mathlib.Control.Monad.Basic
import BlockMarkup.Format.Outline
import BlockMarkup.Proofs.Tree.Leaves

/-!
# Lines of outlines

An outline has one line for the document and one for each node, and one more for each line end in the
names of blocks, as far as they are shown: unlike the values of leaves, names are not escaped
(`build_outline_lines`).
-/

namespace BlockMarkup

/-! ### Text without line ends -/

theorem newline_not_mem_toDigits (b : Nat) (several : 1 < b) (n : Nat) : '\n' ∉ Nat.toDigits b n := by
  have digit (n : Nat) : '\n' ≠ Nat.digitChar n := (Nat.digitChar_ne '\n' (by decide)).symm
  induction n using Nat.strongRecOn with
  | ind n ih =>
    rw [Nat.toDigits_eq_if several]
    split
    next => simp [digit]
    next large =>
      have fewer : n / b < n := Nat.div_lt_self (by omega) several
      simpa [digit] using ih _ fewer

theorem newline_not_mem_display (loc : Location) : '\n' ∉ loc.display.toList := by
  have number := newline_not_mem_toDigits 10 (by decide)
  simp [Location.display, number]

namespace Text

theorem newline_not_mem_escapeChar (singleQuote extending : Bool) (c : Char) :
    '\n' ∉ escapeChar singleQuote extending c := by
  have code : '\n' ∉ numbered c := by
    simpa [numbered, hexDigits] using newline_not_mem_toDigits 16 (by decide) c.toNat
  have plain (other : ¬ c = '\n') : '\n' ∉ [c] := by simpa using Ne.symm other
  have branch {p : Prop} [Decidable p] {yes no : List Char} (left : '\n' ∉ yes)
      (right : ¬ p → '\n' ∉ no) : '\n' ∉ if p then yes else no := by
    by_cases holds : p
    · rwa [if_pos holds]
    · rw [if_neg holds]
      exact right holds
  unfold escapeChar
  refine branch (by decide) fun _ => branch (by decide) fun _ => branch (by decide) fun _ =>
    branch (by decide) fun other => branch (by decide) fun _ => branch (by decide) fun _ =>
    branch ?_ fun _ => branch (plain other) fun _ => branch code fun _ => branch code fun _ => plain other
  exact branch (by decide) fun _ => by decide

theorem newline_not_mem_escapedChars (cs : List Char) : '\n' ∉ escapedChars cs := by
  cases cs with
  | nil => simp [escapedChars]
  | cons c rest => simp [escapedChars, newline_not_mem_escapeChar]

end Text

/-! ### Lines -/

/-- The name of the block that starts here, if it has one. -/
def Entry.name? : Entry → Option String
  | .opening (some (some name :: _)) => some name
  | _ => none

namespace Outline

/-- What the outline shows of the name of a block, behind the word that stands for blocks. -/
def shown (name : String) : List Char := name.toList.take (labelLimit - "block ".length)

/-- The characters that the outline shows of the names of blocks. -/
def shownNames (entries : List Entry) : List Char := (entries.filterMap Entry.name?).flatMap shown

theorem shownNames_append (a b : List Entry) : shownNames (a ++ b) = shownNames a ++ shownNames b := by
  simp [shownNames]

theorem shownNames_block (loc : Location) (opening closing : Option Params) (children : List Node) :
    shownNames (Node.block loc opening closing children).flatten =
      shownNames [.opening opening] ++ shownNames (Node.flattenAll children) := by
  rw [Node.flatten, ← List.singleton_append, List.append_assoc, shownNames_append, shownNames_append]
  simp [shownNames, Entry.name?]

theorem count_cut (label : List Char) : (cut label).count '\n' = (label.take labelLimit).count '\n' := by
  unfold cut
  split
  next => simp
  next short => rw [List.take_of_length_le (Nat.le_of_not_lt short)]

theorem count_leaf (t : Token) : (cut (label (.leaf t))).count '\n' = 0 := by
  rw [count_cut, List.count_eq_zero]
  exact fun member => Text.newline_not_mem_escapedChars _ (List.mem_of_mem_take member)

theorem count_block (loc : Location) (opening closing : Option Params) (children : List Node) :
    (cut (label (.block loc opening closing children))).count '\n' =
      (shownNames [.opening opening]).count '\n' := by
  rw [count_cut]
  match opening with
  | some (some name :: more) =>
    have named : label (.block loc (some (some name :: more)) closing children) =
        "block ".toList ++ name.toList := rfl
    have word : ("block ".toList.take labelLimit).count '\n' = 0 := by decide +kernel
    have short : shownNames [.opening (some (some name :: more))] = shown name := by
      simp [shownNames, Entry.name?]
    rw [named, List.take_append, List.count_append, word, short, Nat.zero_add]
    rfl
  | none | some [] | some (none :: _) => rfl

theorem newline_not_mem_suffix (showLoc : Bool) (loc : Location) : '\n' ∉ suffix showLoc loc := by
  cases showLoc <;> simp [suffix, newline_not_mem_display]

theorem newline_not_mem_guide (isLast : Bool) : '\n' ∉ guide isLast := by
  cases isLast <;> decide

theorem icon_ne_newline (n : Node) : icon n ≠ '\n' := by
  cases n with
  | block => exact nofun
  | leaf t =>
    rw [icon]
    split <;> exact nofun

theorem count_line (showLoc : Bool) {indent : List Char} (indented : '\n' ∉ indent) (isLast : Bool)
    (n : Node) :
    (line showLoc indent isLast n).count '\n' = (cut (label n)).count '\n' + 1 := by
  have around : (indent ++ branch isLast ++ [' ', icon n, ' ']).count '\n' = 0 := by
    rw [List.count_eq_zero]
    cases isLast <;> simp [branch, indented, (icon_ne_newline n).symm]
  have behind := List.count_eq_zero.mpr (newline_not_mem_suffix showLoc n.loc)
  rw [line, List.count_append, List.count_append, List.count_append, around, behind]
  simp

mutual

theorem count_node (showLoc : Bool) {indent : List Char} (indented : '\n' ∉ indent) (isLast : Bool)
    (after : List Char) : ∀ n : Node,
      (node showLoc indent isLast n after).count '\n' =
        n.size + (shownNames n.flatten).count '\n' + after.count '\n'
  | .leaf t => by
    have unnamed : shownNames (Node.leaf t).flatten = [] := rfl
    rw [node, List.count_append, count_line showLoc indented, count_leaf, unnamed, Node.size]
    rfl
  | .block loc opening closing children => by
    have inner : '\n' ∉ indent ++ guide isLast := by simp [indented, newline_not_mem_guide]
    rw [node, List.count_append, count_line showLoc indented, count_block,
      count_nodes showLoc inner, shownNames_block, List.count_append, Node.size]
    omega

theorem count_nodes (showLoc : Bool) {indent : List Char} (indented : '\n' ∉ indent)
    (after : List Char) : ∀ ns : List Node,
      (nodes showLoc indent ns after).count '\n' =
        Node.sizeOfAll ns + (shownNames (Node.flattenAll ns)).count '\n' + after.count '\n'
  | [] => by simp [nodes, Node.sizeOfAll, Node.flattenAll, shownNames]
  | n :: rest => by
    rw [nodes, count_node showLoc indented, count_nodes showLoc indented, Node.sizeOfAll,
      Node.flattenAll, shownNames_append, List.count_append]
    omega

end

theorem toList_render (showLoc : Bool) (d : Document) :
    (render showLoc d).toList = "⧉ document".toList ++ suffix showLoc d.loc ++ '\n' ::
      nodes showLoc [] d.children [] := String.toList_ofList

theorem count_render (showLoc : Bool) (d : Document) :
    (render showLoc d).toList.count '\n' =
      1 + Node.sizeOfAll d.children + (shownNames (Node.flattenAll d.children)).count '\n' := by
  have behind := List.count_eq_zero.mpr (newline_not_mem_suffix showLoc d.loc)
  have head : "⧉ document".toList.count '\n' = 0 := by decide +kernel
  have lines := count_nodes showLoc (List.not_mem_nil (a := '\n')) [] d.children
  rw [toList_render, List.count_append, List.count_append, head, behind, List.count_cons_self, lines,
    List.count_nil]
  omega

end Outline

/-! ### Documents -/

/-- The names of the blocks that these tokens open. -/
def openedNames (tokens : List Token) : List String :=
  (tokens.filter (·.role = .opening)).filterMap Token.firstParam

theorem name?_ofToken (t : Token) :
    (Entry.ofToken t).name? = if t.role = .opening then t.firstParam else none := by
  unfold Entry.ofToken
  cases role : t.role with
  | opening =>
    unfold Token.firstParam
    match t.params with
    | some (some name :: _) | none | some [] | some (none :: _) => rfl
  | text | closing | marker | other => rfl

theorem names_ofTokens (tokens : List Token) :
    (tokens.map Entry.ofToken).filterMap Entry.name? = openedNames tokens := by
  rw [openedNames, List.filterMap_filter, List.filterMap_map]
  exact List.filterMap_congr fun t _ => by simp [name?_ofToken]

theorem shownNames_built {o : BuildOptions} {tokens : List Token} {nodes : List Node}
    (built : buildNodes o tokens = .ok nodes) :
    Outline.shownNames (Node.flattenAll nodes) = (openedNames tokens).flatMap Outline.shown := by
  rw [Outline.shownNames, buildNodes_filterMap rfl built, names_ofTokens]

/-- The outline of a document has a line for the document and one for each node, and a line more for each
line end in the first characters of the names of blocks, which are the first groups of opening tokens. -/
theorem build_outline_lines {o : BuildOptions} {rules : RuleSet} {source : String} {d : Document}
    (built : build o rules source = .ok d) (showLoc : Bool) :
    ∃ tokens, scanSource rules source = .ok tokens ∧
      (Outline.render showLoc d).toList.count '\n' =
        1 + Node.sizeOfAll d.children + ((openedNames tokens).flatMap Outline.shown).count '\n' ∧
      ((Outline.render showLoc d).toList.count '\n' = 1 + Node.sizeOfAll d.children ↔
        ∀ name ∈ openedNames tokens, '\n' ∉ Outline.shown name) := by
  unfold build at built
  split at built
  next => cases built
  next tokens scanned =>
    split at built
    next => cases built
    next nodes read =>
      cases built
      have lines := Outline.count_render showLoc ⟨nodes, ⟨0, source.length⟩⟩
      rw [shownNames_built read] at lines
      refine ⟨tokens, scanned, lines, ?_⟩
      have whole : ((openedNames tokens).flatMap Outline.shown).count '\n' = 0 ↔
          ∀ name ∈ openedNames tokens, '\n' ∉ Outline.shown name := by
        rw [List.count_eq_zero]
        simp
      rw [lines, ← whole]
      omega

theorem build_outline_lines_nested :
    ∃ d, build { endOffset := .lastChild } ⟨sampleRules⟩ "a<xébc" = .ok d ∧
      (Outline.render true d).toList.count '\n' = 6 := by
  obtain ⟨tokens, scanned, -, lines⟩ := build_outline_lines build_nested true
  obtain rfl := Except.ok.inj (scanSource_nested.symm.trans scanned)
  exact ⟨_, build_nested, lines.mpr (by decide)⟩

/-- The name of a block is what stands between its angle brackets. -/
def namedRules : List (String × Rule) := [("open", .pattern "<([^>]+)>" "")]

def brokenTokens : List Token :=
  [{ type := "open", value := "<a\nb>", params := some [some "a\nb"], loc := ⟨0, 5⟩ }]

theorem scanSource_broken : scanSource ⟨namedRules⟩ "<a\nb>" = .ok brokenTokens := by decide +kernel

def brokenNodes : List Node := [.block ⟨5, 5⟩ (some [some "a\nb"]) none []]

theorem buildNodes_broken : buildNodes {} brokenTokens = .ok brokenNodes := by
  have ran : Builder.empty.run {} brokenTokens =
      .ok ⟨[], [⟨⟨5, 5⟩, some [some "a\nb"], some ⟨.param "a\nb", "a\nb"⟩, []⟩]⟩ := rfl
  simp only [buildNodes, ran, Builder.finish_block, Builder.attach_document, Builder.finish_document]
  rfl

/-- The line of a block is broken in two by its name. -/
theorem newline_name_breaks_line :
    ∃ d, build {} ⟨namedRules⟩ "<a\nb>" = .ok d ∧ Node.sizeOfAll d.children = 1 ∧
      (Outline.render false d).toList.count '\n' = 3 := by
  have built : build {} ⟨namedRules⟩ "<a\nb>" = .ok ⟨brokenNodes, ⟨0, 5⟩⟩ := by
    simp only [build, scanSource_broken, buildNodes_broken]
    rfl
  refine ⟨_, built, rfl, ?_⟩
  rw [Outline.count_render]
  rfl

end BlockMarkup
