import Mathlib.Data.List.Forall2
import BlockMarkup.Proofs.Format.Lines
import BlockMarkup.Proofs.Json.Parts

/-!
# What an outline tells of a tree

The guides in front of a line tell how deep its node is, and the sign behind them of which kind it is. So
trees with one outline have one shape, and where locations are shown they have the same ones
(`render_resembles`).
-/

namespace BlockMarkup

/-- The nodes have one shape, if blocks, text, markers and other leaves are told apart. If `located`, all
that is in them has the same locations. -/
inductive Node.Resembles (located : Bool) : Node → Node → Prop where
  | leaf {t u : Token} (text : t.role = .text ↔ u.role = .text)
      (marker : t.role = .marker ↔ u.role = .marker) (loc : located = true → t.loc = u.loc) :
      Resembles located (.leaf t) (.leaf u)
  | block {loc loc' : Location} {opening opening' closing closing' : Option Params}
      {children children' : List Node} (place : located = true → loc = loc')
      (inside : List.Forall₂ (Resembles located) children children') :
      Resembles located (.block loc opening closing children) (.block loc' opening' closing' children')

/-- The names of the blocks that have one. -/
def Document.names (d : Document) : List String := (Node.flattenAll d.children).filterMap Entry.name?

/-! ### Pieces of texts -/

section

variable {p : Char → Bool} {a b x y : List Char} {c d : Char}

/-- A text is cut in one place only where a character of another kind comes first. -/
theorem append_cons_inj (left : ∀ e ∈ a, p e = true) (right : ∀ e ∈ b, p e = true) (stop : p c = false)
    (stop' : p d = false) (same : a ++ c :: x = b ++ d :: y) : a = b ∧ c = d ∧ x = y := by
  have front : (a ++ c :: x).takeWhile p = a := by simp [List.takeWhile_append_of_pos left, stop]
  have front' : (b ++ d :: y).takeWhile p = b := by simp [List.takeWhile_append_of_pos right, stop']
  obtain rfl : a = b := by rw [← front, same, front']
  exact ⟨rfl, List.cons.inj (List.append_cancel_left same)⟩

theorem append_cons_inj_end (left : ∀ e ∈ x, p e = true) (right : ∀ e ∈ y, p e = true)
    (stop : p c = false) (stop' : p d = false) (same : a ++ c :: x = b ++ d :: y) : a = b ∧ c = d ∧ x = y := by
  have backwards : x.reverse ++ c :: a.reverse = y.reverse ++ d :: b.reverse := by
    simpa using congrArg List.reverse same
  obtain ⟨behind, sign, before⟩ :=
    append_cons_inj (by simpa using left) (by simpa using right) stop stop' backwards
  exact ⟨List.reverse_injective before, sign, List.reverse_injective behind⟩

end

open Json.Reader (isDigit_toDigits toDigits_inj)

namespace Outline

variable {showLoc : Bool}

theorem toList_display (loc : Location) :
    loc.display.toList = Nat.toDigits 10 loc.start ++ '.' :: '.' :: Nat.toDigits 10 loc.stop := by
  simp [Location.display]

/-- A shown location is found at the end of a text, whatever is before it. -/
theorem suffix_inj {a b : List Char} {loc loc' : Location}
    (same : a ++ suffix true loc = b ++ suffix true loc') : a = b ∧ loc = loc' := by
  have split (a : List Char) (loc : Location) : a ++ suffix true loc =
      ((a ++ [' ']) ++ '@' :: Nat.toDigits 10 loc.start ++ ['.']) ++ '.' :: Nat.toDigits 10 loc.stop := by
    simp [suffix, toList_display]
  rw [split, split] at same
  obtain ⟨before, -, stop⟩ := append_cons_inj_end (p := Char.isDigit) isDigit_toDigits isDigit_toDigits
    rfl rfl same
  obtain ⟨ahead, -, start⟩ := append_cons_inj_end (p := Char.isDigit) isDigit_toDigits isDigit_toDigits
    rfl rfl (List.append_cancel_right before)
  refine ⟨List.append_cancel_right ahead, ?_⟩
  rw [Location.mk.injEq]
  exact ⟨toDigits_inj start, toDigits_inj stop⟩

/-! ### Lines -/

theorem newline_not_mem_cut {n : Node} (plain : '\n' ∉ shownNames n.flatten) : '\n' ∉ cut (label n) := by
  rw [← List.count_eq_zero]
  cases n with
  | leaf t => exact count_leaf t
  | block loc opening closing children =>
    rw [shownNames_block, List.mem_append, not_or] at plain
    rw [count_block, List.count_eq_zero]
    exact plain.1

/-- All that a line tells of its node can be read off it, once its indentation is known. -/
theorem line_inj {indent : List Char} {isLast isLast' : Bool} {n m : Node} {x y : List Char}
    (plain : '\n' ∉ shownNames n.flatten) (plain' : '\n' ∉ shownNames m.flatten)
    (same : line showLoc indent isLast n ++ x = line showLoc indent isLast' m ++ y) :
    isLast = isLast' ∧ icon n = icon m ∧ (showLoc = true → n.loc = m.loc) ∧ x = y := by
  simp only [line, List.append_assoc] at same
  have fromBranch := List.append_cancel_left same
  obtain rfl : isLast = isLast' := by
    cases isLast <;> cases isLast' <;> first | rfl | cases fromBranch
  have fromSign := List.append_cancel_left fromBranch
  simp only [List.cons_append, List.nil_append, List.cons.injEq, true_and] at fromSign
  obtain ⟨sign, rest⟩ := fromSign
  rw [← List.append_assoc, ← List.append_assoc] at rest
  have content {n : Node} (plain : '\n' ∉ shownNames n.flatten) :
      ∀ c ∈ cut (label n) ++ suffix showLoc n.loc, (c != '\n') = true := by
    intro c member
    rw [bne_iff_ne]
    rintro rfl
    rcases List.mem_append.mp member with named | located
    · exact newline_not_mem_cut plain named
    · exact newline_not_mem_suffix showLoc n.loc located
  obtain ⟨text, -, below⟩ := append_cons_inj (content plain) (content plain') rfl rfl rest
  refine ⟨rfl, sign, ?_, below⟩
  rintro rfl
  exact (suffix_inj text).2

/-! ### Indentation -/

def isGuide (c : Char) : Bool := c = ' ' || c = '│'

theorem isGuide_guide (isLast : Bool) : ∀ c ∈ guide isLast, isGuide c = true := by
  cases isLast <;> simp [guide, isGuide]

/-- How far the first line of a text is indented. -/
def margin (text : List Char) : Nat := (text.takeWhile isGuide).length

/-- The text is at its end, or goes on with a line of something further out. -/
def Outside (indent after : List Char) : Prop := after = [] ∨ margin after < indent.length

variable {indent after : List Char}

theorem margin_line (guides : ∀ c ∈ indent, isGuide c = true) (isLast : Bool) (n : Node) (below : List Char) :
    margin (line showLoc indent isLast n ++ below) = indent.length := by
  cases isLast <;>
    simp [margin, line, branch, List.takeWhile_append_of_pos guides, isGuide]

/-- A node has its line first, and then those of its children. -/
theorem node_eq_line (isLast : Bool) (n : Node) (after : List Char) :
    node showLoc indent isLast n after =
      line showLoc indent isLast n ++ nodes showLoc (indent ++ guide isLast) n.children after := by
  cases n with
  | leaf t => rw [node, Node.children, nodes]
  | block loc opening closing children => rw [node, Node.children]

theorem margin_nodes (showLoc : Bool) (guides : ∀ c ∈ indent, isGuide c = true) (n : Node)
    (rest : List Node) (after : List Char) :
    margin (nodes showLoc indent (n :: rest) after) = indent.length := by
  rw [nodes, node_eq_line, margin_line guides]

theorem nodes_cons_inside (showLoc : Bool) (guides : ∀ c ∈ indent, isGuide c = true) (n : Node)
    (rest : List Node) (after : List Char) : ¬ Outside indent (nodes showLoc indent (n :: rest) after) := by
  rintro (empty | further)
  · rw [nodes, node_eq_line] at empty
    simp [line] at empty
  · rw [margin_nodes showLoc guides] at further
    exact Nat.lt_irrefl _ further

/-- For the children of a node, its further siblings are outside. -/
theorem outside_nodes (guides : ∀ c ∈ indent, isGuide c = true) (outside : Outside indent after)
    (isLast : Bool) (rest : List Node) :
    Outside (indent ++ guide isLast) (nodes showLoc indent rest after) := by
  have deeper : indent.length < (indent ++ guide isLast).length := by cases isLast <;> simp [guide]
  cases rest with
  | nil =>
    rw [nodes]
    exact outside.imp_right fun further => Nat.lt_trans further deeper
  | cons n rest => exact .inr (by rwa [margin_nodes showLoc guides])

/-! ### Trees -/

theorem icon_leaf_iff {t u : Token} (same : icon (.leaf t) = icon (.leaf u)) :
    (t.role = .text ↔ u.role = .text) ∧ (t.role = .marker ↔ u.role = .marker) := by
  simp only [icon] at same
  cases left : t.role <;> cases right : u.role <;> simp [left, right] at same ⊢

theorem icon_leaf_ne_block {t : Token} {loc : Location} {opening closing : Option Params}
    {children : List Node} : icon (.leaf t) ≠ icon (.block loc opening closing children) := by
  simp only [icon]
  cases t.role <;> decide

mutual

theorem node_resembles (n : Node) {m : Node} {indent after after' : List Char} {isLast isLast' : Bool}
    (guides : ∀ c ∈ indent, isGuide c = true) (plain : '\n' ∉ shownNames n.flatten)
    (plain' : '\n' ∉ shownNames m.flatten) (outside : Outside (indent ++ guide isLast) after)
    (outside' : Outside (indent ++ guide isLast') after')
    (same : node showLoc indent isLast n after = node showLoc indent isLast' m after') :
    n.Resembles showLoc m ∧ after = after' := by
  rw [node_eq_line, node_eq_line] at same
  obtain ⟨rfl, sign, located, below⟩ := line_inj plain plain' same
  cases n with
  | leaf t =>
    cases m with
    | leaf u =>
      rw [Node.children, Node.children, nodes, nodes] at below
      obtain ⟨text, marker⟩ := icon_leaf_iff sign
      exact ⟨.leaf text marker located, below⟩
    | block => exact absurd sign icon_leaf_ne_block
  | block loc opening closing children =>
    cases m with
    | leaf u => exact absurd sign.symm icon_leaf_ne_block
    | block loc' opening' closing' children' =>
      have inner : ∀ c ∈ indent ++ guide isLast, isGuide c = true :=
        fun c member => (List.mem_append.mp member).elim (guides c) (isGuide_guide isLast c)
      rw [shownNames_block, List.mem_append, not_or] at plain plain'
      obtain ⟨inside, rest⟩ := nodes_resemble children inner plain.2 plain'.2 outside outside' below
      exact ⟨.block located inside, rest⟩

theorem nodes_resemble (ns : List Node) {ms : List Node} {indent after after' : List Char}
    (guides : ∀ c ∈ indent, isGuide c = true) (plain : '\n' ∉ shownNames (Node.flattenAll ns))
    (plain' : '\n' ∉ shownNames (Node.flattenAll ms)) (outside : Outside indent after)
    (outside' : Outside indent after')
    (same : nodes showLoc indent ns after = nodes showLoc indent ms after') :
    List.Forall₂ (Node.Resembles showLoc) ns ms ∧ after = after' := by
  match ns, ms with
  | [], [] => exact ⟨.nil, same⟩
  | [], m :: ms =>
    have inside := nodes_cons_inside showLoc guides m ms after'
    rw [← same] at inside
    exact absurd outside inside
  | n :: ns, [] =>
    have inside := nodes_cons_inside showLoc guides n ns after
    rw [same] at inside
    exact absurd outside' inside
  | n :: ns, m :: ms =>
    rw [Node.flattenAll, shownNames_append, List.mem_append, not_or] at plain plain'
    rw [nodes, nodes] at same
    obtain ⟨first, rest⟩ := node_resembles n guides plain.1 plain'.1
      (outside_nodes guides outside ns.isEmpty ns) (outside_nodes guides outside' ms.isEmpty ms) same
    obtain ⟨others, behind⟩ := nodes_resemble ns guides plain.2 plain'.2 outside outside' rest
    exact ⟨.cons first others, behind⟩

end

theorem render_inj {showLoc : Bool} {d e : Document} (plain : '\n' ∉ shownNames (Node.flattenAll d.children))
    (plain' : '\n' ∉ shownNames (Node.flattenAll e.children)) (same : render showLoc d = render showLoc e) :
    (showLoc = true → d.loc = e.loc) ∧ List.Forall₂ (Node.Resembles showLoc) d.children e.children := by
  have chars := congrArg String.toList same
  rw [toList_render, toList_render, List.append_assoc, List.append_assoc] at chars
  have other {loc : Location} : ∀ c ∈ suffix showLoc loc, (c != '\n') = true := by
    intro c member
    rw [bne_iff_ne]
    rintro rfl
    exact newline_not_mem_suffix showLoc loc member
  have behind := List.append_cancel_left chars
  obtain ⟨located, -, lines⟩ := append_cons_inj other other rfl rfl behind
  refine ⟨?_, (nodes_resemble d.children (by simp) plain plain' (.inl rfl) (.inl rfl) lines).1⟩
  rintro rfl
  exact (suffix_inj (a := []) (b := []) located).2

end Outline

open Outline (render shown)

/-- Documents with one outline have one shape. With locations they have one outline only if all of their
locations are the same. Names may have line ends behind what is shown of them. -/
theorem render_resembles {d e : Document} (plain : ∀ name ∈ d.names, '\n' ∉ shown name)
    (plain' : ∀ name ∈ e.names, '\n' ∉ shown name) :
    (render false d = render false e →
      List.Forall₂ (Node.Resembles false) d.children e.children) ∧
    (render true d = render true e →
      d.loc = e.loc ∧ List.Forall₂ (Node.Resembles true) d.children e.children) := by
  have whole {d : Document} (plain : ∀ name ∈ d.names, '\n' ∉ shown name) :
      '\n' ∉ Outline.shownNames (Node.flattenAll d.children) := by
    rw [Outline.shownNames, List.mem_flatMap]
    rintro ⟨name, named, member⟩
    exact plain name named member
  constructor
  · intro same
    exact (Outline.render_inj (whole plain) (whole plain') same).2
  · intro same
    obtain ⟨located, inside⟩ := Outline.render_inj (whole plain) (whole plain') same
    exact ⟨located rfl, inside⟩

/-- A block with a name that looks like lines and locations, beside a leaf of a type without meaning. -/
def lookalike (name type : String) : Document :=
  ⟨[.block ⟨1, 2⟩ (some [some name]) none [.leaf (.text "a" ⟨1, 2⟩)],
    .leaf { type, value := "_ @3..4", loc := ⟨2, 9⟩ }], ⟨0, 9⟩⟩

/-- The names differ only behind what is shown of them, and have a line end there. -/
theorem render_resembles_lookalike :
    let d := lookalike "├─ ◦ b @1..2 │ └─ • c @3\nd" "emphasis"
    let e := lookalike "├─ ◦ b @1..2 │ └─ • c @3\ne" "open"
    (∀ name ∈ d.names, '\n' ∉ shown name) ∧ (∀ name ∈ e.names, '\n' ∉ shown name) ∧
      (render false d = render false e ∧ List.Forall₂ (Node.Resembles false) d.children e.children) ∧
      render true d = render true e ∧
      d.loc = e.loc ∧ List.Forall₂ (Node.Resembles true) d.children e.children := by
  intro d e
  have plain : ∀ name ∈ d.names, '\n' ∉ shown name := by decide +kernel
  have plain' : ∀ name ∈ e.names, '\n' ∉ shown name := by decide +kernel
  have same (showLoc : Bool) : render showLoc d = render showLoc e := by
    cases showLoc <;> decide +kernel
  obtain ⟨shape, located⟩ := render_resembles plain plain'
  exact ⟨plain, plain', ⟨same false, shape (same false)⟩, same true, located (same true)⟩

end BlockMarkup
