import Mathlib.Algebra.BigOperators.Group.List.Basic
import Mathlib.Algebra.Ring.Int.Defs
import Mathlib.Order.Bounds.Basic
import BlockMarkup.Proofs.Tree.Leaves

/-!
# How deep blocks are nested

The depth of a document is the height of its tree, and blocks are as deep as the tokens before them
leave blocks open: the depth is the greatest number of blocks that are open at one place of the tokens
(`buildNodes_depth`).
-/

namespace BlockMarkup

namespace Node

mutual

/-- The number of blocks around the innermost place of a node. -/
def height : Node → Nat
  | leaf _ => 0
  | block _ _ _ children => heightOfAll children + 1

def heightOfAll : List Node → Nat
  | [] => 0
  | n :: rest => max n.height (heightOfAll rest)

end

mutual

def blocks : Node → Nat
  | leaf _ => 0
  | block _ _ _ children => blocksOfAll children + 1

def blocksOfAll : List Node → Nat
  | [] => 0
  | n :: rest => n.blocks + blocksOfAll rest

end

theorem heightOfAll_le {nodes : List Node} {bound : Nat} :
    heightOfAll nodes ≤ bound ↔ ∀ n ∈ nodes, n.height ≤ bound := by
  induction nodes with
  | nil => simp [heightOfAll]
  | cons n rest ih => simp [heightOfAll, ih]

theorem mem_pendingAt {level : Nat} {nodes : List Node} {p : Node × Nat} :
    p ∈ pendingAt level nodes ↔ p.1 ∈ nodes ∧ p.2 = level := by
  obtain ⟨n, l⟩ := p
  simp [pendingAt, eq_comm (a := level)]

/-- Blocks at one level with their heights are bounded together with the level of what they hold. -/
theorem pendingAt_le {level bound : Nat} {nodes : List Node} (here : level ≤ bound) :
    (∀ p ∈ pendingAt level nodes, p.1.isBlock → p.2 + p.1.height ≤ bound) ↔
      level + heightOfAll nodes ≤ bound := by
  have tallest : heightOfAll nodes ≤ bound - level ↔ ∀ n ∈ nodes, n.height ≤ bound - level :=
    heightOfAll_le
  constructor
  · intro each
    have low : heightOfAll nodes ≤ bound - level := by
      refine tallest.mpr fun n member => ?_
      cases n with
      | leaf t => exact Nat.zero_le _
      | block loc opening closing children =>
        have : level + (block loc opening closing children).height ≤ bound :=
          each (_, level) (mem_pendingAt.mpr ⟨member, rfl⟩) rfl
        omega
    omega
  · rintro low ⟨n, l⟩ pending -
    obtain ⟨member, same⟩ := mem_pendingAt.mp pending
    have := tallest.mp (by omega) n member
    dsimp only at same ⊢
    omega

end Node

namespace DepthWalk

variable {w u : DepthWalk} {bound : Nat}

/-- No depth that the walk has met or will meet is above the bound. -/
def Within (bound : Nat) (w : DepthWalk) : Prop :=
  w.deepest ≤ bound ∧ ∀ p ∈ w.pending, p.1.isBlock → p.2 + p.1.height ≤ bound

/-- Whatever the order in which pending nodes are taken, the same depths are met. -/
theorem turn_within (turned : w.turn? = some u) : u.Within bound ↔ w.Within bound := by
  obtain ⟨pending, deepest⟩ := w
  match pending with
  | [] => cases turned
  | (.leaf t, level) :: rest =>
    cases turned
    simp [Within, Node.isBlock]
  | (.block loc opening closing children, level) :: rest =>
    cases turned
    simp only [Within, List.forall_mem_append, List.forall_mem_cons, Nat.max_le]
    constructor
    · rintro ⟨⟨before, here⟩, inside, others⟩
      have whole := (Node.pendingAt_le here).mp inside
      refine ⟨before, fun _ => ?_, others⟩
      simp only [Node.height]
      omega
    · rintro ⟨before, whole, others⟩
      have whole : level + (Node.heightOfAll children + 1) ≤ bound := whole rfl
      have here : level + 1 ≤ bound := by omega
      exact ⟨⟨before, here⟩, (Node.pendingAt_le here).mpr (by omega), others⟩

theorem pending_of_stopped (stopped : w.turn? = none) : w.pending = [] := by
  obtain ⟨pending, deepest⟩ := w
  match pending with
  | [] => rfl
  | (.leaf _, _) :: _ | (.block _ _ _ _, _) :: _ => cases stopped

theorem finish_le : w.finish ≤ bound ↔ w.Within bound := by
  fun_induction finish w with
  | case1 w stopped => simp [Within, pending_of_stopped stopped]
  | case2 w u turned ih => rw [ih, turn_within turned]

end DepthWalk

theorem Document.depth_eq_height (d : Document) : d.depth = Node.heightOfAll d.children := by
  refine eq_of_forall_ge_iff fun bound => ?_
  rw [Document.depth, DepthWalk.finish_le, DepthWalk.Within, DepthWalk.start,
    Node.pendingAt_le (Nat.zero_le bound), Nat.zero_add]
  exact and_iff_right (Nat.zero_le bound)

/-! ### Levels -/

namespace Entry

/-- What an entry adds to the number of open blocks. -/
def change : Entry → ℤ
  | leaf _ => 0
  | opening _ => 1
  | closing _ => -1

def isOpening : Entry → Bool
  | opening _ => true
  | leaf _ | closing _ => false

/-- How many more blocks are open behind these entries than before them. -/
def level (entries : List Entry) : ℤ := (entries.map change).sum

/-- The greatest level on the way through these entries. -/
def peak : List Entry → ℤ
  | [] => 0
  | e :: rest => max 0 (e.change + peak rest)

variable {a b entries : List Entry}

theorem level_nil : level [] = 0 := rfl

theorem level_cons (e : Entry) (rest : List Entry) : level (e :: rest) = e.change + level rest := by
  simp [level]

theorem level_append : level (a ++ b) = level a + level b := by
  simp [level]

theorem peak_nonneg : 0 ≤ peak entries := by
  cases entries with
  | nil => exact le_rfl
  | cons => exact le_max_left _ _

theorem peak_append : peak (a ++ b) = max (peak a) (level a + peak b) := by
  induction a with
  | nil =>
    have ahead : 0 ≤ peak b := peak_nonneg
    simp [peak, level_nil, ahead]
  | cons e rest ih =>
    rw [List.cons_append, peak, peak, ih, level_cons]
    omega

theorem level_le_peak (before : a <+: entries) : level a ≤ peak entries := by
  obtain ⟨b, rfl⟩ := before
  have ahead : 0 ≤ peak b := peak_nonneg
  have here : level a ≤ peak a := by
    induction a with
    | nil => exact le_rfl
    | cons e rest ih =>
      rw [level_cons, peak]
      omega
  rw [peak_append]
  omega

theorem exists_level_eq_peak (entries : List Entry) : ∃ a, a <+: entries ∧ level a = peak entries := by
  induction entries with
  | nil => exact ⟨[], List.nil_prefix, rfl⟩
  | cons e rest ih =>
    obtain ⟨a, before, reached⟩ := ih
    rw [peak]
    rcases le_total (e.change + peak rest) 0 with low | high
    · exact ⟨[], List.nil_prefix, (max_eq_left low).symm⟩
    · refine ⟨e :: a, List.cons_prefix_cons.mpr ⟨rfl, before⟩, ?_⟩
      rw [level_cons, reached, max_eq_right high]

end Entry

namespace Node

mutual

theorem level_flatten : ∀ n : Node, Entry.level n.flatten = 0
  | leaf _ => rfl
  | block _ _ _ children => by
    rw [flatten, Entry.level_append, Entry.level_cons, level_flattenAll children]
    rfl

theorem level_flattenAll : ∀ nodes : List Node, Entry.level (flattenAll nodes) = 0
  | [] => rfl
  | n :: rest => by
    rw [flattenAll, Entry.level_append, level_flatten n, level_flattenAll rest, add_zero]

end

mutual

/-- The way through a tree climbs as high as the tree. -/
theorem peak_flatten : ∀ n : Node, Entry.peak n.flatten = n.height
  | leaf _ => rfl
  | block _ _ closing children => by
    have inside := peak_flattenAll children
    have last : Entry.peak [.closing closing] = 0 := rfl
    rw [flatten, Entry.peak_append, Entry.level_cons, level_flattenAll, Entry.peak, inside, last, height]
    simp only [Entry.change]
    omega

theorem peak_flattenAll : ∀ nodes : List Node, Entry.peak (flattenAll nodes) = heightOfAll nodes
  | [] => rfl
  | n :: rest => by
    rw [flattenAll, Entry.peak_append, peak_flatten n, peak_flattenAll rest, level_flatten, heightOfAll]
    omega

end

mutual

theorem count_flatten : ∀ n : Node, n.flatten.countP Entry.isOpening = n.blocks
  | leaf _ => rfl
  | block _ _ _ children => by
    rw [flatten, List.countP_append, List.countP_cons, count_flattenAll children, blocks]
    rfl

theorem count_flattenAll :
    ∀ nodes : List Node, (flattenAll nodes).countP Entry.isOpening = blocksOfAll nodes
  | [] => rfl
  | n :: rest => by
    rw [flattenAll, List.countP_append, count_flatten n, count_flattenAll rest, blocksOfAll]

end

end Node

/-! ### Building -/

theorem change_ofToken (t : Token) :
    (Entry.ofToken t).change =
      (if t.role = .opening then 1 else 0 : ℕ) - (if t.role = .closing then 1 else 0 : ℕ) := by
  unfold Entry.ofToken
  cases t.role <;> rfl

theorem level_ofTokens (tokens : List Token) :
    Entry.level (tokens.map Entry.ofToken) = (opens tokens : ℤ) - closes tokens := by
  induction tokens with
  | nil => rfl
  | cons t rest ih =>
    simp only [opens, closes, List.countP_cons, decide_eq_true_eq] at ih ⊢
    rw [List.map_cons, Entry.level_cons, ih, change_ofToken]
    omega

theorem isOpening_ofToken (t : Token) :
    (Entry.ofToken t).isOpening = decide (t.role = .opening) := by
  unfold Entry.ofToken
  cases t.role <;> rfl

theorem peak_closings (k : Nat) : Entry.peak (List.replicate k (.closing none)) = 0 := by
  induction k with
  | zero => rfl
  | succ k ih =>
    rw [List.replicate_succ, Entry.peak, ih]
    rfl

variable {o : BuildOptions} {tokens : List Token} {nodes : List Node}

theorem buildNodes_peak (built : buildNodes o tokens = .ok nodes) :
    Entry.peak (tokens.map Entry.ofToken) = Node.heightOfAll nodes := by
  obtain ⟨unclosed, entries⟩ := buildNodes_entries built
  have climbed := Entry.level_le_peak (List.prefix_refl (tokens.map Entry.ofToken))
  have whole := Node.peak_flattenAll nodes
  rw [entries, Entry.peak_append, peak_closings] at whole
  omega

theorem buildNodes_blocks (built : buildNodes o tokens = .ok nodes) :
    Node.blocksOfAll nodes = opens tokens := by
  obtain ⟨unclosed, entries⟩ := buildNodes_entries built
  have implicit : (List.replicate unclosed (Entry.closing none)).countP Entry.isOpening = 0 := by
    simp [Entry.isOpening]
  rw [← Node.count_flattenAll, entries, List.countP_append, implicit, Nat.add_zero, List.countP_map]
  exact List.countP_congr fun t _ => by simp [isOpening_ofToken]

/-- The depth of a document is the greatest number of blocks that are open behind some of its first
tokens, and it has a block for each opening token. -/
theorem buildNodes_depth (built : buildNodes o tokens = .ok nodes) (loc : Location) :
    IsGreatest {level : ℤ | ∃ seen, seen <+: tokens ∧ level = opens seen - closes seen}
      (Document.depth ⟨nodes, loc⟩) ∧
    Node.blocksOfAll nodes = opens tokens := by
  refine ⟨?_, buildNodes_blocks built⟩
  rw [Document.depth_eq_height, ← buildNodes_peak built]
  constructor
  · obtain ⟨before, first, reached⟩ := Entry.exists_level_eq_peak (tokens.map Entry.ofToken)
    obtain ⟨seen, start, rfl⟩ := List.prefix_map_iff.mp first
    exact ⟨seen, start, by rw [← level_ofTokens, reached]⟩
  · rintro level ⟨seen, start, rfl⟩
    rw [← level_ofTokens]
    exact Entry.level_le_peak (start.map _)

theorem buildNodes_depth_nested :
    buildNodes { endOffset := .lastChild } nestedTokens = .ok nestedNodes ∧
      IsGreatest {level : ℤ | ∃ seen, seen <+: nestedTokens ∧ level = opens seen - closes seen}
        (Document.depth ⟨nestedNodes, ⟨0, 6⟩⟩) ∧
      Node.blocksOfAll nestedNodes = opens nestedTokens :=
  ⟨buildNodes_nested, buildNodes_depth buildNodes_nested _⟩

end BlockMarkup
