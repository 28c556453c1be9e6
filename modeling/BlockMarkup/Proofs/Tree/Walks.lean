import BlockMarkup.Proofs.Tree.Depth

/-!
# Walks and recursion

The walks of a document are loops that keep lists of what is left to visit. They stop on every tree, after a
number of turns that the tree tells, with what recursion over the tree gives (`Document.walks_recursive`).
-/

namespace BlockMarkup

/-! ### Loops -/

/-- The loop makes `n` turns from one state and stops in the other. -/
inductive Stops {σ : Type} (turn? : σ → Option σ) : σ → Nat → σ → Prop
  | here {s : σ} (stopped : turn? s = none) : Stops turn? s 0 s
  | later {s u last : σ} {n : Nat} (turned : turn? s = some u) (stops : Stops turn? u n last) :
      Stops turn? s (n + 1) last

namespace Stops

variable {σ α : Type} {turn? : σ → Option σ} {s last : σ} {n : Nat}

theorem stopped (stops : Stops turn? s n last) : turn? last = none := by
  induction stops with
  | here stopped => exact stopped
  | later _ _ ih => exact ih

/-- What no turn changes is the same at the end. -/
theorem same {f : σ → α} (keeps : ∀ s u, turn? s = some u → f u = f s) (stops : Stops turn? s n last) :
    f last = f s := by
  induction stops with
  | here => rfl
  | later turned _ ih => exact ih.trans (keeps _ _ turned)

end Stops

/-- A loop stops when it has used up what each turn takes one of. -/
theorem stops_of_left {σ : Type} {turn? : σ → Option σ} {left : σ → Nat}
    (takes : ∀ s u, turn? s = some u → left s = left u + 1) (stopped : ∀ s, turn? s = none → left s = 0)
    (s : σ) : ∃ last, Stops turn? s (left s) last := by
  induction n : left s generalizing s with
  | zero =>
    cases turned : turn? s with
    | none => exact ⟨s, .here turned⟩
    | some u =>
      have := takes s u turned
      omega
  | succ n ih =>
    cases turned : turn? s with
    | none =>
      have := stopped s turned
      omega
    | some u =>
      have := takes s u turned
      obtain ⟨last, stops⟩ := ih u (by omega)
      exact ⟨last, .later turned stops⟩

/-! ### Leaves -/

namespace Node

mutual

/-- The leaves of a node from left to right. -/
def leaves : Node → List Token
  | leaf token => [token]
  | block _ _ _ children => leavesOfAll children

def leavesOfAll : List Node → List Token
  | [] => []
  | n :: rest => n.leaves ++ leavesOfAll rest

end

mutual

theorem leaf?_flatten : ∀ n : Node, n.flatten.filterMap Entry.leaf? = n.leaves
  | leaf token => rfl
  | block _ _ _ children => by
    rw [flatten, leaves, ← leaf?_flattenAll children]
    simp [Entry.leaf?, List.filterMap_cons]

theorem leaf?_flattenAll : ∀ nodes : List Node,
    (flattenAll nodes).filterMap Entry.leaf? = leavesOfAll nodes
  | [] => rfl
  | n :: rest => by
    rw [flattenAll, leavesOfAll, List.filterMap_append, leaf?_flatten n, leaf?_flattenAll rest]

end

theorem blocksOfAll_append (a b : List Node) :
    blocksOfAll (a ++ b) = blocksOfAll a + blocksOfAll b := by
  induction a with
  | nil => simp [blocksOfAll]
  | cons n rest ih => simp [blocksOfAll, ih, Nat.add_assoc]

end Node

namespace LeafWalk

open Node (sizeOfAll blocksOfAll)

/-- A turn for each node that is left, and one to leave each list of siblings. -/
def turnsLeft (w : LeafWalk) : Nat :=
  sizeOfAll w.levels.flatten + blocksOfAll w.levels.flatten + w.levels.length

theorem turnsLeft_turn (w u : LeafWalk) (turned : w.turn? = some u) : w.turnsLeft = u.turnsLeft + 1 := by
  obtain ⟨levels, done⟩ := w
  match levels with
  | [] => cases turned
  | [] :: outer =>
    cases turned
    simp [turnsLeft]
    omega
  | (.leaf token :: rest) :: outer =>
    cases turned
    simp [turnsLeft, sizeOfAll, Node.size, blocksOfAll, Node.blocks]
    omega
  | (.block loc opening closing children :: rest) :: outer =>
    cases turned
    simp [turnsLeft, sizeOfAll, Node.size, blocksOfAll, Node.blocks, Node.sizeOfAll_append,
      Node.blocksOfAll_append]
    omega

theorem turnsLeft_stopped (w : LeafWalk) (stopped : w.turn? = none) : w.turnsLeft = 0 := by
  rw [turnsLeft, levels_of_stopped stopped]
  rfl

theorem finish_stopped (w : LeafWalk) (stopped : w.turn? = none) : w.finish = w.done.reverse := by
  rw [finish]
  split
  next => rfl
  next turned => cases stopped.symm.trans turned

theorem finish_turn (w u : LeafWalk) (turned : w.turn? = some u) : u.finish = w.finish := by
  rw [finish_eq_total, finish_eq_total, turn_total turned]

theorem stops (w : LeafWalk) : ∃ last, Stops turn? w w.turnsLeft last ∧ last.done.reverse = w.finish := by
  obtain ⟨last, stops⟩ := stops_of_left turnsLeft_turn turnsLeft_stopped w
  exact ⟨last, stops, by rw [← finish_stopped last stops.stopped, stops.same finish_turn]⟩

end LeafWalk

/-! ### Depth -/

namespace DepthWalk

theorem weight_stopped (w : DepthWalk) (stopped : w.turn? = none) : w.weight = 0 := by
  rw [weight, pending_of_stopped stopped]
  rfl

theorem finish_stopped (w : DepthWalk) (stopped : w.turn? = none) : w.finish = w.deepest := by
  rw [finish]
  split
  next => rfl
  next turned => cases stopped.symm.trans turned

theorem finish_turn (w u : DepthWalk) (turned : w.turn? = some u) : u.finish = w.finish := by
  refine eq_of_forall_ge_iff fun bound => ?_
  rw [finish_le, finish_le, turn_within turned]

theorem stops (w : DepthWalk) : ∃ last, Stops turn? w w.weight last ∧ last.deepest = w.finish := by
  obtain ⟨last, stops⟩ := stops_of_left (fun _ _ => weight_turn) weight_stopped w
  exact ⟨last, stops, by rw [← finish_stopped last stops.stopped, stops.same finish_turn]⟩

end DepthWalk

/-! ### Documents -/

theorem Document.leaves_eq_leavesOfAll (d : Document) : d.leaves = Node.leavesOfAll d.children := by
  rw [leaves, LeafWalk.finish_eq_total, LeafWalk.total, Node.leaf?_flattenAll]
  simp [LeafWalk.start]

/-- Walks over any tree stop, the one over leaves after a turn for each node and one for each list of nodes,
the one for the depth after a turn for each node. They give the leaves from left to right and the height of
the tree, as recursion does. -/
theorem Document.walks_recursive (d : Document) :
    (∃ last, Stops LeafWalk.turn? (.start d.children)
        (Node.sizeOfAll d.children + Node.blocksOfAll d.children + 1) last ∧
      last.done.reverse = d.leaves) ∧
    d.leaves = Node.leavesOfAll d.children ∧
    (∃ last, Stops DepthWalk.turn? (.start d.children) (Node.sizeOfAll d.children) last ∧
      last.deepest = d.depth) ∧
    d.depth = Node.heightOfAll d.children := by
  refine ⟨?_, d.leaves_eq_leavesOfAll, ?_, d.depth_eq_height⟩
  · have turns : (LeafWalk.start d.children).turnsLeft =
        Node.sizeOfAll d.children + Node.blocksOfAll d.children + 1 := by
      simp [LeafWalk.turnsLeft, LeafWalk.start]
    rw [← turns]
    exact (LeafWalk.start d.children).stops
  · have turns : (DepthWalk.start d.children).weight = Node.sizeOfAll d.children :=
      Node.sizeOfAll_pendingAt 0 d.children
    rw [← turns]
    exact (DepthWalk.start d.children).stops

end BlockMarkup
