import BlockMarkup.Token.Basic

/-!
# Documents

A document is a list of nodes: leaves, which are tokens, and blocks, which hold nodes. The walks
keep lists of what is left to visit, so their memory does not depend on how deep blocks are
nested.
-/

namespace BlockMarkup

inductive Node where
  | leaf (token : Token)
  /-- `opening` and `closing` are the params of the tokens around the block. -/
  | block (loc : Location) (opening closing : Option Params) (children : List Node)
  deriving Inhabited

structure Document where
  children : List Node
  loc : Location

namespace Node

def loc : Node → Location
  | leaf token => token.loc
  | block loc _ _ _ => loc

/-- The type of a leaf; the type of a block is `block`. -/
def type : Node → String
  | leaf token => token.type
  | block _ _ _ _ => "block"

def children : Node → List Node
  | leaf _ => []
  | block _ _ _ children => children

def isBlock : Node → Bool
  | leaf _ => false
  | block _ _ _ _ => true

mutual

def size : Node → Nat
  | leaf _ => 1
  | block _ _ _ children => sizeOfAll children + 1

def sizeOfAll : List Node → Nat
  | [] => 0
  | n :: rest => n.size + sizeOfAll rest

end

theorem sizeOfAll_append (a b : List Node) : sizeOfAll (a ++ b) = sizeOfAll a + sizeOfAll b := by
  induction a with
  | nil => simp [sizeOfAll]
  | cons n rest ih => simp [sizeOfAll, ih, Nat.add_assoc]

theorem sizeOfAll_reverse (ns : List Node) : sizeOfAll ns.reverse = sizeOfAll ns := by
  induction ns with
  | nil => rfl
  | cons n rest ih => simp [sizeOfAll, sizeOfAll_append, ih, Nat.add_comm]

/-- Nodes at one depth, the last one first. -/
def pendingAt (level : Nat) (nodes : List Node) : List (Node × Nat) := (nodes.map (·, level)).reverse

theorem sizeOfAll_pendingAt (level : Nat) (nodes : List Node) :
    sizeOfAll ((pendingAt level nodes).map (·.1)) = sizeOfAll nodes := by
  simp [pendingAt, sizeOfAll_reverse, Function.comp_def]

/-- The children of a node with their paths, which end in their places among the children. -/
def childrenAt (path : List Nat) (n : Node) : List (List Nat × Node) :=
  n.children.zipIdx.map fun (child, i) => (path ++ [i], child)

theorem sizeOfAll_childrenAt (path : List Nat) (n : Node) :
    sizeOfAll ((n.childrenAt path).map (·.2)) + 1 = n.size := by
  cases n with
  | leaf _ => simp [childrenAt, children, size, sizeOfAll]
  | block loc opening closing children =>
    simp [childrenAt, Node.children, size, Function.comp_def]

/-- Pending nodes and all below them, each one before its children, after those in `done`, last one
first. -/
def nodesFrom (done : List (List Nat × Node)) :
    List (List Nat × Node) → List (List Nat × Node)
  | [] => done.reverse
  | (path, n) :: rest => nodesFrom ((path, n) :: done) (n.childrenAt path ++ rest)
termination_by pending => sizeOfAll (pending.map (·.2))
decreasing_by
  have := sizeOfAll_childrenAt path n
  simp only [List.map_append, List.map_cons, sizeOfAll, sizeOfAll_append]
  omega

end Node

/-! ### Walks -/

/-- The walk over leaves. It keeps what is left of each list of siblings that it is in, the innermost
one first, and the leaves so far, the last one first. -/
structure LeafWalk where
  levels : List (List Node)
  done : List Token

namespace LeafWalk

open Node

def start (nodes : List Node) : LeafWalk := ⟨[nodes], []⟩

/-- One turn takes the next sibling, or leaves a list that has none. Without lists there is no turn. -/
def turn? : LeafWalk → Option LeafWalk
  | ⟨[], _⟩ => none
  | ⟨[] :: outer, done⟩ => some ⟨outer, done⟩
  | ⟨(leaf token :: rest) :: outer, done⟩ => some ⟨rest :: outer, token :: done⟩
  | ⟨(block _ _ _ children :: rest) :: outer, done⟩ => some ⟨children :: rest :: outer, done⟩

/-- Nodes count twice, since a block is exchanged for one more list. -/
def weight (w : LeafWalk) : Nat := 2 * sizeOfAll w.levels.flatten + w.levels.length

theorem weight_turn {w u : LeafWalk} (turned : w.turn? = some u) : u.weight < w.weight := by
  obtain ⟨levels, done⟩ := w
  match levels with
  | [] => cases turned
  | [] :: outer => cases turned; simp [weight]
  | (leaf token :: rest) :: outer => cases turned; simp [weight, sizeOfAll, size]
  | (block _ _ _ children :: rest) :: outer =>
    cases turned
    simp [weight, sizeOfAll, size, sizeOfAll_append]
    omega

/-- Turns as long as there are any. -/
def finish (w : LeafWalk) : List Token :=
  match _ : w.turn? with
  | none => w.done.reverse
  | some u => u.finish
termination_by w.weight
decreasing_by exact weight_turn ‹_›

end LeafWalk

/-- The walk for the depth. Pending nodes come with the depth of what holds them, and the one that was
put aside last is taken first. -/
structure DepthWalk where
  pending : List (Node × Nat)
  deepest : Nat

namespace DepthWalk

open Node

def start (nodes : List Node) : DepthWalk := ⟨pendingAt 0 nodes, 0⟩

/-- One turn takes a node and puts aside what it holds. -/
def turn? : DepthWalk → Option DepthWalk
  | ⟨[], _⟩ => none
  | ⟨(leaf _, _) :: rest, deepest⟩ => some ⟨rest, deepest⟩
  | ⟨(block _ _ _ children, level) :: rest, deepest⟩ =>
    some ⟨pendingAt (level + 1) children ++ rest, max deepest (level + 1)⟩

def weight (w : DepthWalk) : Nat := sizeOfAll (w.pending.map (·.1))

theorem weight_turn {w u : DepthWalk} (turned : w.turn? = some u) : w.weight = u.weight + 1 := by
  obtain ⟨pending, deepest⟩ := w
  match pending with
  | [] => cases turned
  | (leaf _, _) :: rest => cases turned; simp [weight, sizeOfAll, size]; omega
  | (block _ _ _ children, level) :: rest =>
    cases turned
    simp [weight, sizeOfAll, size, sizeOfAll_append, sizeOfAll_pendingAt]
    omega

/-- Turns as long as there are any. -/
def finish (w : DepthWalk) : Nat :=
  match _ : w.turn? with
  | none => w.deepest
  | some u => u.finish
termination_by w.weight
decreasing_by exact Nat.lt_of_succ_le (Nat.le_of_eq (weight_turn ‹_›).symm)

end DepthWalk

namespace Document

/-- All nodes with their paths, each one before its children. -/
def nodes (d : Document) : List (List Nat × Node) :=
  Node.nodesFrom [] (d.children.zipIdx.map fun (n, i) => ([i], n))

/-- The leaves from left to right. -/
def leaves (d : Document) : List Token := (LeafWalk.start d.children).finish

/-- The values of the leaves: the source without the delimiters of blocks. -/
def text (d : Document) : String := detokenize d.leaves

def depth (d : Document) : Nat := (DepthWalk.start d.children).finish

end Document

end BlockMarkup
