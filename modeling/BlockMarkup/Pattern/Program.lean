import BlockMarkup.Pattern.Size

/-!
# Programs

A program is an expression with its repetitions written out, as a list of nodes to be matched one
after the other. Every place where matching can go more than one way has a number of its own, so
that a search can tell whether it has been there.
-/

namespace BlockMarkup.Pattern

open Unicode (CharSet)

inductive Node where
  | char (c : Char)
  | set (s : CharSet)
  | look (l : Look)
  /-- Notes the position: slot `2 * i` is where group `i` starts, the next slot where it ends. -/
  | mark (slot : Nat)
  /-- One of several ways, the first ones preferred. -/
  | fork (id : Nat) (branches : List (List Node))
  | loop (id : Nat) (greedy : Bool) (body : List Node)

abbrev Numbering := StateM Nat

def fresh : Numbering Nat := fun n => (n, n + 1)

/-- A way in, or the way past it, the preferred one first. -/
def Node.option (id : Nat) (greedy : Bool) (body : List Node) : Node :=
  .fork id (if greedy then [body, []] else [[], body])

/-- `n` copies in front of what has been written. -/
def copies (one : Numbering (List Node)) : Nat → List Node → Numbering (List Node)
  | 0, done => pure done
  | n + 1, done => do
    let body ← one
    copies one n (body ++ done)

/-- Up to `n` copies, each one inside the choice for the one before it. -/
def optionalCopies (greedy : Bool) (one : Numbering (List Node)) :
    Nat → List Node → Numbering (List Node)
  | 0, done => pure done
  | n + 1, done => do
    let body ← one
    let id ← fresh
    optionalCopies greedy one n [.option id greedy (body ++ done)]

/-- At least `least` times the body. A body that may consume nothing runs at most once more before
its loop, which ends the loop as soon as a round has consumed nothing. -/
def unbounded (least : Nat) (greedy nullable : Bool) (one : Numbering (List Node)) :
    Numbering (List Node) :=
  match least with
  | 0 => do
    let body ← one
    let id ← fresh
    if nullable then
      let outer ← fresh
      pure [.option outer greedy (body ++ [.loop id greedy body])]
    else pure [.loop id greedy body]
  | n + 1 => do
    let body ← one
    let id ← fresh
    copies one n (body ++ [.loop id greedy body])

namespace Expr

mutual

def nodes : Expr → Numbering (List Node)
  | .empty => pure []
  | .char c => pure [.char c]
  | .set s => pure [.set s]
  | .look l => pure [.look l]
  | .group index body => do
    let inner ← body.nodes
    pure (.mark (2 * index) :: inner ++ [.mark (2 * index + 1)])
  | .concat items => nodesOfAll items
  | .choice branches => do
    let id ← fresh
    let ways ← waysOfAll branches
    pure [.fork id ways]
  | .iterate least most greedy body =>
    match bounds least most body with
    | (_, some 0) => pure []
    | (least, some most) => do
      let rest ← optionalCopies greedy body.nodes (most - least) []
      copies body.nodes least rest
    | (least, none) => unbounded least greedy body.isNullable body.nodes

def nodesOfAll : List Expr → Numbering (List Node)
  | [] => pure []
  | e :: rest => do
    let first ← e.nodes
    let others ← nodesOfAll rest
    pure (first ++ others)

def waysOfAll : List Expr → Numbering (List (List Node))
  | [] => pure []
  | e :: rest => do
    let first ← e.nodes
    let others ← waysOfAll rest
    pure (first :: others)

end

end Expr

mutual

def Node.weight : Node → Nat
  | .fork _ branches => Node.weightOfWays branches + 1
  | .loop _ _ body => Node.weightOfAll body + 1
  | _ => 1

def Node.weightOfAll : List Node → Nat
  | [] => 0
  | n :: rest => n.weight + Node.weightOfAll rest

def Node.weightOfWays : List (List Node) → Nat
  | [] => 0
  | way :: rest => Node.weightOfAll way + 1 + Node.weightOfWays rest

end

mutual

/-- One more than the greatest number of a group. -/
def Node.groups : Node → Nat
  | .mark slot => slot / 2 + 1
  | .fork _ branches => Node.groupsOfWays branches
  | .loop _ _ body => Node.groupsOfAll body
  | _ => 0

def Node.groupsOfAll : List Node → Nat
  | [] => 0
  | n :: rest => max n.groups (Node.groupsOfAll rest)

def Node.groupsOfWays : List (List Node) → Nat
  | [] => 0
  | way :: rest => max (Node.groupsOfAll way) (Node.groupsOfWays rest)

end

structure Program where
  nodes : List Node
  groups : Nat
  /-- The steps that one thread can take without consuming anything. -/
  bound : Nat

namespace Program

def ofExpr (e : Expr) : Program :=
  let nodes := (e.nodes.run 0).1
  let weight := Node.weightOfAll nodes
  { nodes, groups := Node.groupsOfAll nodes - 1, bound := (weight + 2) * (weight + 2) }

/-- Whether the program starts with a test for the start of the text. -/
def isAnchored (p : Program) : Bool :=
  match p.nodes with
  | .look .textStart :: _ => true
  | _ => false

end Program

end BlockMarkup.Pattern
