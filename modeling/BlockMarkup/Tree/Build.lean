import BlockMarkup.Tree.Node

/-!
# Building trees

Tokens are taken from the left, with a stack of the blocks that are open. Text and markers become
leaves, an opening token starts a block, a closing token ends the innermost one. Blocks that are
still open when the tokens run out are ended there.
-/

namespace BlockMarkup

/-- How a closing token is compared with the token that opened its block. -/
inductive CloseMatching where
  | unconditional
  | strict
  deriving DecidableEq, Repr, Inhabited

/-- Which children move the end of a block. -/
inductive EndOffset where
  | lastText
  | lastChild
  deriving DecidableEq, Repr, Inhabited

structure BuildOptions where
  closeMatching : CloseMatching := .unconditional
  endOffset : EndOffset := .lastText
  deriving DecidableEq, Repr

/-- Closing tokens must fit the tokens that opened their blocks. -/
def BuildOptions.strict : BuildOptions := { closeMatching := .strict }

inductive SyntaxError where
  | unexpectedToken (value : String) (loc : Location)
  | unexpectedTokenInBlock (value : String) (loc : Location)
  | mismatchedClose (value expected : String) (loc : Location)
  deriving DecidableEq, Repr

namespace SyntaxError

def message : SyntaxError → String
  | unexpectedToken value _ =>
    "unexpected token \"" ++ value ++ "\", expected opening tag, opening block or marker"
  | unexpectedTokenInBlock value _ => "unexpected token \"" ++ value ++ "\""
  | mismatchedClose value expected _ =>
    "closing token \"" ++ value ++ "\" does not match opening \"" ++ expected ++ "\""

def loc : SyntaxError → Location
  | unexpectedToken _ loc | unexpectedTokenInBlock _ loc | mismatchedClose _ _ loc => loc

end SyntaxError

/-! ### Pairing -/

/-- What must agree between the two ends of a block. -/
inductive PairKey where
  | alternative (index : Nat)
  | param (text : String)
  deriving DecidableEq, Repr

namespace PairKey

/-- The position of the literal that matched, or else the first param. -/
def ofToken? (t : Token) : Option PairKey :=
  match t.alternative with
  | some index => some (alternative index)
  | none => t.firstParam.map param

/-- Keys of one kind that differ. -/
def conflicts : PairKey → PairKey → Bool
  | alternative a, alternative b => a != b
  | param a, param b => a != b
  | _, _ => false

def label (t : Token) : PairKey → String
  | alternative _ => t.value
  | param text => text

end PairKey

structure Pairing where
  key : PairKey
  label : String
  deriving DecidableEq, Repr

def Pairing.ofToken? (t : Token) : Option Pairing :=
  (PairKey.ofToken? t).map fun key => ⟨key, key.label t⟩

/-! ### The machine -/

structure OpenBlock where
  loc : Location
  opening : Option Params
  pairing : Option Pairing
  children : List Node

def OpenBlock.close (b : OpenBlock) (closing : Option Params) : Node :=
  .block b.loc b.opening closing b.children.reverse

/-- The finished nodes of the document, last one first, and the open blocks, innermost first. -/
structure Builder where
  done : List Node
  stack : List OpenBlock

namespace Builder

def empty : Builder := ⟨[], []⟩

/-- Adds a node to the innermost open block, or to the document. -/
def attach (o : BuildOptions) (b : Builder) (n : Node) : Builder :=
  match b.stack with
  | [] => { b with done := n :: b.done }
  | top :: rest =>
    let loc := match o.endOffset with
      | .lastText => top.loc
      | .lastChild => { top.loc with stop := max top.loc.stop n.loc.stop }
    { b with stack := { top with loc, children := n :: top.children } :: rest }

def setStop (stop : Nat) (b : Builder) : Builder :=
  match b.stack with
  | [] => b
  | top :: rest => { b with stack := { top with loc := { top.loc with stop } } :: rest }

/-- Opens a block. It starts where the next token does, and ends there until something moves its
end. -/
def openBlock (b : Builder) (t : Token) (next : Option Token) : Builder :=
  let loc := match next with
    | some next => next.loc
    | none => .emptyAt t.loc.stop
  { b with stack := ⟨loc, t.params, Pairing.ofToken? t, []⟩ :: b.stack }

def mismatch? (o : BuildOptions) (opening : Option Pairing) (t : Token) : Option SyntaxError :=
  match o.closeMatching, opening, PairKey.ofToken? t with
  | .strict, some opening, some closing =>
    if opening.key.conflicts closing then some (.mismatchedClose t.value opening.label t.loc)
    else none
  | _, _, _ => none

/-- Takes one token. `next` is the one after it. -/
def step (o : BuildOptions) (b : Builder) (t : Token) (next : Option Token) :
    Except SyntaxError Builder :=
  match t.role with
  | .text => .ok ((b.setStop t.loc.stop).attach o (.leaf t))
  | .marker => .ok (b.attach o (.leaf t))
  | .opening => .ok (b.openBlock t next)
  | .closing =>
    match b.stack with
    | [] => .error (.unexpectedToken t.value t.loc)
    | top :: rest =>
      match mismatch? o top.pairing t with
      | some e => .error e
      | none => .ok (attach o { b with stack := rest } (.block top.loc top.opening t.params
          top.children.reverse))
  | .other =>
    if b.stack.isEmpty then .error (.unexpectedToken t.value t.loc)
    else .error (.unexpectedTokenInBlock t.value t.loc)

/-- Takes tokens up to the first that cannot stand where it is. -/
def run (o : BuildOptions) : Builder → List Token → Except SyntaxError Builder
  | b, [] => .ok b
  | b, t :: rest =>
    match b.step o t rest.head? with
    | .ok b => run o b rest
    | .error e => .error e

/-- Ends open blocks, innermost first. -/
def unwind (o : BuildOptions) : List OpenBlock → List Node → List Node
  | [], done => done
  | [top], done => top.close none :: done
  | top :: parent :: rest, done =>
    let n := top.close none
    let loc := match o.endOffset with
      | .lastText => parent.loc
      | .lastChild => { parent.loc with stop := max parent.loc.stop n.loc.stop }
    unwind o ({ parent with loc, children := n :: parent.children } :: rest) done
termination_by stack => stack.length

def finish (o : BuildOptions) (b : Builder) : List Node := (unwind o b.stack b.done).reverse

end Builder

def buildNodes (o : BuildOptions) (tokens : List Token) : Except SyntaxError (List Node) :=
  match Builder.empty.run o tokens with
  | .ok b => .ok (b.finish o)
  | .error e => .error e

end BlockMarkup
