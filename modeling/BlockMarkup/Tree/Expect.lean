import BlockMarkup.Tree.Node

/-!
# Expectations

An expectation says what a document, or a node of it, should look like. What fails is explained
with the path to the node.
-/

namespace BlockMarkup

/-- What is expected at the end of a path. -/
inductive Expectation where
  | childCount (n : Nat)
  | loc (start stop : Nat)
  | text (value : String)
  | marker (value : String)
  | leaf (type value : String)
  | block
  | openParams (params : List String)
  | closeParams (params : List String)
  | noOpenParams
  | noCloseParams
  deriving DecidableEq, Repr

namespace Expectation

/-- What failed: nothing, or an explanation. -/
abbrev Outcome := Except String Unit

def require (ok : Bool) (message : String) : Outcome := if ok then .ok () else .error message

/-! ### Texts -/

def showParam : Option String → String
  | some s => "Some(" ++ Text.quoted s ++ ")"
  | none => "None"

/-- Params of a block as explanations show them. -/
def showParams : Option Params → String
  | some params => "Some([" ++ String.intercalate ", " (params.map showParam) ++ "])"
  | none => "None"

def summarize (children : List Node) : String :=
  String.intercalate ", " (children.map Node.type)

/-! ### Checks -/

def checkCount (context : String) (children : List Node) (n : Nat) : Outcome :=
  require (children.length = n)
    (context ++ ": Expected " ++ toString n ++ " children, found " ++ toString children.length ++
      ": [" ++ summarize children ++ "]")

def checkLeaf (context type value : String) : Node → Outcome
  | .block _ _ _ _ => .error (context ++ ": Expected " ++ type ++ " leaf, found block")
  | .leaf t =>
    if t.type != type then
      .error (context ++ ": Expected leaf of type '" ++ type ++ "', found '" ++ t.type ++ "'")
    else
      require (t.value = value)
        (context ++ ": Expected value " ++ Text.quoted value ++ ", but got " ++
          Text.quoted t.value)

/-- A block is checked only if there is one. -/
def onBlock (context : String) (n : Node)
    (check : Location → Option Params → Option Params → List Node → Except String α) :
    Except String α :=
  match n with
  | .block span opening closing children => check span opening closing children
  | .leaf t =>
    .error (context ++ ": Expected block, found " ++ t.type ++ " " ++ Text.quoted t.value)

def checkParams (context which : String) (actual : Option Params) (expected : List String) :
    Outcome :=
  require (actual = some (expected.map some)) (context ++ ": Unexpected " ++ which ++ " params")

def checkNoParams (context which : String) (actual : Option Params) : Outcome :=
  require actual.isNone
    (context ++ ": Expected no " ++ which ++ " params, found " ++ showParams actual)

/-- Checks a node. -/
def atNode (context : String) (n : Node) : Expectation → Outcome
  | text value => checkLeaf context "text" value n
  | marker value => checkLeaf context "marker" value n
  | leaf type value => checkLeaf context type value n
  | block => onBlock context n fun _ _ _ _ => .ok ()
  | childCount count => onBlock context n fun _ _ _ children => checkCount context children count
  | loc start stop => onBlock context n fun actual _ _ _ =>
    require (actual = ⟨start, stop⟩)
      (context ++ ": Expected block location " ++ (Location.mk start stop).display ++
        ", found " ++ actual.display)
  | openParams params => onBlock context n fun _ opening _ _ =>
    checkParams context "open" opening params
  | closeParams params => onBlock context n fun _ _ closing _ =>
    checkParams context "close" closing params
  | noOpenParams => onBlock context n fun _ opening _ _ => checkNoParams context "open" opening
  | noCloseParams => onBlock context n fun _ _ closing _ => checkNoParams context "close" closing

/-- Checks the document itself. What is said about blocks and leaves does not apply to it. -/
def atDocument (d : Document) : Expectation → Option Outcome
  | childCount count => some (checkCount "document" d.children count)
  | loc start stop => some (require (d.loc = ⟨start, stop⟩)
      ("document: Expected location " ++ (Location.mk start stop).display))
  | text value => some (require (d.text = value)
      ("document: Expected text '" ++ value ++ "', but got '" ++ d.text ++ "'"))
  | _ => none

/-! ### Paths -/

/-- A child by its index. -/
def childAt (context : String) (children : List Node) (index : Nat) : Except String Node :=
  match children[index]? with
  | some n => .ok n
  | none =>
    .error (context ++ ": Child index " ++ toString index ++ " out of bounds (" ++
      toString children.length ++ " children)")

/-- Follows a path down from a node. -/
def descend (context : String) (n : Node) : List Nat → Except String (String × Node)
  | [] => .ok (context, n)
  | index :: rest =>
    match onBlock context n fun _ _ _ children => childAt context children index with
    | .error e => .error e
    | .ok child => descend (context ++ ".children[" ++ toString index ++ "]") child rest

/-- Checks what is at the end of a path of child indexes. None if the expectation does not apply
there. -/
def check (e : Expectation) (d : Document) : List Nat → Option Outcome
  | [] => e.atDocument d
  | index :: rest => some do
    let child ← childAt "document" d.children index
    let (context, n) ← descend ("children[" ++ toString index ++ "]") child rest
    e.atNode context n

end Expectation

end BlockMarkup
