import BlockMarkup.Text.Quoted
import BlockMarkup.Tree.Node

/-!
# Outlines

One line for the document and one for each node, with guides that show what belongs to what. A
leaf shows its value with escapes, a block the first param of its opening token as it is.
-/

namespace BlockMarkup.Outline

def labelLimit : Nat := 30

/-- The first characters of a long label, with dots after them. -/
def cut (label : List Char) : List Char :=
  if label.length > labelLimit then label.take labelLimit ++ ['.', '.', '.'] else label

def icon : Node → Char
  | .block _ _ _ _ => '▣'
  | .leaf token =>
    match token.role with
    | .text => '◦'
    | .marker => '•'
    | _ => '○'

def label : Node → List Char
  | .leaf token => Text.escapedChars token.value.toList
  | .block _ (some (some name :: _)) _ _ => "block ".toList ++ name.toList
  | .block _ _ _ _ => "block".toList

/-- The location at the end of a line, if locations are shown. -/
def suffix (showLoc : Bool) (loc : Location) : List Char :=
  if showLoc then " @".toList ++ loc.display.toList else []

def branch (isLast : Bool) : List Char := if isLast then ['└', '─'] else ['├', '─']

def guide (isLast : Bool) : List Char := if isLast then [' ', ' '] else ['│', ' ']

def line (showLoc : Bool) (indent : List Char) (isLast : Bool) (n : Node) : List Char :=
  indent ++ branch isLast ++ [' ', icon n, ' '] ++ cut (label n) ++ suffix showLoc n.loc ++ ['\n']

mutual

/-- The lines of a node and of what it holds, in front of what follows. -/
def node (showLoc : Bool) (indent : List Char) (isLast : Bool) : Node → List Char → List Char
  | .leaf token, after => line showLoc indent isLast (.leaf token) ++ after
  | .block loc opening closing children, after =>
    line showLoc indent isLast (.block loc opening closing children) ++
      nodes showLoc (indent ++ guide isLast) children after

def nodes (showLoc : Bool) (indent : List Char) : List Node → List Char → List Char
  | [], after => after
  | n :: rest, after =>
    node showLoc indent rest.isEmpty n (nodes showLoc indent rest after)

end

def render (showLoc : Bool) (d : Document) : String :=
  String.ofList ("⧉ document".toList ++ suffix showLoc d.loc ++ '\n' ::
    nodes showLoc [] d.children [])

/-- Whether locations are asked for: by the parameter `show-loc`, unless it says `false`. -/
def showsLoc (params : List (String × String)) : Bool :=
  match params.lookup "show-loc" with
  | some value => value != "false"
  | none => false

/-- The outline that parameters ask for. -/
def renderWith (params : List (String × String)) (d : Document) : String :=
  render (showsLoc params) d

end BlockMarkup.Outline
