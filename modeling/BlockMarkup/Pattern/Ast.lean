import BlockMarkup.Unicode.Query

/-!
# Patterns as written

The tree of a written pattern, before flags take effect. Its height is what the nesting limit
counts.
-/

namespace BlockMarkup.Pattern

inductive Flag where
  | caseInsensitive
  | multiLine
  | dotMatchesNewline
  | swapGreed
  | unicode
  | crlf
  | ignoreSpace
  deriving DecidableEq, Repr

def Flag.ofLetter? : Char → Option Flag
  | 'i' => some .caseInsensitive
  | 'm' => some .multiLine
  | 's' => some .dotMatchesNewline
  | 'U' => some .swapGreed
  | 'u' => some .unicode
  | 'R' => some .crlf
  | 'x' => some .ignoreSpace
  | _ => none

abbrev FlagSetting := Flag × Bool

/-- A single character. `byteEscape` tells that it was written as `\x` and two digits, which
stands for a byte when Unicode is off. -/
structure Literal where
  char : Char
  byteEscape : Bool := false
  deriving DecidableEq, Repr

inductive WordEdge where
  | any
  | none
  | start
  | finish
  | startHalf
  | finishHalf
  deriving DecidableEq, Repr

inductive Anchor where
  | caret
  | dollar
  | textStart
  | textEnd
  | word (edge : WordEdge)
  deriving DecidableEq, Repr

inductive PerlClass where
  | digit
  | space
  | word
  deriving DecidableEq, Repr

/-- The classes that are written `[:name:]`. -/
inductive AsciiClass where
  | alnum
  | alpha
  | ascii
  | blank
  | cntrl
  | digit
  | graph
  | lower
  | print
  | punct
  | space
  | upper
  | word
  | xdigit
  deriving DecidableEq, Repr

def AsciiClass.ofName? : List Char → Option AsciiClass
  | ['a', 'l', 'n', 'u', 'm'] => some .alnum
  | ['a', 'l', 'p', 'h', 'a'] => some .alpha
  | ['a', 's', 'c', 'i', 'i'] => some .ascii
  | ['b', 'l', 'a', 'n', 'k'] => some .blank
  | ['c', 'n', 't', 'r', 'l'] => some .cntrl
  | ['d', 'i', 'g', 'i', 't'] => some .digit
  | ['g', 'r', 'a', 'p', 'h'] => some .graph
  | ['l', 'o', 'w', 'e', 'r'] => some .lower
  | ['p', 'r', 'i', 'n', 't'] => some .print
  | ['p', 'u', 'n', 'c', 't'] => some .punct
  | ['s', 'p', 'a', 'c', 'e'] => some .space
  | ['u', 'p', 'p', 'e', 'r'] => some .upper
  | ['w', 'o', 'r', 'd'] => some .word
  | ['x', 'd', 'i', 'g', 'i', 't'] => some .xdigit
  | _ => none

inductive SetOperator where
  | inter
  | diff
  | symmDiff
  deriving DecidableEq, Repr

/-- What stands between the brackets of a class. -/
inductive ClassSet where
  | empty
  | literal (c : Literal)
  | range (first last : Literal)
  | ascii (kind : AsciiClass) (negated : Bool)
  | perl (kind : PerlClass) (negated : Bool)
  | property (query : Unicode.Query) (negated : Bool)
  | bracketed (negated : Bool) (set : ClassSet)
  | union (items : List ClassSet)
  | operation (operator : SetOperator) (left right : ClassSet)

inductive GroupKind where
  | capturing (index : Nat)
  | plain (settings : List FlagSetting)

inductive Ast where
  | empty
  | settings (items : List FlagSetting)
  | literal (c : Literal)
  | dot
  | anchor (a : Anchor)
  | perl (kind : PerlClass) (negated : Bool)
  | property (query : Unicode.Query) (negated : Bool)
  | bracketed (negated : Bool) (set : ClassSet)
  | repetition (least : Nat) (most : Option Nat) (greedy : Bool) (body : Ast)
  | group (kind : GroupKind) (body : Ast)
  | alternation (branches : List Ast)
  | concat (items : List Ast)

/-! ### Nesting -/

mutual

/-- How deep sets are nested. A set that is no bracket, union or operation counts nothing. -/
def ClassSet.height : ClassSet → Nat
  | .bracketed _ set => set.height + 1
  | .union items => ClassSet.heights items + 1
  | .operation _ left right => max left.height right.height + 1
  | _ => 0

def ClassSet.heights : List ClassSet → Nat
  | [] => 0
  | item :: rest => max item.height (ClassSet.heights rest)

end

mutual

/-- How deep the pattern is nested. Bracketed classes, repetitions, groups, alternations and
concatenations count one each. -/
def Ast.height : Ast → Nat
  | .bracketed _ set => set.height + 1
  | .repetition _ _ _ body => body.height + 1
  | .group _ body => body.height + 1
  | .alternation branches => Ast.heights branches + 1
  | .concat items => Ast.heights items + 1
  | _ => 0

def Ast.heights : List Ast → Nat
  | [] => 0
  | item :: rest => max item.height (Ast.heights rest)

end

def nestingLimit : Nat := 250

/-! ### Escaping -/

/-- The characters that a backslash turns into themselves in every place. -/
def isMeta (c : Char) : Bool :=
  match c with
  | '\\' | '.' | '+' | '*' | '?' | '(' | ')' | '|' | '[' | ']' | '{' | '}' | '^' | '$' | '#'
  | '&' | '-' | '~' => true
  | _ => false

/-- The pattern source that stands for `text` and nothing else. -/
def escape : List Char → List Char
  | [] => []
  | c :: rest => if isMeta c then '\\' :: c :: escape rest else c :: escape rest

end BlockMarkup.Pattern
