/-!
# Positions in YAML text

A cursor is the rest of a text together with the place in it. The column counts from the last line
break.
-/

namespace BlockMarkup.Yaml

/-- The characters that may stand in a text. -/
def isAllowed (c : Char) : Bool :=
  let n := c.toNat
  n = 9 || n = 10 || n = 13 || (0x20 ≤ n && n ≤ 0x7E) || n = 0x85 ||
    (0xA0 ≤ n && n ≤ 0xFFFD) || 0x10000 ≤ n

def isBlank (c : Char) : Bool := c = ' ' || c = '\t'

def isBreak (c : Char) : Bool :=
  c = '\n' || c = '\r' || c.toNat = 0x85 || c.toNat = 0x2028 || c.toNat = 0x2029

def isGap : Option Char → Bool
  | some c => isBlank c || isBreak c
  | none => true

def isLineEnd : Option Char → Bool
  | some c => isBreak c
  | none => true

/-- The characters of anchors, directives and handles. -/
def isNameChar (c : Char) : Bool := c.isAlphanum || c = '_' || c = '-'

structure Cursor where
  rest : List Char
  index : Nat
  line : Nat
  column : Nat

namespace Cursor

def ofList (cs : List Char) : Cursor := ⟨cs, 0, 0, 0⟩

def peek (c : Cursor) (n : Nat) : Option Char := c.rest[n]?

def head? (c : Cursor) : Option Char := c.rest.head?

/-- Passes over a character that is no line break. -/
def skip (c : Cursor) : Cursor :=
  ⟨c.rest.tail, c.index + 1, c.line, c.column + 1⟩

def skipMany : Nat → Cursor → Cursor
  | 0, c => c
  | n + 1, c => skipMany n c.skip

/-- Passes over a line break. A carriage return and a line feed are one. -/
def skipLine (c : Cursor) : Cursor :=
  match c.rest with
  | '\r' :: '\n' :: rest => ⟨rest, c.index + 2, c.line + 1, 0⟩
  | _ :: rest => ⟨rest, c.index + 1, c.line + 1, 0⟩
  | [] => c

/-- What a line break means in a text. -/
def lineBreak (c : Char) : Char := if c.toNat = 0x2028 || c.toNat = 0x2029 then c else '\n'

def takeWhile (p : Char → Bool) (c : Cursor) : List Char × Cursor :=
  let taken := c.rest.takeWhile p
  (taken, ⟨c.rest.drop taken.length, c.index + taken.length, c.line, c.column + taken.length⟩)

def skipWhile (p : Char → Bool) (c : Cursor) : Cursor := (c.takeWhile p).2

def skipBlanks (c : Cursor) : Cursor := c.skipWhile isBlank

def skipComment (c : Cursor) : Cursor :=
  if c.head? = some '#' then c.skipWhile (!isBreak ·) else c

/-- Whether three equal characters and a gap stand at the start of a line. -/
def atMark (mark : Char) (c : Cursor) : Bool :=
  c.column = 0 && c.peek 0 = some mark && c.peek 1 = some mark && c.peek 2 = some mark &&
    isGap (c.peek 3)

def atDocumentMark (c : Cursor) : Bool := c.atMark '-' || c.atMark '.'

end Cursor

/-- Blanks and line breaks inside a scalar. -/
structure Gap where
  /-- The blanks before the first line break, last one first. -/
  blanks : List Char := []
  broken : Bool := false
  /-- The first line break, if it counts. -/
  first : Option Char := none
  more : List Char := []

namespace Gap

/-- What a gap stands for: a lone line break for a blank, several for all but the first. -/
def text (g : Gap) : List Char :=
  if !g.broken then g.blanks.reverse
  else
    match g.first with
    | some '\n' => if g.more.isEmpty then [' '] else g.more.reverse
    | some c => c :: g.more.reverse
    | none => g.more.reverse

/-- Reads a gap. A tab that stands for indentation below `indent` is refused. -/
def scan (indent : Option Nat) : Nat → Gap → Cursor → Option (Gap × Cursor)
  | 0, g, c => some (g, c)
  | fuel + 1, g, c =>
    match c.head? with
    | none => some (g, c)
    | some ch =>
      if isBlank ch then
        if g.broken && ch = '\t' && indent.any (c.column < ·) then none
        else if g.broken then scan indent fuel g c.skip
        else scan indent fuel { g with blanks := ch :: g.blanks } c.skip
      else if isBreak ch then
        let b := Cursor.lineBreak ch
        if g.broken then scan indent fuel { g with more := b :: g.more } c.skipLine
        else scan indent fuel { g with blanks := [], broken := true, first := some b } c.skipLine
      else some (g, c)

end Gap

end BlockMarkup.Yaml
