import BlockMarkup.Yaml.Scalar

/-!
# YAML tokens

`tokens?` cuts a text into tokens. Indentation becomes tokens that start and end collections. A key
without an indicator is noticed only at its colon; its token is then put where the key started.
-/

namespace BlockMarkup.Yaml

inductive Token where
  | version (major minor : Nat)
  | tagDirective (handle tagStart : List Char)
  | documentStart
  | documentEnd
  | blockSequence
  | blockMapping
  | blockEnd
  | flowSequence
  | flowSequenceEnd
  | flowMapping
  | flowMappingEnd
  | blockEntry
  | flowEntry
  | key
  | value
  | alias (name : List Char)
  | anchor (name : List Char)
  | tag (handle suffix : List Char)
  | scalar (text : List Char) (plain : Bool)
  deriving DecidableEq, Repr

namespace Token

/-! ### Directives and node properties -/

def versionNumber (c : Cursor) : Option (Nat × Cursor) :=
  let (digits, c) := c.takeWhile Char.isDigit
  if digits.isEmpty || digits.length > 9 then none
  else some (digits.foldl (fun n d => n * 10 + (d.toNat - 48)) 0, c)

/-- A handle of tags: an exclamation mark, and perhaps a name and another one. In a directive the
second mark is required after a name. -/
def handle (directive : Bool) (c : Cursor) : Option (List Char × Cursor) :=
  if c.head? != some '!' then none
  else
    let (name, c) := c.skip.takeWhile isNameChar
    if c.head? = some '!' then some ('!' :: name ++ ['!'], c.skip)
    else if directive && !name.isEmpty then none
    else some ('!' :: name, c)

def isUriChar (c : Char) : Bool :=
  isNameChar c || [';', '/', '?', ':', '@', '&', '=', '+', '$', '.', '!', '~', '*', '\'', '(',
    ')', '%'].contains c

def percentByte (c : Cursor) : Option (UInt8 × Cursor) :=
  match c.rest with
  | '%' :: a :: b :: _ =>
    match Scalar.hexDigit? a, Scalar.hexDigit? b with
    | some a, some b => some (UInt8.ofNat (a * 16 + b), c.skipMany 3)
    | _, _ => none
  | _ => none

def encodedWidth (b : UInt8) : Option Nat :=
  if b < 0x80 then some 1
  else if b &&& 0xE0 = 0xC0 then some 2
  else if b &&& 0xF0 = 0xE0 then some 3
  else if b &&& 0xF8 = 0xF0 then some 4
  else none

def percentBytes : Nat → Cursor → Option (List UInt8 × Cursor)
  | 0, c => some ([], c)
  | n + 1, c => (percentByte c).bind fun (b, c) =>
    (percentBytes n c).map fun (bytes, c) => (b :: bytes, c)

/-- A character whose bytes are written with percent signs. -/
def percentChar (c : Cursor) : Option (List Char × Cursor) :=
  (percentByte c).bind fun (first, _) => (encodedWidth first).bind fun width =>
    (percentBytes width c).bind fun (bytes, c) =>
      (String.fromUTF8? ⟨bytes.toArray⟩).map fun s => (s.toList, c)

/-- The characters of a tag. Brackets and commas count only in its full form. -/
def uri (full : Bool) : Nat → Cursor → Option (List Char × Cursor)
  | 0, c => some ([], c)
  | fuel + 1, c =>
    match c.head? with
    | some '%' => (percentChar c).bind fun (cs, c) =>
      (uri full fuel c).map fun (rest, c) => (cs ++ rest, c)
    | some ch =>
      if isUriChar ch || full && (ch = ',' || ch = '[' || ch = ']') then
        (uri full fuel c.skip).map fun (rest, c) => (ch :: rest, c)
      else some ([], c)
    | none => some ([], c)

def uri? (full : Bool) (c : Cursor) : Option (List Char × Cursor) := uri full c.rest.length c

/-- A tag must be followed by a gap; in a flow collection a comma will do. -/
def endOfTag (inFlow : Bool) (c : Cursor) : Bool :=
  isGap c.head? || inFlow && c.head? = some ','

def scanTag (inFlow : Bool) (c : Cursor) : Option (Token × Cursor) :=
  let finish := fun (t : Token) (c : Cursor) => if endOfTag inFlow c then some (t, c) else none
  if c.peek 1 = some '<' then
    (uri? true c.skip.skip).bind fun (suffix, c) =>
      if suffix.isEmpty || c.head? != some '>' then none else finish (.tag [] suffix) c.skip
  else
    (handle false c).bind fun (start, c) =>
      (uri? false c).bind fun (rest, c) =>
        if start.length > 1 && start.getLast? = some '!' then
          if rest.isEmpty then none else finish (.tag start rest) c
        else
          let suffix := start.drop 1 ++ rest
          finish (if suffix.isEmpty then .tag [] ['!'] else .tag ['!'] suffix) c

def anchorName (c : Cursor) : Option (List Char × Cursor) :=
  let (name, c) := c.skip.takeWhile isNameChar
  let ends := isGap c.head? || c.head?.any (['?', ':', ',', ']', '}', '%', '@', '`'].contains ·)
  if name.isEmpty || !ends then none else some (name, c)

def endOfLine (c : Cursor) : Option Cursor :=
  let c := c.skipBlanks.skipComment
  if isLineEnd c.head? then some c.skipLine else none

def scanDirective (c : Cursor) : Option (Token × Cursor) :=
  let (name, c) := c.skip.takeWhile isNameChar
  if !isGap c.head? then none
  else
    let c := c.skipBlanks
    if name = ['Y', 'A', 'M', 'L'] then
      (versionNumber c).bind fun (major, c) =>
        if c.head? != some '.' then none
        else (versionNumber c.skip).bind fun (minor, c) =>
          (endOfLine c).map fun c => (.version major minor, c)
    else if name = ['T', 'A', 'G'] then
      (handle true c).bind fun (start, c) =>
        if !c.head?.any isBlank then none
        else (uri? true c.skipBlanks).bind fun (tagStart, c) =>
          if tagStart.isEmpty || !isGap c.head? then none
          else (endOfLine c).map fun c => (.tagDirective start tagStart, c)
    else none

end Token

/-! ### The scanner -/

/-- A place where a key without an indicator may have started. -/
structure SimpleKey where
  required : Bool
  position : Nat
  index : Nat
  line : Nat
  column : Nat

structure Scanner where
  cursor : Cursor
  tokens : Array Token := #[]
  /-- The indentation of the innermost block collection, plus one. -/
  indent : Nat := 0
  outer : List Nat := []
  /-- The candidates for keys, one for each open flow collection and one for the block around. -/
  keys : List (Option SimpleKey) := [none]
  keyAllowed : Bool := true

namespace Scanner

def inFlow (s : Scanner) : Bool := s.keys.length > 1

def column (s : Scanner) : Nat := s.cursor.column

def emit (s : Scanner) (t : Token) : Scanner := { s with tokens := s.tokens.push t }

def indicator (s : Scanner) (t : Token) : Scanner :=
  { s.emit t with cursor := s.cursor.skip }

/-! ### Keys -/

/-- A key is on one line and has at most 1024 characters. -/
def isStale (s : Scanner) (k : SimpleKey) : Bool :=
  k.line < s.cursor.line || k.index + 1024 < s.cursor.index

/-- Gives up candidates that cannot be keys any more. A required one must not be given up. -/
def dropStale (s : Scanner) : Option Scanner :=
  let stale := fun (k : Option SimpleKey) => k.any s.isStale
  if s.keys.any fun k => stale k && k.any (·.required) then none
  else some { s with keys := s.keys.map fun k => if stale k then none else k }

def forgetKey (s : Scanner) : Option Scanner :=
  match s.keys with
  | some k :: rest => if k.required then none else some { s with keys := none :: rest }
  | _ => some s

/-- Makes the current place the innermost candidate, if a key may start here. -/
def saveKey (s : Scanner) : Option Scanner :=
  if !s.keyAllowed then some s
  else
    s.forgetKey.map fun s =>
      let c := s.cursor
      let key : SimpleKey :=
        { required := !s.inFlow && s.indent = c.column + 1
          position := s.tokens.size
          index := c.index
          line := c.line
          column := c.column }
      { s with keys := some key :: s.keys.tail }

/-! ### Indentation -/

/-- Starts a block collection if the column lies deeper than the one around it. Its token is put at
`position`. -/
def indentTo (s : Scanner) (column position : Nat) (t : Token) : Scanner :=
  if s.inFlow || column + 1 ≤ s.indent then s
  else
    { s with
      indent := column + 1
      outer := s.indent :: s.outer
      tokens := s.tokens.insertIdxIfInBounds position t }

/-- Ends the block collections that lie deeper than `limit`, one less than which is a column. -/
def dedent (limit : Nat) : List Nat → Nat → Array Token → Nat × List Nat × Array Token
  | [], indent, tokens => (indent, [], tokens)
  | parent :: outer, indent, tokens =>
    if indent > limit then dedent limit outer parent (tokens.push .blockEnd)
    else (indent, parent :: outer, tokens)

def dedentTo (s : Scanner) (limit : Nat) : Scanner :=
  if s.inFlow then s
  else
    let (indent, outer, tokens) := dedent limit s.outer s.indent s.tokens
    { s with indent, outer, tokens }

/-! ### Steps -/

/-- Passes over blanks, comments and line breaks. Tabs are no indentation where a key may start. -/
def skipGaps : Nat → Scanner → Scanner
  | 0, s => s
  | fuel + 1, s =>
    let c := s.cursor
    let c := if c.column = 0 && c.head?.any (·.toNat = 0xFEFF) then c.skip else c
    let c := c.skipWhile fun ch => ch = ' ' || ((s.inFlow || !s.keyAllowed) && ch = '\t')
    let c := c.skipComment
    if c.head?.any isBreak then
      skipGaps fuel { s with cursor := c.skipLine, keyAllowed := s.keyAllowed || !s.inFlow }
    else { s with cursor := c }

def closeBlocks (s : Scanner) : Option Scanner :=
  (s.dedentTo 0).forgetKey.map fun s => { s with keyAllowed := false }

def documentMark (s : Scanner) (t : Token) : Option Scanner :=
  s.closeBlocks.map fun s => { s.emit t with cursor := s.cursor.skipMany 3 }

def openFlow (s : Scanner) (t : Token) : Option Scanner :=
  s.saveKey.map fun s => { s.indicator t with keys := none :: s.keys, keyAllowed := true }

def closeFlow (s : Scanner) (t : Token) : Option Scanner :=
  s.forgetKey.map fun s =>
    { s.indicator t with keys := if s.inFlow then s.keys.tail else s.keys, keyAllowed := false }

/-- Block collections may start only where keys may. -/
def enterBlock (s : Scanner) (t : Token) : Option Scanner :=
  if s.inFlow then some s
  else if !s.keyAllowed then none
  else some (s.indentTo s.column s.tokens.size t)

def blockEntry (s : Scanner) : Option Scanner :=
  (s.enterBlock .blockSequence).bind fun s => s.forgetKey.map fun s =>
    { s.indicator .blockEntry with keyAllowed := true }

def explicitKey (s : Scanner) : Option Scanner :=
  (s.enterBlock .blockMapping).bind fun s => s.forgetKey.map fun s =>
    { s.indicator .key with keyAllowed := !s.inFlow }

/-- A colon. The candidate for a key, if there is one, is a key indeed. -/
def colon (s : Scanner) : Option Scanner :=
  match s.keys with
  | some k :: rest =>
    let s := { s with keys := none :: rest, tokens := s.tokens.insertIdxIfInBounds k.position .key }
    let s := s.indentTo k.column k.position .blockMapping
    some { s.indicator .value with keyAllowed := false }
  | _ =>
    (s.enterBlock .blockMapping).map fun s =>
      { s.indicator .value with keyAllowed := !s.inFlow }

/-- A token that may be a key or part of one. -/
def content (s : Scanner) (scan : Scanner → Option (Token × Cursor)) : Option Scanner :=
  s.saveKey.bind fun s => (scan s).map fun (t, cursor) =>
    { s.emit t with cursor, keyAllowed := false }

def plain (s : Scanner) : Option Scanner :=
  s.saveKey.bind fun s => (Scalar.plain s.inFlow s.indent s.cursor).map
    fun (text, broken, cursor) => { s.emit (.scalar text true) with cursor, keyAllowed := broken }

def block (s : Scanner) (literal : Bool) : Option Scanner :=
  s.forgetKey.bind fun s => (Scalar.block literal s.indent s.cursor).map
    fun (text, cursor) => { s.emit (.scalar text false) with cursor, keyAllowed := true }

/-- Characters that start no plain scalar, unless the next character makes them part of one. -/
def isIndicator (c : Char) : Bool :=
  ['-', '?', ':', ',', '[', ']', '{', '}', '#', '&', '*', '!', '|', '>', '\'', '"', '%', '@',
    '`'].contains c

def next (s : Scanner) (ch : Char) : Option Scanner :=
  let c := s.cursor
  let gap := isGap (c.peek 1)
  let inFlow := s.inFlow
  if c.column = 0 && ch = '%' then
    s.closeBlocks.bind fun s => (Token.scanDirective c).map fun (t, cursor) =>
      { s.emit t with cursor }
  else if c.atMark '-' then s.documentMark .documentStart
  else if c.atMark '.' then s.documentMark .documentEnd
  else if ch = '[' then s.openFlow .flowSequence
  else if ch = '{' then s.openFlow .flowMapping
  else if ch = ']' then s.closeFlow .flowSequenceEnd
  else if ch = '}' then s.closeFlow .flowMappingEnd
  else if ch = ',' then
    s.forgetKey.map fun s => { s.indicator .flowEntry with keyAllowed := true }
  else if ch = '-' && gap then s.blockEntry
  else if ch = '?' && (inFlow || gap) then s.explicitKey
  else if ch = ':' && (inFlow || gap) then s.colon
  else if ch = '*' then
    s.content fun s => (Token.anchorName s.cursor).map fun (n, c) => (.alias n, c)
  else if ch = '&' then
    s.content fun s => (Token.anchorName s.cursor).map fun (n, c) => (.anchor n, c)
  else if ch = '!' then s.content fun s => Token.scanTag s.inFlow s.cursor
  else if ch = '|' && !inFlow then s.block true
  else if ch = '>' && !inFlow then s.block false
  else if ch = '\'' then
    s.content fun s => (Scalar.quoted true s.cursor).map fun (t, c) => (.scalar t false, c)
  else if ch = '"' then
    s.content fun s => (Scalar.quoted false s.cursor).map fun (t, c) => (.scalar t false, c)
  else if !(isBlank ch || isIndicator ch) || ch = '-' && !(c.peek 1).any isBlank ||
      !inFlow && (ch = '?' || ch = ':') && !gap then s.plain
  else none

/-- Goes on to the end. Every round consumes a character. -/
def run : Nat → Scanner → Option (Array Token)
  | 0, _ => none
  | fuel + 1, s =>
    let s := skipGaps (s.cursor.rest.length + 1) s
    s.dropStale.bind fun s =>
      match s.cursor.head? with
      | none => (s.dedentTo 0).forgetKey.map (·.tokens)
      | some ch => ((s.dedentTo (s.column + 1)).next ch).bind fun s => run fuel s

end Scanner

def tokens? (text : List Char) : Option (List Token) :=
  if text.all isAllowed then
    let text := match text with
      | c :: rest => if c.toNat = 0xFEFF then rest else c :: rest
      | [] => []
    (Scanner.run (text.length + 1) { cursor := .ofList text }).map Array.toList
  else none

end BlockMarkup.Yaml
