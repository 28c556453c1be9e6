import BlockMarkup.Yaml.Cursor

/-!
# Scalars

The three ways to write a scalar: in quotes, plain, and as a block of lines. Each function starts at
the first character of the scalar and gives its text and what follows it.
-/

namespace BlockMarkup.Yaml.Scalar

/-! ### Quotes -/

def hexDigit? (c : Char) : Option Nat :=
  if '0' ≤ c && c ≤ '9' then some (c.toNat - 48)
  else if 'a' ≤ c && c ≤ 'f' then some (c.toNat - 87)
  else if 'A' ≤ c && c ≤ 'F' then some (c.toNat - 55)
  else none

/-- The character whose number follows in `n` hexadecimal digits. -/
def numbered (n : Nat) (c : Cursor) : Option (Char × Cursor) :=
  let digits := c.rest.take n
  if digits.length < n then none
  else
    let value := digits.foldl (fun v d => v.bind fun v => (hexDigit? d).map (v * 16 + ·)) (some 0)
    value.bind fun v =>
      if v.isValidChar then some (Char.ofNat v, c.skipMany n) else none

def escape? (c : Cursor) : Option (Char × Cursor) :=
  let next := c.skip
  match c.head? with
  | some '0' => some ('\x00', next)
  | some 'a' => some ('\x07', next)
  | some 'b' => some ('\x08', next)
  | some 't' => some ('\t', next)
  | some '\t' => some ('\t', next)
  | some 'n' => some ('\n', next)
  | some 'v' => some ('\x0b', next)
  | some 'f' => some ('\x0c', next)
  | some 'r' => some ('\r', next)
  | some 'e' => some ('\x1b', next)
  | some ' ' => some (' ', next)
  | some '"' => some ('"', next)
  | some '/' => some ('/', next)
  | some '\\' => some ('\\', next)
  | some 'N' => some (Char.ofNat 0x85, next)
  | some '_' => some (Char.ofNat 0xA0, next)
  | some 'L' => some (Char.ofNat 0x2028, next)
  | some 'P' => some (Char.ofNat 0x2029, next)
  | some 'x' => numbered 2 next
  | some 'u' => numbered 4 next
  | some 'U' => numbered 8 next
  | _ => none

def quotedFrom (single : Bool) : Nat → List Char → Cursor → Option (List Char × Cursor)
  | 0, _, _ => none
  | fuel + 1, done, c =>
    if c.atDocumentMark then none
    else
      match c.head? with
      | none => none
      | some ch =>
        if isBlank ch || isBreak ch then
          (Gap.scan none c.rest.length {} c).bind fun (gap, c) =>
            quotedFrom single fuel (gap.text.reverse ++ done) c
        else if single && ch = '\'' && c.peek 1 = some '\'' then
          quotedFrom single fuel ('\'' :: done) c.skip.skip
        else if ch = (if single then '\'' else '"') then some (done.reverse, c.skip)
        else if !single && ch = '\\' then
          let next := c.skip
          if next.head?.any isBreak then
            let next := next.skipLine
            (Gap.scan none next.rest.length { broken := true } next).bind fun (gap, c) =>
              quotedFrom single fuel (gap.text.reverse ++ done) c
          else
            (escape? next).bind fun (ch, c) => quotedFrom single fuel (ch :: done) c
        else quotedFrom single fuel (ch :: done) c.skip

def quoted (single : Bool) (c : Cursor) : Option (List Char × Cursor) :=
  quotedFrom single (c.rest.length + 1) [] c.skip

/-! ### Plain scalars -/

def isFlowIndicator (c : Char) : Bool :=
  c = ',' || c = '[' || c = ']' || c = '{' || c = '}'

/-- The rest of a plain scalar. `gap` is what has been passed over since the last character in
`done`; it counts only if something follows. The flag tells whether a line break was passed. -/
def plainFrom (inFlow : Bool) (indent : Nat) :
    Nat → List Char → Gap → Cursor → Option (List Char × Bool × Cursor)
  | 0, done, gap, c => some (done.reverse, gap.broken, c)
  | fuel + 1, done, gap, c =>
    let stop := some (done.reverse, gap.broken, c)
    match c.head? with
    | none => stop
    | some ch =>
      if isBlank ch || isBreak ch then
        (Gap.scan (some indent) c.rest.length gap c).bind fun (gap, c) =>
          if !inFlow && c.column < indent then some (done.reverse, gap.broken, c)
          else if c.atDocumentMark || c.head? = some '#' then some (done.reverse, gap.broken, c)
          else
            match c.head? with
            | none => some (done.reverse, gap.broken, c)
            | some _ => plainFrom inFlow indent fuel done gap c
      else if inFlow && ch = ':' &&
          (c.peek 1).any fun next => isFlowIndicator next || next = '?' then none
      else if ch = ':' && isGap (c.peek 1) || inFlow && isFlowIndicator ch then stop
      else plainFrom inFlow indent fuel (ch :: (gap.text.reverse ++ done)) {} c.skip

/-- A plain scalar inside a collection that is indented by `indent - 1`. -/
def plain (inFlow : Bool) (indent : Nat) (c : Cursor) : Option (List Char × Bool × Cursor) :=
  plainFrom inFlow indent (2 * c.rest.length + 1) [] {} c

/-! ### Blocks of lines -/

inductive Chomping where
  | clip
  | strip
  | keep
  deriving DecidableEq, Repr

def chomping? : Option Char → Option Chomping
  | some '+' => some .keep
  | some '-' => some .strip
  | _ => none

/-- An indentation from 1 to 9, if a digit follows. Zero is refused. -/
def indentation? (c : Cursor) : Option (Option Nat × Cursor) :=
  match c.head? with
  | some ch =>
    if ch = '0' then none
    else if ch.isDigit then some (some (ch.toNat - 48), c.skip)
    else some (none, c)
  | none => some (none, c)

/-- The chomping and the indentation after the first character of a block, in either order. -/
def header (c : Cursor) : Option (Chomping × Option Nat × Cursor) :=
  match chomping? c.head? with
  | some chomping => (indentation? c.skip).map fun (indent, c) => (chomping, indent, c)
  | none =>
    (indentation? c).map fun (indent, c) =>
      match indent, chomping? c.head? with
      | some indent, some chomping => (chomping, some indent, c.skip)
      | indent, _ => (.clip, indent, c)

/-- Passes over empty lines and indentation. Gives the line breaks, last one first, and the widest
indentation; without a given indentation all spaces count. A tab for indentation is refused. -/
def emptyLines (indent : Option Nat) :
    Nat → List Char → Nat → Cursor → Option (List Char × Nat × Cursor)
  | 0, breaks, widest, c => some (breaks, widest, c)
  | fuel + 1, breaks, widest, c =>
    let inside := indent.all (c.column < ·)
    match c.head? with
    | some ' ' =>
      if inside then emptyLines indent fuel breaks widest c.skip
      else some (breaks, max widest c.column, c)
    | some '\t' => if inside then none else some (breaks, max widest c.column, c)
    | some ch =>
      let widest := max widest c.column
      if isBreak ch then
        emptyLines indent fuel (Cursor.lineBreak ch :: breaks) widest c.skipLine
      else some (breaks, widest, c)
    | none => some (breaks, max widest c.column, c)

/-- The lines of a block. `done` holds what has been read, last character first; `lead` is the
break after the last line, `breaks` those of the empty lines after it, last one first. -/
def blockLines (literal : Bool) (chomping : Chomping) (indent : Nat) :
    Nat → List Char → Option Char → List Char → Bool → Cursor → Option (List Char × Cursor)
  | 0, _, _, _, _, _ => none
  | fuel + 1, done, lead, breaks, afterBlank, c =>
    match c.head? with
    | some ch =>
      if c.column = indent then
        let startsBlank := isBlank ch
        let fold := !literal && lead = some '\n' && !afterBlank && !startsBlank
        let joint :=
          if fold then if breaks.isEmpty then [' '] else []
          else lead.toList
        let (line, c) := c.takeWhile (!isBreak ·)
        let done := line.reverse ++ breaks ++ joint ++ done
        let (lead, c) := match c.head? with
          | some b => (some (Cursor.lineBreak b), c.skipLine)
          | none => (none, c)
        (emptyLines (some indent) (c.rest.length + 1) [] 0 c).bind fun (breaks, _, c) =>
          blockLines literal chomping indent fuel done lead breaks startsBlank c
      else finish done lead breaks c
    | none => finish done lead breaks c
where
  /-- Keeps no break, the last one, or all breaks at the end. -/
  finish (done : List Char) (lead : Option Char) (breaks : List Char) (c : Cursor) :
      Option (List Char × Cursor) :=
    let done := match chomping with
      | .strip => done
      | .clip => lead.toList ++ done
      | .keep => breaks ++ lead.toList ++ done
    some (done.reverse, c)

/-- A block of lines inside a collection that is indented by `parent - 1`. -/
def block (literal : Bool) (parent : Nat) (c : Cursor) : Option (List Char × Cursor) :=
  (header c.skip).bind fun (chomping, given, c) =>
    let c := c.skipBlanks.skipComment
    if !isLineEnd c.head? then none
    else
      let c := c.skipLine
      let given := given.map (parent - 1 + ·)
      (emptyLines given (c.rest.length + 1) [] 0 c).bind fun (breaks, widest, c) =>
        let indent := given.getD (max (max widest parent) 1)
        blockLines literal chomping indent (c.rest.length + 1) [] none breaks false c

end BlockMarkup.Yaml.Scalar
