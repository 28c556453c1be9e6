import BlockMarkup.Pattern.Ast

/-!
# Reading patterns

`read?` reads a written pattern, or tells that it is malformed. It works on an explicit stack of
open groups, one element of the pattern at a time, so `Reading.step` says everything about it.
In verbose mode (flag `x`) blanks and comments between elements mean nothing.
-/

namespace BlockMarkup.Pattern.Reader

/-! ### Blanks -/

/-- Drops blanks and comments. A comment runs from `#` to the end of its line. -/
def dropBlanks (inComment : Bool) : List Char → List Char
  | [] => []
  | c :: rest =>
    if inComment then dropBlanks (c != '\n') rest
    else if Unicode.isSpace c then dropBlanks false rest
    else if c = '#' then dropBlanks true rest
    else c :: rest

/-- Where reading goes on: verbose mode passes over blanks and comments. -/
def settle (verbose : Bool) (cs : List Char) : List Char :=
  if verbose then dropBlanks false cs else cs

/-- The characters up to a closing brace, and what follows the brace. -/
def braced (verbose inComment : Bool) : List Char → Option (List Char × List Char)
  | [] => none
  | c :: rest =>
    if inComment then braced verbose (c != '\n') rest
    else if c = '}' then some ([], rest)
    else if verbose && Unicode.isSpace c then braced verbose false rest
    else if verbose && c = '#' then braced verbose true rest
    else (braced verbose false rest).map fun (name, after) => (c :: name, after)

/-! ### Numbers -/

def hexDigit? (c : Char) : Option Nat :=
  if '0' ≤ c && c ≤ '9' then some (c.toNat - 48)
  else if 'a' ≤ c && c ≤ 'f' then some (c.toNat - 87)
  else if 'A' ≤ c && c ≤ 'F' then some (c.toNat - 55)
  else none

def hexNumber? : List Char → Option Nat :=
  List.foldl (fun n c => n.bind fun n => (hexDigit? c).map (n * 16 + ·)) (some 0)

def hexDigits (verbose : Bool) : Nat → List Char → Option (List Char × List Char)
  | 0, cs => some ([], cs)
  | _ + 1, [] => none
  | n + 1, c :: rest =>
    if (hexDigit? c).isSome then
      (hexDigits verbose n (settle verbose rest)).map fun (digits, after) => (c :: digits, after)
    else none

def charOfCode? (n : Nat) : Option Char :=
  if n.isValidChar then some (Char.ofNat n) else none

def decimalDigits (verbose : Bool) : Nat → List Char → List Char × List Char
  | 0, cs => ([], cs)
  | fuel + 1, cs =>
    match cs with
    | c :: rest =>
      if c.isDigit then
        let (more, after) := decimalDigits verbose fuel (settle verbose rest)
        (c :: more, after)
      else ([], cs)
    | [] => ([], [])

/-- A decimal number between optional blanks. None if there is no digit or if the number does not
fit 32 bits. -/
def decimal? (verbose : Bool) (cs : List Char) : Option Nat × List Char :=
  let start := cs.dropWhile Unicode.isSpace
  let (digits, after) := decimalDigits verbose start.length start
  let n := digits.foldl (fun n d => n * 10 + (d.toNat - 48)) 0
  let after := (settle verbose after).dropWhile Unicode.isSpace
  (if digits.isEmpty || n ≥ Nat.pow 2 32 then none else some n, settle verbose after)

/-! ### Escapes -/

inductive Escaped where
  | literal (c : Literal)
  | anchor (a : Anchor)
  | perl (kind : PerlClass) (negated : Bool)
  | property (query : Unicode.Query) (negated : Bool)

/-- ASCII characters other than letters, digits and angle brackets stand for themselves. -/
def isEscapable (c : Char) : Bool :=
  isMeta c || (c.toNat < 128 && !c.isAlphanum && c != '<' && c != '>')

/-- The hexadecimal number of `\x`, `\u` or `\U`, in braces or of a fixed length. -/
def hexEscape (verbose : Bool) (length : Nat) (cs : List Char) : Option (Escaped × List Char) :=
  match settle verbose cs with
  | [] => none
  | '{' :: rest =>
    match braced verbose false rest with
    | some (digits, after) =>
      if digits.isEmpty then none
      else (hexNumber? digits).bind fun n => (charOfCode? n).map fun c =>
        (.literal { char := c }, settle verbose after)
    | none => none
  | cs =>
    (hexDigits verbose length cs).bind fun (digits, after) => (hexNumber? digits).bind fun n =>
      (charOfCode? n).map fun c => (.literal { char := c, byteEscape := length = 2 }, after)

/-- Splits a list at the first occurrence of a test on what is left. -/
def splitAtFirst (test : List Char → Bool) : List Char → Option (List Char × List Char)
  | [] => none
  | c :: rest =>
    if test (c :: rest) then some ([], c :: rest)
    else (splitAtFirst test rest).map fun (before, after) => (c :: before, after)

/-- A property and a value with a sign between them. -/
def valuedBy? (sign name : List Char) : Option Unicode.Query :=
  (splitAtFirst (sign.isPrefixOf ·) name).map fun (property, value) =>
    .valued (String.ofList property) (String.ofList (value.drop sign.length))

/-- What the braces of `\p{…}` and `\P{…}` ask for. The sign makes no difference, not even `!=`: the
class is negated by the letter `P` alone. -/
def queryOf (name : List Char) : Unicode.Query :=
  (valuedBy? ['!', '='] name <|> valuedBy? [':'] name <|> valuedBy? ['='] name).getD
    (.named (String.ofList name))

def propertyEscape (verbose negated : Bool) (cs : List Char) : Option (Escaped × List Char) :=
  match settle verbose cs with
  | [] => none
  | '{' :: rest => (braced verbose false rest).map fun (name, after) =>
    (.property (queryOf name) negated, after)
  | '\\' :: _ => none
  | c :: rest => some (.property (.named (toString c)) negated, settle verbose rest)

def isEdgeLetter (c : Char) : Bool := c.isAlpha || c = '-'

def edgeName (verbose : Bool) : Nat → List Char → List Char × List Char
  | 0, cs => ([], cs)
  | fuel + 1, cs =>
    match cs with
    | c :: rest =>
      if isEdgeLetter c then
        let (more, after) := edgeName verbose fuel (settle verbose rest)
        (c :: more, after)
      else ([], cs)
    | [] => ([], [])

/-- What `\b` stands for: a boundary, or the edge named in braces. Braces that do not start with a
letter or a hyphen are left for a repetition count. -/
def boundaryEscape (verbose : Bool) (cs : List Char) : Option (Escaped × List Char) :=
  match cs with
  | '{' :: rest =>
    match settle verbose rest with
    | [] => none
    | first :: _ =>
      if !isEdgeLetter first then some (.anchor (.word .any), cs)
      else
        let inner := settle verbose rest
        let (name, after) := edgeName verbose inner.length inner
        match after with
        | '}' :: after =>
          match String.ofList name with
          | "start" => some (.anchor (.word .start), after)
          | "end" => some (.anchor (.word .finish), after)
          | "start-half" => some (.anchor (.word .startHalf), after)
          | "end-half" => some (.anchor (.word .finishHalf), after)
          | _ => none
        | _ => none
  | _ => some (.anchor (.word .any), cs)

def escaped (verbose : Bool) : List Char → Option (Escaped × List Char)
  | [] => none
  | c :: rest =>
    let one := fun (e : Escaped) => some (e, rest)
    match c with
    | 'x' => hexEscape verbose 2 rest
    | 'u' => hexEscape verbose 4 rest
    | 'U' => hexEscape verbose 8 rest
    | 'p' => propertyEscape verbose false rest
    | 'P' => propertyEscape verbose true rest
    | 'd' => one (.perl .digit false)
    | 'D' => one (.perl .digit true)
    | 's' => one (.perl .space false)
    | 'S' => one (.perl .space true)
    | 'w' => one (.perl .word false)
    | 'W' => one (.perl .word true)
    | 'a' => one (.literal { char := '\x07' })
    | 'f' => one (.literal { char := '\x0c' })
    | 't' => one (.literal { char := '\t' })
    | 'n' => one (.literal { char := '\n' })
    | 'r' => one (.literal { char := '\r' })
    | 'v' => one (.literal { char := '\x0b' })
    | 'A' => one (.anchor .textStart)
    | 'z' => one (.anchor .textEnd)
    | 'b' => boundaryEscape verbose rest
    | 'B' => one (.anchor (.word .none))
    | '<' => one (.anchor (.word .start))
    | '>' => one (.anchor (.word .finish))
    | c => if isEscapable c then one (.literal { char := c }) else none

/-! ### Bracketed classes -/

/-- A class that is being read, kept while something inside it is read: either the items before a
nested class, or the left side of an operator. -/
inductive OpenSet where
  | bracket (negated : Bool) (before : List ClassSet)
  | operator (op : SetOperator) (left : ClassSet)

def unionOf : List ClassSet → ClassSet
  | [] => .empty
  | [item] => item
  | items => .union items.reverse

def finishOperator (right : ClassSet) : List OpenSet → ClassSet × List OpenSet
  | .operator op left :: outer => (.operation op left right, outer)
  | stack => (right, stack)

/-- `name:]`, up to the bracket that closes a named class. -/
def namedClass? (negated : Bool) (cs : List Char) : Option (ClassSet × List Char) :=
  match cs.dropWhile (· != ':') with
  | ':' :: ']' :: after =>
    (AsciiClass.ofName? (cs.takeWhile (· != ':'))).map fun kind => (.ascii kind negated, after)
  | _ => none

/-- `:name:]` or `:^name:]`, after an opening bracket. -/
def asciiClass? : List Char → Option (ClassSet × List Char)
  | ':' :: '^' :: cs => namedClass? true cs
  | ':' :: cs => namedClass? false cs
  | _ => none

def leadingHyphens (verbose : Bool) : Nat → List Char → List ClassSet × List Char
  | 0, cs => ([], cs)
  | fuel + 1, cs =>
    match cs with
    | '-' :: rest =>
      let (items, after) := leadingHyphens verbose fuel (settle verbose rest)
      (.literal { char := '-' } :: items, after)
    | cs => ([], cs)

/-- A caret right after an opening bracket, which negates the class. -/
def leadingCaret (verbose : Bool) : List Char → Bool × List Char
  | '^' :: rest => (true, settle verbose rest)
  | cs => (false, cs)

/-- The items that come first in a class: hyphens, or else a closing bracket that stands for
itself. -/
def firstItems (verbose : Bool) (cs : List Char) : List ClassSet × List Char :=
  match leadingHyphens verbose cs.length cs with
  | ([], ']' :: rest) => ([.literal { char := ']' }], settle verbose rest)
  | hyphens => hyphens

def openBracket (verbose : Bool) (cs : List Char) : Bool × List ClassSet × List Char :=
  let (negated, cs) := leadingCaret verbose (settle verbose cs)
  (negated, firstItems verbose cs)

def setItem (verbose : Bool) : List Char → Option (Escaped × List Char)
  | [] => none
  | '\\' :: rest => escaped verbose rest
  | c :: rest => some (.literal { char := c }, rest)

def setOfEscaped? : Escaped → Option ClassSet
  | .literal c => some (.literal c)
  | .perl kind negated => some (.perl kind negated)
  | .property query negated => some (.property query negated)
  | .anchor _ => none

/-- The class of a range. Its ends are characters in ascending order. -/
def rangeOf? : Escaped → Escaped → Option ClassSet
  | .literal a, .literal b => if a.char ≤ b.char then some (.range a b) else none
  | _, _ => none

/-- One item or a range of characters. A hyphen before a bracket or another hyphen starts no
range. -/
def setRange (verbose : Bool) (cs : List Char) : Option (ClassSet × List Char) :=
  (setItem verbose cs).bind fun (first, cs) =>
    match settle verbose cs with
    | [] => none
    | '-' :: rest =>
      let after := settle verbose rest
      if after.head? = some ']' || after.head? = some '-' then
        (setOfEscaped? first).map (·, '-' :: rest)
      else
        (setItem verbose after).bind fun (last, cs) => (rangeOf? first last).map (·, cs)
    | cs => (setOfEscaped? first).map (·, cs)

/-- Reads classes until the outermost closes. `items` holds the innermost union, last one
first. -/
def setLoop (verbose : Bool) :
    Nat → List OpenSet → List ClassSet → List Char → Option (Bool × ClassSet × List Char)
  | 0, _, _, _ => none
  | fuel + 1, stack, items, cs =>
    let operator := fun op rest =>
      let (left, stack) := finishOperator (unionOf items) stack
      setLoop verbose fuel (.operator op left :: stack) [] rest
    match settle verbose cs with
    | [] => none
    | '[' :: rest =>
      match asciiClass? rest with
      | some (item, rest) => setLoop verbose fuel stack (item :: items) rest
      | none =>
        let (negated, first, rest) := openBracket verbose rest
        setLoop verbose fuel (.bracket negated items :: stack) first.reverse rest
    | ']' :: rest =>
      match finishOperator (unionOf items) stack with
      | (set, [.bracket negated _]) => some (negated, set, rest)
      | (set, .bracket negated before :: outer) =>
        setLoop verbose fuel outer (.bracketed negated set :: before) rest
      | _ => none
    | '&' :: '&' :: rest => operator .inter rest
    | '-' :: '-' :: rest => operator .diff rest
    | '~' :: '~' :: rest => operator .symmDiff rest
    | cs => (setRange verbose cs).bind fun (item, rest) =>
      setLoop verbose fuel stack (item :: items) rest

def bracketClass (verbose : Bool) (cs : List Char) : Option (Ast × List Char) :=
  let (negated, first, rest) := openBracket verbose cs
  (setLoop verbose (cs.length + 1) [.bracket negated []] first.reverse rest).map
    fun (negated, set, after) => (.bracketed negated set, after)

/-! ### Groups -/

structure OpenGroup where
  kind : GroupKind
  /-- Finished branches around the group, last one first. -/
  branches : List Ast
  items : List Ast
  verbose : Bool

structure Reading where
  outer : List OpenGroup := []
  branches : List Ast := []
  items : List Ast := []
  verbose : Bool := false
  captures : Nat := 0
  names : List (List Char) := []

def concatOf : List Ast → Ast
  | [] => .empty
  | [item] => item
  | items => .concat items.reverse

/-- The branches of the innermost group, with the one that is being read as the last. -/
def branchesOf (branches items : List Ast) : Ast :=
  match branches with
  | [] => concatOf items
  | branches => .alternation (concatOf items :: branches).reverse

/-- The letters of an inline flag group up to its end. A flag and the sign come at most once, and
the sign is not the last. -/
def settings (negated : Bool) (seen : List FlagSetting) (lastIsSign : Bool) :
    List Char → Option (List FlagSetting × List Char)
  | [] => none
  | c :: rest =>
    if c = ':' || c = ')' then if lastIsSign then none else some (seen.reverse, c :: rest)
    else if c = '-' then if negated then none else settings true seen true rest
    else
      match Flag.ofLetter? c with
      | some flag =>
        if seen.any (·.1 = flag) then none
        else settings negated ((flag, !negated) :: seen) false rest
      | none => none

def isNameStart (c : Char) : Bool :=
  c = '_' || if c.toNat < 128 then c.isAlpha else Unicode.alphabeticChars.contains c

def isNameChar (c : Char) : Bool :=
  isNameStart c || c = '.' || c = '[' || c = ']' ||
    if c.toNat < 128 then c.isDigit else Unicode.numericChars.contains c

def groupName (cs : List Char) : Option (List Char × List Char) :=
  let name := cs.takeWhile (· != '>')
  match name, cs.dropWhile (· != '>') with
  | c :: more, '>' :: rest =>
    if isNameStart c && more.all isNameChar then some (name, rest) else none
  | _, _ => none

def verboseAfter (items : List FlagSetting) (verbose : Bool) : Bool :=
  match items.find? (·.1 = .ignoreSpace) with
  | some (_, value) => value
  | none => verbose

namespace Reading

def openGroup (r : Reading) (kind : GroupKind) (verbose : Bool) : Reading :=
  { r with
    outer := ⟨kind, r.branches, r.items, r.verbose⟩ :: r.outer
    branches := []
    items := []
    verbose := verbose }

def openCapture (r : Reading) : Reading :=
  { r.openGroup (.capturing (r.captures + 1)) r.verbose with captures := r.captures + 1 }

def closeGroup? (r : Reading) : Option Reading :=
  match r.outer with
  | [] => none
  | g :: outer =>
    some { r with
      outer := outer
      branches := g.branches
      items := .group g.kind (branchesOf r.branches r.items) :: g.items
      verbose := g.verbose }

def push (r : Reading) (item : Ast) : Reading := { r with items := item :: r.items }

def openNamed? (r : Reading) (cs : List Char) : Option (Reading × List Char) :=
  (groupName cs).bind fun (name, rest) =>
    if r.names.contains name then none
    else some ({ r.openCapture with names := name :: r.names }, rest)

/-- Reads what follows an opening parenthesis. Look-around is refused. -/
def paren? (r : Reading) (cs : List Char) : Option (Reading × List Char) :=
  match settle r.verbose cs with
  | '?' :: '=' :: _ | '?' :: '!' :: _ | '?' :: '<' :: '=' :: _ | '?' :: '<' :: '!' :: _ => none
  | '?' :: 'P' :: '<' :: rest => r.openNamed? rest
  | '?' :: '<' :: rest => r.openNamed? rest
  | '?' :: rest =>
    match settings false [] false rest with
    | some (items, ')' :: after) =>
      if items.isEmpty then none
      else some ({ r.push (.settings items) with verbose := verboseAfter items r.verbose }, after)
    | some (items, _ :: after) =>
      some (r.openGroup (.plain items) (verboseAfter items r.verbose), after)
    | _ => none
  | cs => some (r.openCapture, cs)

/-- Replaces the last item by its repetition. Nothing, and a group of flags, cannot be
repeated. -/
def repeat? (r : Reading) (least : Nat) (most : Option Nat) (greedy : Bool) : Option Reading :=
  match r.items with
  | [] | .empty :: _ | .settings _ :: _ => none
  | body :: items => some { r with items := .repetition least most greedy body :: items }

/-- A repetition operator of one character. A question mark right after it prefers fewer. -/
def operator? (r : Reading) (least : Nat) (most : Option Nat) (cs : List Char) :
    Option (Reading × List Char) :=
  match cs with
  | '?' :: rest => (r.repeat? least most false).map (·, rest)
  | cs => (r.repeat? least most true).map (·, cs)

/-- The end of a counted repetition, with its bounds in order. -/
def closeCount? (r : Reading) (least : Nat) (most : Option Nat) (cs : List Char) :
    Option (Reading × List Char) :=
  match cs with
  | '}' :: rest =>
    if most.all (least ≤ ·) then r.operator? least most (settle r.verbose rest) else none
  | _ => none

def counted? (r : Reading) (cs : List Char) : Option (Reading × List Char) :=
  match decimal? r.verbose (settle r.verbose cs) with
  | (some least, ',' :: rest) =>
    match settle r.verbose rest with
    | '}' :: rest => r.closeCount? least none ('}' :: rest)
    | rest =>
      match decimal? r.verbose rest with
      | (some most, rest) => r.closeCount? least (some most) rest
      | (none, _) => none
  | (some n, rest) => r.closeCount? n (some n) rest
  | (none, _) => none

def step (r : Reading) (c : Char) (rest : List Char) : Option (Reading × List Char) :=
  match c with
  | '(' => r.paren? rest
  | ')' => r.closeGroup?.map (·, rest)
  | '|' => some ({ r with branches := concatOf r.items :: r.branches, items := [] }, rest)
  | '[' => (bracketClass r.verbose rest).map fun (cls, rest) => (r.push cls, rest)
  | '?' => r.operator? 0 (some 1) rest
  | '*' => r.operator? 0 none rest
  | '+' => r.operator? 1 none rest
  | '{' => r.counted? rest
  | '\\' => (escaped r.verbose rest).map fun (item, rest) =>
    (r.push (match item with
      | .literal c => .literal c
      | .anchor a => .anchor a
      | .perl kind negated => .perl kind negated
      | .property query negated => .property query negated), rest)
  | '.' => some (r.push .dot, rest)
  | '^' => some (r.push (.anchor .caret), rest)
  | '$' => some (r.push (.anchor .dollar), rest)
  | c => some (r.push (.literal { char := c }), rest)

def finish? (r : Reading) : Option Ast :=
  if r.outer.isEmpty then some (branchesOf r.branches r.items) else none

/-- Reads to the end. Every step consumes a character, so the length is fuel enough. -/
def run : Nat → Reading → List Char → Option Ast
  | 0, r, cs => if (settle r.verbose cs).isEmpty then r.finish? else none
  | fuel + 1, r, cs =>
    match settle r.verbose cs with
    | [] => r.finish?
    | c :: rest => (r.step c rest).bind fun (r, rest) => run fuel r rest

end Reading

end Reader

/-- The tree of a written pattern, none if it is malformed or nested too deeply. -/
def read? (source : List Char) : Option Ast :=
  (Reader.Reading.run source.length {} source).filter (·.height ≤ nestingLimit)

end BlockMarkup.Pattern
