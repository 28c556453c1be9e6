import BlockMarkup.Toml.Value

/-!
# Reading TOML

`read?` reads a document, or tells that it is malformed. Lines end with a line feed, perhaps after
a carriage return.
-/

namespace BlockMarkup.Toml.Reader

abbrev Result (α : Type) := Option (α × List Char)

/-! ### Blanks and lines -/

def isBlank (c : Char) : Bool := c = ' ' || c = '\t'

def skipBlanks (cs : List Char) : List Char := cs.dropWhile isBlank

/-- Characters other than controls. A tab is allowed. -/
def isPlain (c : Char) : Bool := c = '\t' || (32 ≤ c.toNat && c.toNat != 127)

def lineBreak? : List Char → Option (List Char)
  | '\n' :: rest => some rest
  | '\r' :: '\n' :: rest => some rest
  | _ => none

def skipComment (cs : List Char) : List Char :=
  match cs with
  | '#' :: rest => rest.dropWhile isPlain
  | cs => cs

/-- Blanks and a comment, then the end of a line or of the text. -/
def endOfLine (cs : List Char) : Option (List Char) :=
  match skipComment (skipBlanks cs) with
  | [] => some []
  | cs => lineBreak? cs

/-- Blanks, comments and line breaks between the items of an array. -/
def skipGaps : Nat → List Char → List Char
  | 0, cs => cs
  | fuel + 1, cs =>
    let cs := skipBlanks cs
    let after := skipComment cs
    match lineBreak? after with
    | some rest => skipGaps fuel rest
    | none => if after.isEmpty then [] else cs

/-! ### Strings -/

def hexDigit? (c : Char) : Option Nat :=
  if '0' ≤ c && c ≤ '9' then some (c.toNat - 48)
  else if 'a' ≤ c && c ≤ 'f' then some (c.toNat - 87)
  else if 'A' ≤ c && c ≤ 'F' then some (c.toNat - 55)
  else none

def number? (base : Nat) (digits : List Char) : Option Nat :=
  digits.foldl (fun n d => n.bind fun n =>
    ((hexDigit? d).filter (· < base)).map (n * base + ·)) (some 0)

def numbered (n : Nat) (cs : List Char) : Result Char :=
  let digits := cs.take n
  if digits.length < n then none
  else (number? 16 digits).bind fun v =>
    if v.isValidChar then some (Char.ofNat v, cs.drop n) else none

def escape? : List Char → Result Char
  | 'b' :: rest => some ('\x08', rest)
  | 't' :: rest => some ('\t', rest)
  | 'n' :: rest => some ('\n', rest)
  | 'f' :: rest => some ('\x0c', rest)
  | 'r' :: rest => some ('\r', rest)
  | '"' :: rest => some ('"', rest)
  | '\\' :: rest => some ('\\', rest)
  | 'u' :: rest => numbered 4 rest
  | 'U' :: rest => numbered 8 rest
  | _ => none

/-- A string on one line after its opening quote. Only in double quotes are there escapes. -/
def shortString (quote : Char) : Nat → List Char → List Char → Result String
  | 0, _, _ => none
  | fuel + 1, done, cs =>
    match cs with
    | [] => none
    | c :: rest =>
      if c = quote then some (String.ofList done.reverse, rest)
      else if c = '\\' && quote = '"' then
        (escape? rest).bind fun (c, rest) => shortString quote fuel (c :: done) rest
      else if isPlain c then shortString quote fuel (c :: done) rest
      else none

def skipFolded : Nat → List Char → List Char
  | 0, cs => cs
  | fuel + 1, cs =>
    let cs := skipBlanks cs
    match lineBreak? cs with
    | some rest => skipFolded fuel rest
    | none => cs

/-- A string over several lines. It ends with three quotes, of which two more may stand in front.
-/
def longString (quote : Char) : Nat → List Char → List Char → Result String
  | 0, _, _ => none
  | fuel + 1, done, cs =>
    let quotes := (cs.takeWhile (· = quote)).length
    if 3 ≤ quotes then
      if 5 < quotes then none
      else
        let text := List.replicate (quotes - 3) quote ++ done
        some (String.ofList text.reverse, cs.drop quotes)
    else
      match cs with
      | [] => none
      | c :: rest =>
        match lineBreak? cs with
        | some rest => longString quote fuel ('\n' :: done) rest
        | none =>
          if c = '\\' && quote = '"' then
            match lineBreak? (skipBlanks rest) with
            | some rest => longString quote fuel done (skipFolded rest.length rest)
            | none => (escape? rest).bind fun (c, rest) => longString quote fuel (c :: done) rest
          else if isPlain c then longString quote fuel (c :: done) rest
          else none

/-- A string, whichever quotes it has. A line break right after three quotes does not count. -/
def string? (cs : List Char) : Result String :=
  let long := fun (quote : Char) (rest : List Char) =>
    longString quote (rest.length + 1) [] ((lineBreak? rest).getD rest)
  match cs with
  | '"' :: '"' :: '"' :: rest => long '"' rest
  | '\'' :: '\'' :: '\'' :: rest => long '\'' rest
  | '"' :: rest => shortString '"' (rest.length + 1) [] rest
  | '\'' :: rest => shortString '\'' (rest.length + 1) [] rest
  | _ => none

/-! ### Keys -/

def isKeyChar (c : Char) : Bool := c.isAlphanum || c = '_' || c = '-'

def keyPart (cs : List Char) : Result String :=
  match cs with
  | '"' :: rest => shortString '"' (rest.length + 1) [] rest
  | '\'' :: rest => shortString '\'' (rest.length + 1) [] rest
  | cs =>
    let name := cs.takeWhile isKeyChar
    if name.isEmpty then none else some (String.ofList name, cs.dropWhile isKeyChar)

/-- The parts of a key between dots: all but the last one, and the last one. -/
def key : Nat → List String → List Char → Result (List String × String)
  | 0, _, _ => none
  | fuel + 1, done, cs =>
    (keyPart (skipBlanks cs)).bind fun (part, rest) =>
      match skipBlanks rest with
      | '.' :: rest => key fuel (part :: done) rest
      | rest => some ((done.reverse, part), rest)

/-- Keys have fewer parts, and values are nested less deeply. -/
def depthLimit : Nat := 80

def key? (cs : List Char) : Result (List String × String) :=
  (key (cs.length + 1) [] cs).filter fun (k, _) => k.1.length + 1 < depthLimit

/-! ### Numbers -/

/-- Whether underscores stand only between digits, one at a time, after a character `last`. -/
def isGrouped (last : Char) : List Char → Bool
  | [] => last != '_'
  | c :: rest => !(last = '_' && c = '_') && isGrouped c rest

def grouped (isDigit : Char → Bool) (cs : List Char) : Result (List Char) :=
  let taken := cs.takeWhile fun c => isDigit c || c = '_'
  if taken.isEmpty || !isGrouped '_' taken then none
  else some (taken.filter (· != '_'), cs.drop taken.length)

/-- An integer fits 64 bits. -/
def integer (n : Int) (rest : List Char) : Result Value :=
  if -Int.pow 2 63 ≤ n && n < Int.pow 2 63 then some (.integer n, rest) else none

def radix (base : Nat) (cs : List Char) : Result Value :=
  (grouped (fun c => (hexDigit? c).any (· < base)) cs).bind fun (digits, rest) =>
    (number? base digits).bind fun n => integer n rest

def decimalValue (digits : List Char) : Nat :=
  digits.foldl (fun n d => n * 10 + (d.toNat - 48)) 0

def exponent (cs : List Char) : Result Int :=
  match cs with
  | e :: rest =>
    if e = 'e' || e = 'E' then
      let (negative, rest) := match rest with
        | '-' :: rest => (true, rest)
        | '+' :: rest => (false, rest)
        | rest => (false, rest)
      (grouped Char.isDigit rest).map fun (digits, rest) =>
        let n : Int := decimalValue digits
        (if negative then -n else n, rest)
    else some (0, cs)
  | [] => some (0, [])

/-- A decimal integer, or a float if a fraction or an exponent follows. -/
def decimal (negative : Bool) (cs : List Char) : Result Value :=
  (grouped Char.isDigit cs).bind fun (whole, rest) =>
    let padded := match whole with
      | '0' :: _ :: _ => true
      | _ => false
    if padded then none
    else
      let float := fun (places : List Char) (rest : List Char) =>
        (exponent rest).bind fun (e, rest) =>
          let x := Double.ofDecimal negative (decimalValue (whole ++ places)) (e - places.length)
          if x = .infinite false then none else some (Value.float x, rest)
      match rest with
      | '.' :: rest => (grouped Char.isDigit rest).bind fun (places, rest) => float places rest
      | 'e' :: _ | 'E' :: _ => float [] rest
      | rest =>
        let n : Int := decimalValue whole
        integer (if negative then -n else n) rest

def signed (negative : Bool) (cs : List Char) : Result Value :=
  match cs with
  | 'i' :: 'n' :: 'f' :: rest => some (.float (.infinite negative), rest)
  | 'n' :: 'a' :: 'n' :: rest => some (.float .notANumber, rest)
  | cs => decimal negative cs

/-! ### Dates and times -/

def digits (n : Nat) (cs : List Char) : Result Nat :=
  let taken := cs.take n
  if taken.length = n && taken.all Char.isDigit then some (decimalValue taken, cs.drop n) else none

def expect (c : Char) : List Char → Option (List Char)
  | d :: rest => if d = c then some rest else none
  | [] => none

def isLeap (year : Nat) : Bool := year % 4 = 0 && (year % 100 != 0 || year % 400 = 0)

def daysIn (year month : Nat) : Nat :=
  if month = 2 then if isLeap year then 29 else 28
  else if [4, 6, 9, 11].contains month then 30
  else 31

def padded (width n : Nat) : String :=
  let text := toString n
  String.ofList (List.replicate (width - text.length) '0') ++ text

def date (cs : List Char) : Result String :=
  (digits 4 cs).bind fun (year, cs) => (expect '-' cs).bind fun cs =>
    (digits 2 cs).bind fun (month, cs) => (expect '-' cs).bind fun cs =>
      (digits 2 cs).bind fun (day, cs) =>
        if 1 ≤ month && month ≤ 12 && 1 ≤ day && day ≤ daysIn year month then
          some (padded 4 year ++ "-" ++ padded 2 month ++ "-" ++ padded 2 day, cs)
        else none

def fraction (cs : List Char) : Result String :=
  match cs with
  | '.' :: rest =>
    let places := rest.takeWhile Char.isDigit
    if places.isEmpty then none
    else
      let kept := ((places.take 9).reverse.dropWhile (· = '0')).reverse
      let text := if kept.isEmpty then "" else "." ++ String.ofList kept
      some (text, rest.drop places.length)
  | cs => some ("", cs)

def time (cs : List Char) : Result String :=
  (digits 2 cs).bind fun (hour, cs) => (expect ':' cs).bind fun cs =>
    (digits 2 cs).bind fun (minute, cs) => (expect ':' cs).bind fun cs =>
      (digits 2 cs).bind fun (second, cs) =>
        if hour < 24 && minute < 60 && second ≤ 60 then
          (fraction cs).map fun (places, cs) =>
            (padded 2 hour ++ ":" ++ padded 2 minute ++ ":" ++ padded 2 second ++ places, cs)
        else none

def zone (cs : List Char) : Result String :=
  let offset := fun (sign : String) (cs : List Char) =>
    (digits 2 cs).bind fun (hours, cs) => (expect ':' cs).bind fun cs =>
      (digits 2 cs).bind fun (minutes, cs) =>
        if hours < 24 && minutes < 60 then
          some (sign ++ padded 2 hours ++ ":" ++ padded 2 minutes, cs)
        else none
  match cs with
  | 'Z' :: rest | 'z' :: rest => some ("Z", rest)
  | '+' :: rest => offset "+" rest
  | '-' :: rest => offset "-" rest
  | cs => some ("", cs)

def dateTime (cs : List Char) : Result Value :=
  (date cs).bind fun (day, rest) =>
    let withTime := fun (rest : List Char) =>
      (time rest).bind fun (clock, rest) => (zone rest).map fun (offset, rest) =>
        (Value.moment (day ++ "T" ++ clock ++ offset), rest)
    match rest with
    | 'T' :: rest | 't' :: rest => withTime rest
    | ' ' :: rest =>
      if rest.head?.any Char.isDigit then withTime rest else some (.moment day, ' ' :: rest)
    | rest => some (.moment day, rest)

/-- Whether digits are the start of a date, or of a time. -/
def looksLike (n : Nat) (mark : Char) (cs : List Char) : Bool :=
  (cs.take n).length = n && (cs.take n).all Char.isDigit && cs[n]? = some mark

/-! ### Values -/

/-- Makes an inline table of keys with their values. -/
def inlineTable : Entries → List ((List String × String) × Value) → Option Value
  | entries, [] => some (.table .inline entries)
  | entries, ((path, key), v) :: rest =>
    (entries.setDotted path key v).bind fun entries => inlineTable entries rest

mutual

def value : Nat → Nat → List Char → Result Value
  | 0, _, _ => none
  | fuel + 1, depth, cs =>
    match cs with
    | [] => none
    | '[' :: rest =>
      match depth with
      | 0 => none
      | depth + 1 => items fuel depth [] (skipGaps rest.length rest)
    | '{' :: rest =>
      match depth with
      | 0 => none
      | depth + 1 =>
        match skipBlanks rest with
        | '}' :: rest => some (.table .inline [], rest)
        | rest => pairs fuel depth [] rest
    | '"' :: _ | '\'' :: _ => (string? cs).map fun (s, rest) => (.string s, rest)
    | 't' :: 'r' :: 'u' :: 'e' :: rest => some (.bool true, rest)
    | 'f' :: 'a' :: 'l' :: 's' :: 'e' :: rest => some (.bool false, rest)
    | '0' :: 'x' :: rest => radix 16 rest
    | '0' :: 'o' :: rest => radix 8 rest
    | '0' :: 'b' :: rest => radix 2 rest
    | '+' :: rest => signed false rest
    | '-' :: rest => signed true rest
    | cs =>
      if looksLike 4 '-' cs then dateTime cs
      else if looksLike 2 ':' cs then (time cs).map fun (t, rest) => (.moment t, rest)
      else signed false cs

/-- The items of an array from the next one on, after those in `done`, last one first. -/
def items : Nat → Nat → List Value → List Char → Result Value
  | 0, _, _, _ => none
  | fuel + 1, depth, done, cs =>
    match cs with
    | ']' :: rest => some (.array done.reverse, rest)
    | cs =>
      match value fuel depth cs with
      | none => none
      | some (v, rest) =>
        match skipGaps rest.length rest with
        | ',' :: rest => items fuel depth (v :: done) (skipGaps rest.length rest)
        | ']' :: rest => some (.array (v :: done).reverse, rest)
        | _ => none

def pairs : Nat → Nat → List ((List String × String) × Value) → List Char → Result Value
  | 0, _, _, _ => none
  | fuel + 1, depth, done, cs =>
    match key? cs with
    | some (k, '=' :: rest) =>
      match value fuel depth (skipBlanks rest) with
      | none => none
      | some (v, rest) =>
        match skipBlanks rest with
        | ',' :: rest => pairs fuel depth ((k, v) :: done) rest
        | '}' :: rest => (inlineTable [] ((k, v) :: done).reverse).map (·, rest)
        | _ => none
    | _ => none

end

/-! ### Documents -/

def header? (cs : List Char) : Result (Bool × List String × String) :=
  match cs with
  | '[' :: '[' :: rest =>
    match key? rest with
    | some ((path, k), ']' :: ']' :: rest) => some ((true, path, k), rest)
    | _ => none
  | '[' :: rest =>
    match key? rest with
    | some ((path, k), ']' :: rest) => some ((false, path, k), rest)
    | _ => none
  | _ => none

/-- Reads line by line. `current` is the path of the last header. -/
def lines : Nat → List String → Entries → List Char → Option Entries
  | 0, _, _, _ => none
  | fuel + 1, current, root, cs =>
    let cs := skipBlanks cs
    match cs with
    | [] => some root
    | '[' :: _ =>
      (header? cs).bind fun ((several, path, k), rest) => (endOfLine rest).bind fun rest =>
        let opened := Entries.atHeader path (if several then Entries.openTables k
          else Entries.openTable k) root
        opened.bind fun root => lines fuel (path ++ [k]) root rest
    | c :: _ =>
      if c = '#' || (lineBreak? cs).isSome then
        (endOfLine cs).bind fun rest => lines fuel current root rest
      else
        match key? cs with
        | some ((path, k), '=' :: rest) =>
          (value (rest.length + 1) (depthLimit - 1) (skipBlanks rest)).bind fun (v, rest) =>
            (endOfLine rest).bind fun rest =>
              (Entries.atHeader current (Entries.setDotted path k v) root).bind fun root =>
                lines fuel current root rest
        | _ => none

end Reader

def read? (text : String) : Option Entries :=
  let cs := text.toList
  let cs := match cs with
    | c :: rest => if c.toNat = 0xFEFF then rest else cs
    | [] => []
  Reader.lines (cs.length + 2) [] [] cs

end BlockMarkup.Toml
