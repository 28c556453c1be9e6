import BlockMarkup.Json.Value
import BlockMarkup.Keyed

/-!
# Reading JSON

`read?` accepts a single value between blanks. Lone surrogates, numbers out of the range of a
double, and more than `nestingLimit` nested arrays and objects are refused.
-/

namespace BlockMarkup.Json

def nestingLimit : Nat := 127

namespace Reader

def isBlank (c : Char) : Bool := c = ' ' || c = '\n' || c = '\t' || c = '\r'

def skipBlanks (cs : List Char) : List Char := cs.dropWhile isBlank

/-! ### Strings -/

def hexDigit? (c : Char) : Option Nat :=
  if '0' ≤ c && c ≤ '9' then some (c.toNat - 48)
  else if 'a' ≤ c && c ≤ 'f' then some (c.toNat - 87)
  else if 'A' ≤ c && c ≤ 'F' then some (c.toNat - 55)
  else none

def unit? (a b c d : Char) : Option Nat :=
  match hexDigit? a, hexDigit? b, hexDigit? c, hexDigit? d with
  | some a, some b, some c, some d => some (((a * 16 + b) * 16 + c) * 16 + d)
  | _, _, _, _ => none

def simpleEscape? : Char → Option Char
  | '"' => some '"'
  | '\\' => some '\\'
  | '/' => some '/'
  | 'b' => some '\x08'
  | 'f' => some '\x0c'
  | 'n' => some '\n'
  | 'r' => some '\r'
  | 't' => some '\t'
  | _ => none

def isHighSurrogate (n : Nat) : Bool := 0xD800 ≤ n && n < 0xDC00

def isLowSurrogate (n : Nat) : Bool := 0xDC00 ≤ n && n < 0xE000

/-- The characters of a string after its opening quote, put in front of `done` in reverse, and
what follows the closing quote. -/
def characters (done : List Char) : List Char → Option (List Char × List Char)
  | [] => none
  | '"' :: rest => some (done.reverse, rest)
  | '\\' :: 'u' :: a :: b :: c :: d :: rest =>
    match unit? a b c d with
    | none => none
    | some n =>
      if isHighSurrogate n then
        match rest with
        | '\\' :: 'u' :: a :: b :: c :: d :: rest =>
          match unit? a b c d with
          | none => none
          | some m =>
            if isLowSurrogate m then
              characters (Char.ofNat ((n - 0xD800) * 1024 + (m - 0xDC00) + 0x10000) :: done) rest
            else none
        | _ => none
      else if isLowSurrogate n then none
      else characters (Char.ofNat n :: done) rest
  | '\\' :: c :: rest =>
    match simpleEscape? c with
    | some c => characters (c :: done) rest
    | none => none
  | c :: rest => if c.toNat < 32 || c = '\\' then none else characters (c :: done) rest

/-! ### Numbers -/

def digitsValue (digits : List Char) : Nat :=
  digits.foldl (fun n d => n * 10 + (d.toNat - 48)) 0

/-- Whether `mantissa * 10 ^ exponent` rounds to infinity as a double. -/
def isHuge (mantissa : Nat) (exponent : Int) : Bool :=
  let bound := Nat.pow 2 1024 - Nat.pow 2 970
  let magnitude := (Nat.toDigits 10 mantissa).length + exponent
  if mantissa = 0 || magnitude < 308 then false
  else if magnitude > 310 then true
  else if exponent < 0 then mantissa ≥ bound * Nat.pow 10 exponent.natAbs
  else mantissa * Nat.pow 10 exponent.natAbs ≥ bound

/-- An integer if it fits 64 bits. Minus zero is no integer. -/
def integer (negative : Bool) (digits : List Char) : Option Value :=
  let n := digitsValue digits
  let text := String.ofList ((if negative then ['-'] else []) ++ digits)
  if negative then
    if n = 0 || n > Nat.pow 2 63 then if isHuge n 0 then none else some (.real text)
    else some (.int (-n))
  else if n < Nat.pow 2 64 then some (.int n)
  else if isHuge n 0 then none
  else some (.real text)

def exponent? (cs : List Char) : Option (Int × List Char) :=
  let (negative, cs) := match cs with
    | '-' :: rest => (true, rest)
    | '+' :: rest => (false, rest)
    | cs => (false, cs)
  let digits := cs.takeWhile Char.isDigit
  if digits.isEmpty then none
  else
    let n : Int := digitsValue digits
    some (if negative then -n else n, cs.dropWhile Char.isDigit)

/-- The fraction and the exponent of a number with the integer part `whole`. -/
def fraction? (negative : Bool) (whole : List Char) (cs : List Char) :
    Option (Value × List Char) :=
  let afterPoint := match cs with
    | '.' :: rest =>
      let digits := rest.takeWhile Char.isDigit
      if digits.isEmpty then none else some (digits, rest.dropWhile Char.isDigit)
    | cs => some ([], cs)
  afterPoint.bind fun (places, rest) =>
    let afterExponent := match rest with
      | 'e' :: rest | 'E' :: rest => exponent? rest
      | rest => some (0, rest)
    afterExponent.bind fun (exponent, rest) =>
      if isHuge (digitsValue (whole ++ places)) (exponent - places.length) then none
      else
        let sign := if negative then ['-'] else []
        let text := sign ++ whole ++ '.' :: places ++ 'e' :: (toString exponent).toList
        some (.real (String.ofList text), rest)

/-- A number without its sign. A zero is followed by no digit. -/
def number? (negative : Bool) (cs : List Char) : Option (Value × List Char) :=
  let whole := cs.takeWhile Char.isDigit
  let rest := cs.dropWhile Char.isDigit
  match whole with
  | [] => none
  | '0' :: _ :: _ => none
  | whole =>
    match rest with
    | '.' :: _ | 'e' :: _ | 'E' :: _ => fraction? negative whole rest
    | rest => (integer negative whole).map (·, rest)

/-! ### Values -/

mutual

/-- A value and what follows it. `depth` is how many arrays and objects may be entered. -/
def value : Nat → Nat → List Char → Option (Value × List Char)
  | 0, _, _ => none
  | fuel + 1, depth, cs =>
    match skipBlanks cs with
    | 'n' :: 'u' :: 'l' :: 'l' :: rest => some (.null, rest)
    | 't' :: 'r' :: 'u' :: 'e' :: rest => some (.bool true, rest)
    | 'f' :: 'a' :: 'l' :: 's' :: 'e' :: rest => some (.bool false, rest)
    | '"' :: rest => (characters [] rest).map fun (s, rest) => (.string (String.ofList s), rest)
    | '-' :: rest => number? true rest
    | '[' :: rest =>
      match depth with
      | 0 => none
      | depth + 1 =>
        match skipBlanks rest with
        | ']' :: rest => some (.array [], rest)
        | rest => elements fuel depth [] rest
    | '\x7b' :: rest =>
      match depth with
      | 0 => none
      | depth + 1 =>
        match skipBlanks rest with
        | '\x7d' :: rest => some (.object [], rest)
        | rest => members fuel depth [] rest
    | cs => number? false cs

/-- The elements of an array from the next one on, after those in `done`, last one first. -/
def elements : Nat → Nat → List Value → List Char → Option (Value × List Char)
  | 0, _, _, _ => none
  | fuel + 1, depth, done, cs =>
    match value fuel depth cs with
    | none => none
    | some (v, rest) =>
      match skipBlanks rest with
      | ',' :: rest => elements fuel depth (v :: done) rest
      | ']' :: rest => some (.array (v :: done).reverse, rest)
      | _ => none

def members : Nat → Nat → List (String × Value) → List Char → Option (Value × List Char)
  | 0, _, _, _ => none
  | fuel + 1, depth, done, cs =>
    match skipBlanks cs with
    | '"' :: rest =>
      match characters [] rest with
      | none => none
      | some (key, rest) =>
        match skipBlanks rest with
        | ':' :: rest =>
          match value fuel depth rest with
          | none => none
          | some (v, rest) =>
            let done := (String.ofList key, v) :: done
            match skipBlanks rest with
            | ',' :: rest => members fuel depth done rest
            | '\x7d' :: rest => some (.object (Keyed.ofList done.reverse), rest)
            | _ => none
        | _ => none
    | _ => none

end

end Reader

def read? (text : String) : Option Value :=
  let cs := text.toList
  match Reader.value (cs.length + 1) nestingLimit cs with
  | some (v, rest) => if (Reader.skipBlanks rest).isEmpty then some v else none
  | none => none

end BlockMarkup.Json
