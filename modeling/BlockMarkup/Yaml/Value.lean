import BlockMarkup.Json.Reader
import BlockMarkup.Yaml.Node

/-!
# Values of YAML nodes

A plain scalar is null, a truth value or a number if it is spelled like one, and a string
otherwise. Keys are strings by their spelling. Tags of the core schema ask for a kind of value;
tags of one's own are refused.
-/

namespace BlockMarkup.Yaml

open Json (Value)

namespace Scalar

/-! ### Plain scalars -/

def isNull (s : List Char) : Bool :=
  ["null", "Null", "NULL", "~"].any (·.toList = s)

def bool? (s : List Char) : Option Bool :=
  if ["true", "True", "TRUE"].any (·.toList = s) then some true
  else if ["false", "False", "FALSE"].any (·.toList = s) then some false
  else none

/-- Digits after a leading zero are no number. -/
def isPadded (s : List Char) : Bool :=
  let body := match s with
    | '-' :: rest | '+' :: rest => rest
    | s => s
  match body with
  | '0' :: rest => !rest.isEmpty && rest.all Char.isDigit
  | _ => false

/-- The number that digits spell in a base, one sign in front of them being allowed. -/
def radix? (base : Nat) (s : List Char) : Option Nat :=
  let digit? := fun (c : Char) => (hexDigit? c).filter (· < base)
  if s.isEmpty then none
  else s.foldl (fun n c => n.bind fun n => (digit? c).map (n * base + ·)) (some 0)

/-- The absolute value of an integer after its sign. -/
def magnitude? (padded : Bool) (s : List Char) : Option Nat :=
  let decimal := if padded then none else radix? 10 s
  match s with
  | '0' :: 'x' :: rest => (radix? 16 rest).or decimal
  | '0' :: 'o' :: rest => (radix? 8 rest).or decimal
  | '0' :: 'b' :: rest => (radix? 2 rest).or decimal
  | _ => decimal

def integer? (s : List Char) : Option Int :=
  match s with
  | '-' :: rest => (magnitude? (isPadded s) rest).map fun n => -(n : Int)
  | '+' :: rest => (magnitude? (isPadded s) rest).map Int.ofNat
  | s => (magnitude? (isPadded s) s).map Int.ofNat

/-- Digits with at most one point among them or at an end, then perhaps an exponent. -/
def isDecimal (s : List Char) : Bool :=
  let whole := s.takeWhile Char.isDigit
  let rest := s.dropWhile Char.isDigit
  let (places, rest) := match rest with
    | '.' :: rest => (rest.takeWhile Char.isDigit, rest.dropWhile Char.isDigit)
    | rest => ([], rest)
  let exponentOk := match rest with
    | [] => true
    | e :: rest =>
      if e = 'e' || e = 'E' then
        let digits := match rest with
          | '-' :: rest | '+' :: rest => rest
          | rest => rest
        !digits.isEmpty && digits.all Char.isDigit
      else false
  !(whole.isEmpty && places.isEmpty) && exponentOk

/-- What a number that is no integer becomes. Infinities and what is no number are null. -/
def real? (s : List Char) : Option Value :=
  let unsigned := match s with
    | '+' :: rest => rest
    | s => s
  if [".inf", ".Inf", ".INF", ".nan", ".NaN", ".NAN"].any (·.toList = unsigned) &&
      !(s.head? = some '+' && unsigned.any (fun c => c = 'a' || c = 'A')) then some .null
  else if ["-.inf", "-.Inf", "-.INF"].any (·.toList = s) then some .null
  else
    let body := match unsigned with
      | '-' :: rest => if s.head? = some '+' then unsigned else rest
      | body => body
    if isDecimal body && !overflows body then some (.real (String.ofList s)) else none
where
  /-- Numbers beyond the range of a double are no numbers. -/
  overflows (body : List Char) : Bool :=
    let mantissa := body.takeWhile fun c => c != 'e' && c != 'E'
    let places := (mantissa.dropWhile (· != '.')).drop 1
    let digits := mantissa.filter Char.isDigit
    let exponent : Int := match Json.Reader.exponent? ((body.drop mantissa.length).drop 1) with
      | some (n, _) => n
      | none => 0
    Json.Reader.isHuge (Json.Reader.digitsValue digits) (exponent - places.length)

/-- An integer of more than 64 bits is refused, up to 128 bits. -/
def ofInteger (n : Int) (text : List Char) : Option Value :=
  if -Int.pow 2 63 ≤ n && n < Int.pow 2 64 then some (.int n)
  else if -Int.pow 2 127 ≤ n && n < Int.pow 2 128 then none
  else some ((real? text).getD (.string (String.ofList text)))

def plainValue (s : List Char) : Option Value :=
  if s.isEmpty || isNull s then some .null
  else
    match bool? s with
    | some b => some (.bool b)
    | none =>
      match integer? s with
      | some n => ofInteger n s
      | none =>
        if isPadded s then some (.string (String.ofList s))
        else some ((real? s).getD (.string (String.ofList s)))

def taggedValue (tag : String) (s : List Char) : Option Value :=
  if tag = "tag:yaml.org,2002:bool" then (bool? s).map .bool
  else if tag = "tag:yaml.org,2002:int" then (integer? s).bind fun n => ofInteger n s
  else if tag = "tag:yaml.org,2002:float" then real? s
  else if tag = "tag:yaml.org,2002:null" then if isNull s then some .null else none
  else some (.string (String.ofList s))

end Scalar

/-- Tags that start with an exclamation mark are one's own. -/
def isOwnTag (tag : Option String) : Bool := tag.any (·.startsWith "!")

namespace Node

/-- Collections that are nested more deeply are refused. -/
def nestingLimit : Nat := 128

/-- Making values, with the number of aliases that may still be followed. -/
abbrev Maker := StateT Nat Option

def follow : Maker Unit := do
  match ← get with
  | 0 => StateT.lift none
  | n + 1 => set n

def keyText : Node → Maker String
  | .scalar text _ _ => pure (String.ofList text)
  | .alias target => do follow; keyText target
  | _ => StateT.lift none

mutual

/-- The value of a node, in which `depth` collections may be entered. -/
def toValue (depth : Nat) : Node → Maker Value
  | .scalar text plain tag =>
    if isOwnTag tag then StateT.lift none
    else
      match tag with
      | some tag => StateT.lift (Scalar.taggedValue tag text)
      | none =>
        if plain then StateT.lift (Scalar.plainValue text)
        else pure (.string (String.ofList text))
  | .sequence tag items =>
    if isOwnTag tag || depth = 0 then StateT.lift none
    else return .array (← toValues (depth - 1) items)
  | .mapping tag entries =>
    if isOwnTag tag || depth = 0 then StateT.lift none
    else return .object (Keyed.ofList (← toMembers (depth - 1) entries))
  | .alias target => do follow; toValue depth target

def toValues (depth : Nat) : List Node → Maker (List Value)
  | [] => pure []
  | n :: rest => do return (← toValue depth n) :: (← toValues depth rest)

def toMembers (depth : Nat) : List (Node × Node) → Maker (List (String × Value))
  | [] => pure []
  | (k, v) :: rest => do
    let key ← keyText k
    let value ← toValue depth v
    return (key, value) :: (← toMembers depth rest)

end

end Node

def read? (text : String) : Option Value :=
  (document? text.toList).bind fun n =>
    ((n.toValue Node.nestingLimit).run (100 * n.size)).map (·.1)

end BlockMarkup.Yaml
