/-!
# Doubles and their decimal text

A double is a sign, a whole number and a power of two. `Double.round` takes the double next to a
quotient, and `Double.display` writes the fewest digits that read back as the same double.
-/

namespace BlockMarkup

inductive Double where
  /-- `mantissa * 2 ^ exponent`, negated if `negative`. -/
  | finite (negative : Bool) (mantissa : Nat) (exponent : Int)
  | infinite (negative : Bool)
  | notANumber
  deriving DecidableEq, Repr

namespace Double

def isZero : Double → Bool
  | finite _ mantissa _ => mantissa = 0
  | _ => false

/-! ### Rounding -/

/-- The quotient rounded to a whole number, halves to the even neighbour. -/
def roundDiv (num den : Nat) : Nat :=
  let q := num / den
  let twice := 2 * (num % den)
  if twice > den || twice = den && q % 2 = 1 then q + 1 else q

/-- The quotient of `num` and `den * 2 ^ e`, as a numerator and a denominator. -/
def scale (num den : Nat) (e : Int) : Nat × Nat :=
  if e < 0 then (num * Nat.pow 2 e.natAbs, den) else (num, den * Nat.pow 2 e.natAbs)

/-- The greatest power of two that is not above a positive quotient. -/
def floorLog2 (num den : Nat) : Int :=
  let guess : Int := Nat.log2 num - Nat.log2 den
  let (n, d) := scale num den guess
  if n < d then guess - 1 else guess

/-- The mantissa and the exponent of the double next to a positive quotient. None if it is beyond
the greatest double. -/
def roundParts (num den : Nat) : Option (Nat × Int) :=
  let e := max (floorLog2 num den - 52) (-1074)
  let (n, d) := scale num den e
  let m := roundDiv n d
  let (m, e) := if m = Nat.pow 2 53 then (Nat.pow 2 52, e + 1) else (m, e)
  if e > 971 then none else some (m, e)

def round (negative : Bool) (num den : Nat) : Double :=
  if num = 0 then finite negative 0 0
  else
    match roundParts num den with
    | some (m, e) => finite negative m e
    | none => infinite negative

/-- The double next to `digits * 10 ^ exponent`. Exponents far out of range are decided without
large numbers. -/
def ofDecimal (negative : Bool) (digits : Nat) (exponent : Int) : Double :=
  let magnitude := (Nat.toDigits 10 digits).length + exponent
  if digits = 0 || magnitude < -400 then finite negative 0 0
  else if magnitude > 400 then infinite negative
  else if exponent < 0 then round negative digits (Nat.pow 10 exponent.natAbs)
  else round negative (digits * Nat.pow 10 exponent.natAbs) 1

/-! ### Shortest digits -/

/-- The quotient that a mantissa and an exponent stand for. -/
def quotient (m : Nat) (e : Int) : Nat × Nat :=
  if e < 0 then (m, Nat.pow 2 e.natAbs) else (m * Nat.pow 2 e.natAbs, 1)

/-- `digits * 10 ^ p` as a quotient. -/
def decimal (digits : Nat) (p : Int) : Nat × Nat :=
  if p < 0 then (digits, Nat.pow 10 p.natAbs) else (digits * Nat.pow 10 p.natAbs, 1)

def floorLog10 (num den : Nat) : Int :=
  ((Nat.toDigits 10 (num * Nat.pow 10 400 / den)).length : Int) - 401

/-- Digits and a power of ten, where a number that grew to `n + 1` digits loses its last zero. -/
def carry (n digits : Nat) (p : Int) : Nat × Int :=
  if digits = Nat.pow 10 n then (digits / 10, p + 1) else (digits, p)

/-- The nearest number with `n` digits that rounds to the double, with its power of ten. Of two
numbers at the same distance it is the greater one. -/
def withDigits (m : Nat) (e : Int) (n : Nat) : Option (Nat × Int) :=
  let (num, den) := quotient m e
  let p := floorLog10 num den - n + 1
  let (num', den') := if p < 0 then (num * Nat.pow 10 p.natAbs, den) else (num, den * Nat.pow 10 p.natAbs)
  let low := num' / den'
  let readsBack := fun (d : Nat) =>
    let (a, b) := decimal d p
    d != 0 && roundParts a b = some (m, e)
  let above := 2 * (num' % den') ≥ den'
  let near := if above then low + 1 else low
  let far := if above then low else low + 1
  if readsBack near then some (carry n near p)
  else if readsBack far then some (carry n far p)
  else none

/-- The fewest digits that read back, with their power of ten. -/
def shortest (m : Nat) (e : Int) : Nat × Int :=
  ((List.range 17).findSome? fun n => withDigits m e (n + 1)).getD (m, 0)

def positional (digits : List Char) (p : Int) : List Char :=
  if 0 ≤ p then digits ++ List.replicate p.natAbs '0'
  else if p.natAbs < digits.length then
    digits.take (digits.length - p.natAbs) ++ '.' :: digits.drop (digits.length - p.natAbs)
  else '0' :: '.' :: List.replicate (p.natAbs - digits.length) '0' ++ digits

def display : Double → String
  | notANumber => "NaN"
  | infinite negative => if negative then "-inf" else "inf"
  | finite negative m e =>
    let sign := if negative then ['-'] else []
    if m = 0 then String.ofList (sign ++ ['0'])
    else
      let (digits, p) := shortest m e
      String.ofList (sign ++ positional (Nat.toDigits 10 digits) p)

end Double

end BlockMarkup
