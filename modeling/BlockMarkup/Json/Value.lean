/-!
# JSON values

Objects keep the order of their members. A repeated key stays where it was first and takes the
last value.
-/

namespace BlockMarkup.Json

inductive Value where
  | null
  | bool (b : Bool)
  | int (n : Int)
  /-- A number that is no integer of 64 bits, as it was written. -/
  | real (text : String)
  | string (s : String)
  | array (items : List Value)
  | object (members : List (String × Value))
  deriving Inhabited

namespace Value

def get? (key : String) : Value → Option Value
  | object members => members.lookup key
  | _ => none

def string? : Value → Option String
  | string s => some s
  | _ => none

def bool? : Value → Option Bool
  | bool b => some b
  | _ => none

def nat? : Value → Option Nat
  | int n => n.toNat?
  | _ => none

def array? : Value → Option (List Value)
  | array items => some items
  | _ => none

def nat (n : Nat) : Value := .int n

def strings (items : List String) : Value := .array (items.map .string)

def option (f : α → Value) : Option α → Value
  | some a => f a
  | none => .null

end Value

end BlockMarkup.Json
