import BlockMarkup.Json.Printer
import BlockMarkup.Json.Reader
import BlockMarkup.Tree.Node

/-!
# Tokens and trees as JSON

A leaf is written as its token. The alternative of a token is not written, so reading a token back
leaves it unset.
-/

namespace BlockMarkup

open Json (Value)

namespace Location

def toValue (loc : Location) : Value :=
  .object [("start", .nat loc.start), ("end", .nat loc.stop)]

/-- An offset fits 64 bits. -/
def offset? (v : Value) : Option Nat := v.nat?.filter (· < Nat.pow 2 64)

def ofFields? (start stop : Option Value) : Option Location :=
  (start.bind offset?).bind fun start => (stop.bind offset?).map fun stop => ⟨start, stop⟩

/-- An object with the fields, or an array of all of them in their order. -/
def ofValue? : Value → Option Location
  | .object members => ofFields? (members.lookup "start") (members.lookup "end")
  | .array [start, stop] => ofFields? start stop
  | _ => none

end Location

namespace Params

def toValue (params : Params) : Value := .array (params.map (Value.option .string))

def items? : List Value → Option Params
  | [] => some []
  | .null :: rest => (items? rest).map (none :: ·)
  | .string s :: rest => (items? rest).map (some s :: ·)
  | _ :: _ => none

/-- Params are null or an array of strings and nulls. -/
def ofValue? : Value → Option (Option Params)
  | .null => some none
  | .array items => (items? items).map some
  | _ => none

end Params

/-- A member with params, left out if there are none. -/
def paramsMember (key : String) (params : Option Params) : List (String × Value) :=
  match params with
  | some params => [(key, params.toValue)]
  | none => []

namespace Token

def toValue (t : Token) : Value :=
  .object ([("type", .string t.type), ("value", .string t.value)] ++
    paramsMember "params" t.params ++ [("loc", t.loc.toValue)])

/-- Without the field for them there are no params. -/
def paramsOf? : Option Value → Option (Option Params)
  | none => some none
  | some v => Params.ofValue? v

def ofFields? (type value params loc : Option Value) : Option Token :=
  (type.bind Value.string?).bind fun type =>
    (value.bind Value.string?).bind fun value =>
      (paramsOf? params).bind fun params =>
        (loc.bind Location.ofValue?).map fun loc => { type, value, params, loc }

/-- An object with the fields, or an array of all of them in their order. -/
def ofValue? : Value → Option Token
  | .object members =>
    ofFields? (members.lookup "type") (members.lookup "value") (members.lookup "params")
      (members.lookup "loc")
  | .array [type, value, params, loc] => ofFields? type value params loc
  | _ => none

end Token

mutual

def Node.toValue : Node → Value
  | .leaf t => t.toValue
  | .block loc opening closing children =>
    .object ([("type", .string "block"), ("children", .array (Node.toValues children)),
      ("loc", loc.toValue)] ++ paramsMember "open" opening ++ paramsMember "close" closing)

def Node.toValues : List Node → List Value
  | [] => []
  | n :: rest => n.toValue :: Node.toValues rest

end

def Document.toValue (d : Document) : Value :=
  .object [("type", .string "document"), ("children", .array (Node.toValues d.children)),
    ("loc", d.loc.toValue)]

def Document.toJson (pretty : Bool) (d : Document) : String := d.toValue.print pretty

def tokensToJson (pretty : Bool) (tokens : List Token) : String :=
  (Value.array (tokens.map Token.toValue)).print pretty

/-- The tokens in the array that a text holds. -/
def tokensOfJson? (text : String) : Option (List Token) :=
  ((Json.read? text).bind Value.array?).bind fun items => items.mapM Token.ofValue?

end BlockMarkup
