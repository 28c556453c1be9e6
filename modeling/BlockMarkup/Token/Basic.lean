import BlockMarkup.Text.Quoted

/-!
# Tokens

A token is a classified stretch of the source. What it means for the tree follows from its type
alone.
-/

namespace BlockMarkup

/-- A stretch of the source in characters, without the character at `stop`. -/
structure Location where
  start : Nat
  stop : Nat
  deriving DecidableEq, Repr, Inhabited

namespace Location

def emptyAt (offset : Nat) : Location := ⟨offset, offset⟩

def length (loc : Location) : Nat := loc.stop - loc.start

def isEmpty (loc : Location) : Bool := loc.length = 0

def display (loc : Location) : String := toString loc.start ++ ".." ++ toString loc.stop

end Location

/-- The captured groups of a match. A group that took no part is `none`. -/
abbrev Params := List (Option String)

inductive Role where
  | text
  | opening
  | closing
  | marker
  /-- A type with no meaning for the tree. -/
  | other
  deriving DecidableEq, Repr

def Role.ofType (type : String) : Role :=
  if type = "text" then .text
  else if type = "open" then .opening
  else if type = "close" then .closing
  else if type = "marker" then .marker
  else .other

def Role.name : Role → String
  | .text => "text"
  | .opening => "open"
  | .closing => "close"
  | .marker => "marker"
  | .other => "other"

structure Token where
  type : String
  value : String
  /-- The groups of the rule that matched, `none` if it has no groups. -/
  params : Option Params := none
  loc : Location
  /-- The position of the matched literal among those of its rule. -/
  alternative : Option Nat := none
  deriving DecidableEq, Repr

namespace Token

def text (value : String) (loc : Location) : Token := { type := "text", value, loc }

def role (t : Token) : Role := Role.ofType t.type

theorem role_eq_iff {t : Token} {role : Role} (meant : role ≠ .other) :
    t.role = role ↔ t.type = role.name := by
  unfold Token.role Role.ofType
  repeat' split
  all_goals cases role <;> simp_all [Role.name]

/-- The first group, if there is one and it took part. -/
def firstParam (t : Token) : Option String :=
  match t.params with
  | some (some first :: _) => some first
  | _ => none

def display (t : Token) : String :=
  t.type ++ "(" ++ Text.quoted t.value ++ ")@" ++ t.loc.display

end Token

def detokenize (tokens : List Token) : String := String.join (tokens.map (·.value))

end BlockMarkup
