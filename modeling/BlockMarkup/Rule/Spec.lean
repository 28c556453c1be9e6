import BlockMarkup.Json.Value
import BlockMarkup.Keyed

/-!
# Rules and rule sets

A rule is a literal, a list of alternative literals, or a pattern with flags. A rule set keeps its
rules in the order in which their names came first; that is the order in which they are tried.
-/

namespace BlockMarkup

inductive RuleError where
  | notAMapping
  | invalidRule (name : String)
  | invalidPattern (name : String)
  | unsupportedFlag (name : String) (flag : Char)
  deriving DecidableEq, Repr

/-- The name of the rule, in front of what is wrong with it. -/
def RuleError.about (name complaint : String) : String := "rule \"" ++ name ++ "\" " ++ complaint

def RuleError.message : RuleError → String
  | .notAMapping => "rules must be a mapping from rule name to rule"
  | .invalidRule name => about name "must be either a string, regexp or an array of strings"
  | .invalidPattern name => about name "has an invalid pattern: "
  | .unsupportedFlag name flag => about name ("uses unsupported flag '" ++ toString flag ++ "'")

inductive Rule where
  | literal (text : String)
  | pattern (source flags : String)
  | alternatives (texts : List String)
  deriving DecidableEq, Repr

namespace Rule

open Json (Value)

/-- The strings of an array that holds nothing else. -/
def texts? : List Value → Option (List String)
  | [] => some []
  | v :: rest => v.string?.bind fun s => (texts? rest).map (s :: ·)

/-- The source of a pattern: the string under `pattern` or, if there is no such key, the one under
`source`. -/
def source? (members : List (String × Value)) : Option String :=
  match members.lookup "pattern" with
  | some v => v.string?
  | none => (members.lookup "source").bind Value.string?

def flags? (members : List (String × Value)) : Option String :=
  match members.lookup "flags" with
  | none | some .null => some ""
  | some v => v.string?

/-- A string is a literal, an array of strings holds alternatives, an object describes a pattern.
Nothing else is a rule. -/
def ofValue? : Value → Option Rule
  | .string s => some (.literal s)
  | .array items => (texts? items).map .alternatives
  | .object members =>
    (source? members).bind fun source => (flags? members).map fun flags => .pattern source flags
  | _ => none

end Rule

/-- Rules by name, in the order in which they are tried. -/
structure RuleSet where
  rules : List (String × Rule)
  deriving DecidableEq, Repr

namespace RuleSet

def empty : RuleSet := ⟨[]⟩

/-- Adds a rule, or replaces the one of that name where it stands. -/
def insert (set : RuleSet) (name : String) (rule : Rule) : RuleSet :=
  ⟨Keyed.put name rule set.rules⟩

/-- The same, as a link in a chain of calls. -/
def withRule (set : RuleSet) (name : String) (rule : Rule) : RuleSet := set.insert name rule

def literal (set : RuleSet) (name text : String) : RuleSet := set.withRule name (.literal text)

def pattern (set : RuleSet) (name source flags : String) : RuleSet :=
  set.withRule name (.pattern source flags)

def alternatives (set : RuleSet) (name : String) (texts : List String) : RuleSet :=
  set.withRule name (.alternatives texts)

def names (set : RuleSet) : List String := Keyed.keys set.rules

def size (set : RuleSet) : Nat := set.rules.length

def isEmpty (set : RuleSet) : Bool := set.rules.isEmpty

def insertValue (set : RuleSet) (name : String) (v : Json.Value) : Except RuleError RuleSet :=
  match Rule.ofValue? v with
  | some rule => .ok (set.insert name rule)
  | none => .error (.invalidRule name)

/-- Inserts what values describe, one after the other, up to the first that is no rule. -/
def insertValues (set : RuleSet) : List (String × Json.Value) → Except RuleError RuleSet
  | [] => .ok set
  | (name, v) :: rest =>
    match set.insertValue name v with
    | .ok set => set.insertValues rest
    | .error e => .error e

/-- The rules of a mapping, in the order of its keys. -/
def ofValue : Json.Value → Except RuleError RuleSet
  | .object members => empty.insertValues members
  | _ => .error .notAMapping

end RuleSet

end BlockMarkup
