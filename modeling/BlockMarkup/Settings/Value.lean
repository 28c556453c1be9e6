import BlockMarkup.Keyed
import BlockMarkup.Toml.Value

/-!
# Values of settings

A setting is a scalar, a list or a table. Settings come in layers: `Setting.layOver` lays a value
over the one below it. Tables are merged key by key, whatever the case of the letters of a key; any
other value replaces what was there.
-/

namespace BlockMarkup

inductive Setting where
  | null
  | bool (b : Bool)
  | integer (n : Int)
  | float (x : Double)
  | string (s : String)
  | list (items : List Setting)
  | table (entries : List (String × Setting))
  deriving Inhabited

namespace Setting

/-- The entries of a table; anything else has none. -/
def entries : Setting → List (String × Setting)
  | table entries => entries
  | _ => []

def items : Setting → List Setting
  | list items => items
  | _ => []

/-- The entries below a key that may have no value yet. -/
def entriesOf (below : Option Setting) : List (String × Setting) :=
  (below.map entries).getD []

mutual

/-- Lays a value over another one. An empty table changes nothing. -/
def layOver : Setting → Option Setting → Setting
  | table [], below => below.getD (table [])
  | table (e :: rest), below => table (entriesOver (e :: rest) (entriesOf below))
  | v, _ => v

/-- Lays entries, one after the other, over those of a table. -/
def entriesOver : List (String × Setting) → List (String × Setting) → List (String × Setting)
  | [], below => below
  | (key, v) :: rest, below =>
    entriesOver rest (Keyed.put key.toLower (v.layOver (below.lookup key.toLower)) below)

end

/-! ### From TOML -/

mutual

/-- The setting that a value of a file stands for. Dates are strings. -/
def ofToml : Toml.Value → Setting
  | .string s => string s
  | .integer n => integer n
  | .float x => float x
  | .bool b => bool b
  | .moment text => string text
  | .array items => list (ofTomlItems items)
  | .table _ entries => table (ofTomlEntries entries)
  | .tables items => list (ofTomlTables items).reverse

def ofTomlItems : List Toml.Value → List Setting
  | [] => []
  | v :: rest => ofToml v :: ofTomlItems rest

def ofTomlEntries : List (String × Toml.Value) → List (String × Setting)
  | [] => []
  | (key, v) :: rest => (key, ofToml v) :: ofTomlEntries rest

def ofTomlTables : List (List (String × Toml.Value)) → List Setting
  | [] => []
  | entries :: rest => table (ofTomlEntries entries) :: ofTomlTables rest

end

/-! ### Reading fields -/

/-- One of several named choices: its name, or a table with the name as its only key. -/
def choice? (choices : List (String × α)) : Setting → Option α
  | string s => choices.lookup s.toLower
  | table [(key, _)] => choices.lookup key.toLower
  | _ => none

/-- Numbers other than zero count as true, and so do a few words. -/
def flag? : Setting → Option Bool
  | bool b => some b
  | integer n => some (n != 0)
  | float x => some !x.isZero
  | string s =>
    if ["1", "true", "on", "yes"].contains s.toLower then some true
    else if ["0", "false", "off", "no"].contains s.toLower then some false
    else none
  | _ => none

def text? : Setting → Option String
  | string s => some s
  | bool b => some (if b then "true" else "false")
  | integer n => some (toString n)
  | float x => some x.display
  | _ => none

/-- Two fields, by their names in a table or by their places in a list. -/
def fields? (first second : String) : Setting → Option (Setting × Setting)
  | table entries =>
    match entries.lookup first, entries.lookup second with
    | some v, some w => some (v, w)
    | _, _ => none
  | list (v :: w :: _) => some (v, w)
  | _ => none

end Setting

end BlockMarkup
