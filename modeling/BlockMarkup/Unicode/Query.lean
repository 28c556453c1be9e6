import BlockMarkup.Unicode.Age
import BlockMarkup.Unicode.Category
import BlockMarkup.Unicode.Property
import BlockMarkup.Unicode.Script
import BlockMarkup.Unicode.ScriptExtension
import BlockMarkup.Unicode.Segmentation

/-!
# Looking up properties

Names of properties and values are matched loosely. `Query.members` finds the characters that a
query names, or tells that nothing has that name.
-/

namespace BlockMarkup.Unicode

/-- Loose matching keeps ASCII only, ignores case, spaces, hyphens, underscores and a leading
`is`. The name `isc` is kept whole. -/
def looseName (name : String) : String :=
  let chars := name.toList
  let (hasIs, body) :=
    match chars with
    | a :: b :: rest => if (a = 'i' || a = 'I') && (b = 's' || b = 'S') then (true, rest)
        else (false, chars)
    | _ => (false, chars)
  let kept := body.filterMap fun c =>
    if c = ' ' || c = '_' || c = '-' || c.toNat > 127 then none else some c.toLower
  if hasIs && kept == ['c'] then "isc" else String.ofList kept

/-- The entry of a table that has `name`, loosely, among its names. -/
def lookupLoose (table : List (List String × α)) (name : String) : Option (List String × α) :=
  table.find? fun entry => entry.1.any (looseName · == name)

/-- A question about the characters with some property. -/
inductive Query where
  /-- The name of a yes-or-no property, a general category or a script. -/
  | named (name : String)
  | valued (property value : String)
  deriving DecidableEq, Repr

namespace Query

def category (value : String) : Option CharSet :=
  if value == "any" then some .all
  else if value == "ascii" then some ⟨#[(0, 127)]⟩
  else if value == "assigned" then some (Category.members "Cn").complement
  else
    match lookupLoose Category.groups value with
    | some group => some (Category.union group.2)
    | none => (lookupLoose Category.table value).map (CharSet.decode ·.2)

def script (value : String) : Option CharSet :=
  (lookupLoose Script.table value).map (CharSet.decode ·.2)

def scriptExtension (value : String) : Option CharSet :=
  match lookupLoose ScriptExtension.table value with
  | some entry => some (CharSet.decode entry.2)
  | none => script value

/-- What was there at the version: the additions of every version up to it. -/
def age (value : String) : Option CharSet :=
  (lookupLoose Age.table value).map fun found =>
    ((Age.table.takeWhile (·.1 != found.1)).map (·.2) ++ [found.2]).foldl
      (fun set text => set.union (CharSet.decode text)) .empty

def segmentation (table : List (List String × String)) (value : String) : Option CharSet :=
  (lookupLoose table value).map (CharSet.decode ·.2)

/-- Three short names are those of a property and of a category; the category has them. -/
def isSharedName (name : String) : Bool := name == "cf" || name == "sc" || name == "lc"

def members : Query → Option CharSet
  | named name =>
    let name := looseName name
    match if isSharedName name then none else lookupLoose Property.table name with
    | some entry => some (CharSet.decode entry.2)
    | none => category name <|> script name
  | valued property value =>
    let property := looseName property
    let value := looseName value
    if property == "gc" || property == "generalcategory" then
      category value
    else if property == "sc" || property == "script" then script value
    else if property == "scx" || property == "scriptextensions" then scriptExtension value
    else if property == "age" then age value
    else if property == "gcb" || property == "graphemeclusterbreak" then
      segmentation Segmentation.graphemeBreaks value
    else if property == "wb" || property == "wordbreak" then
      segmentation Segmentation.wordBreaks value
    else if property == "sb" || property == "sentencebreak" then
      segmentation Segmentation.sentenceBreaks value
    else none

end Query

/-! ### Classes that other parts use -/

/-- Letters, marks, decimal digits, connectors and the two joiners. -/
def wordChars : CharSet :=
  (((Property.members "Alphabetic").union (Category.union ["Mn", "Mc", "Me", "Nd", "Pc"]))).union
    (Property.members "Join_Control")

def digitChars : CharSet := Category.members "Nd"

def spaceChars : CharSet := Property.members "White_Space"

def alphabeticChars : CharSet := Property.members "Alphabetic"

def numericChars : CharSet := Category.union ["Nd", "Nl", "No"]

def graphemeExtendChars : CharSet := Property.members "Grapheme_Extend"

/-- Controls, format characters, private and unassigned code points, separators, and what is
ignorable by default, such as variation selectors. The space character is the one separator that is
not here. -/
def unprintableChars : CharSet :=
  ((Category.union ["Cc", "Cf", "Co", "Cn", "Zl", "Zp", "Zs"]).diff (.singleton ' ')).union
    (Property.members "Default_Ignorable_Code_Point")

def isWord (c : Char) : Bool :=
  if c.toNat < 128 then c.isAlphanum || c = '_' else wordChars.contains c

def isSpace (c : Char) : Bool :=
  let n := c.toNat
  (9 ≤ n && n ≤ 13) || n = 0x20 || n = 0x85 || n = 0xA0 || n = 0x1680 ||
    (0x2000 ≤ n && n ≤ 0x200A) || n = 0x2028 || n = 0x2029 || n = 0x202F || n = 0x205F ||
    n = 0x3000

end BlockMarkup.Unicode
