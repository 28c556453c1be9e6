import BlockMarkup.Settings.Value

/-!
# Keys of settings

A key leads from the top to a setting: a name, then names after dots and indices in brackets, such
as `output.format` or `layers[2].name`. Setting a key makes tables and lists on its way as they are
needed.
-/

namespace BlockMarkup

inductive KeyStep where
  | name (name : String)
  /-- Negative indices count from the end. -/
  | index (i : Int)
  deriving DecidableEq, Repr

structure SettingKey where
  first : String
  steps : List KeyStep
  deriving DecidableEq, Repr

namespace SettingKey

/-! ### Reading keys -/

def isNameChar (c : Char) : Bool := c.isAlphanum || c = ' ' || c = '_' || c = '-'

/-- A name of at least one character, and what follows it. -/
def name? (cs : List Char) : Option (String × List Char) :=
  let taken := cs.takeWhile isNameChar
  if taken.isEmpty then none else some (String.ofList taken, cs.drop taken.length)

def skipBlanks (cs : List Char) : List Char := cs.dropWhile fun c => c = ' ' || c = '\t'

/-- A whole number of at most 64 bits with a closing bracket after it. -/
def index? (cs : List Char) : Option (Int × List Char) :=
  let (negative, digits) := match skipBlanks cs with
    | '-' :: rest => (true, rest)
    | rest => (false, rest)
  let taken := digits.takeWhile Char.isDigit
  let n : Int := taken.foldl (fun n d => n * 10 + (d.toNat - 48)) 0
  let i := if negative then -n else n
  match skipBlanks (digits.drop taken.length) with
  | ']' :: rest =>
    if taken.isEmpty || i < -Int.pow 2 63 || Int.pow 2 63 ≤ i then none else some (i, rest)
  | _ => none

/-- The steps that a text spells. Each of them takes at least one character. -/
def steps? : Nat → List Char → Option (List KeyStep)
  | _, [] => some []
  | 0, _ => none
  | fuel + 1, '.' :: rest =>
    (name? rest).bind fun (name, rest) => (steps? fuel rest).map (.name name :: ·)
  | fuel + 1, '[' :: rest =>
    (index? rest).bind fun (i, rest) => (steps? fuel rest).map (.index i :: ·)
  | _ + 1, _ => none

def ofString? (s : String) : Option SettingKey :=
  (name? s.toList).bind fun (first, rest) => (steps? rest.length rest).map (⟨first, ·⟩)

/-! ### Setting keys -/

/-- Changes the item at an index. A list that is too short grows at the end that the index counts
away from. -/
def atIndex (i : Int) (f : Option Setting → Setting) (items : List Setting) : List Setting :=
  let put := fun (n : Nat) =>
    items.take n ++ List.replicate (n - items.length) .null ++ f items[n]? :: items.drop (n + 1)
  if 0 ≤ i then put i.natAbs
  else if i.natAbs ≤ items.length then put (items.length - i.natAbs)
  else f none :: List.replicate (i.natAbs - items.length - 1) .null ++ items

/-- The value at the start of some steps once `v` is set at their end. -/
def descend (v : Setting) : List KeyStep → Option Setting → Setting
  | [], below => v.layOver below
  | [.index i], below => .list (atIndex i (fun _ => v) ((below.map Setting.items).getD []))
  | .name k :: rest, below =>
    let entries := Setting.entriesOf below
    .table (Keyed.put k.toLower (descend v rest (entries.lookup k.toLower)) entries)
  | .index i :: rest, below =>
    .list (atIndex i (descend v rest) ((below.map Setting.items).getD []))

def set (key : SettingKey) (v : Setting) (top : List (String × Setting)) :
    List (String × Setting) :=
  let name := key.first.toLower
  Keyed.put name (descend v key.steps (top.lookup name)) top

end SettingKey

end BlockMarkup
