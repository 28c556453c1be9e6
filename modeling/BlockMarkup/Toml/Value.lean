import BlockMarkup.Decimal.Double
import BlockMarkup.Keyed

/-!
# TOML documents

A document is a tree of tables. While it is read, each table remembers how it came about, since
that decides what may still be added to it.
-/

namespace BlockMarkup.Toml

/-- How a table came about. -/
inductive Origin where
  /-- By its own header. -/
  | header
  /-- As a part of the path of another header. -/
  | implied
  /-- By a dotted key. -/
  | dotted
  /-- In braces; nothing can be added to it. -/
  | inline
  deriving DecidableEq, Repr

inductive Value where
  | string (s : String)
  | integer (n : Int)
  | float (x : Double)
  | bool (b : Bool)
  /-- A date, a time or both, in its normal form. -/
  | moment (text : String)
  | array (items : List Value)
  | table (origin : Origin) (entries : List (String × Value))
  /-- Tables under one header with double brackets, last one first. -/
  | tables (items : List (List (String × Value)))
  deriving Inhabited

abbrev Entries := List (String × Value)

namespace Entries

/-- Adds a new key, or refuses one that is there. -/
def add (key : String) (v : Value) (entries : Entries) : Option Entries :=
  match entries.lookup key with
  | some _ => none
  | none => some (entries ++ [(key, v)])

/-- Changes the entries of the table at the end of a dotted path. Tables on the way may be made by
dotted keys only. -/
def atDotted (path : List String) (f : Entries → Option Entries) (entries : Entries) :
    Option Entries :=
  match path with
  | [] => f entries
  | key :: rest =>
    match entries.lookup key with
    | none => (atDotted rest f []).map fun inner => entries ++ [(key, .table .dotted inner)]
    | some (.table .dotted inner) =>
      (atDotted rest f inner).map fun inner => Keyed.put key (.table .dotted inner) entries
    | some (.table .implied inner) =>
      if rest.isEmpty then none
      else (atDotted rest f inner).map fun inner => Keyed.put key (.table .implied inner) entries
    | some _ => none

/-- Sets a dotted key. -/
def setDotted (path : List String) (key : String) (v : Value) : Entries → Option Entries :=
  atDotted path (add key v)

/-- Changes the entries of the table at the end of a header's path, the last one of several. -/
def atHeader (path : List String) (f : Entries → Option Entries) (entries : Entries) :
    Option Entries :=
  match path with
  | [] => f entries
  | key :: rest =>
    match entries.lookup key with
    | none => (atHeader rest f []).map fun inner => entries ++ [(key, .table .implied inner)]
    | some (.table .inline _) => none
    | some (.table origin inner) =>
      (atHeader rest f inner).map fun inner => Keyed.put key (.table origin inner) entries
    | some (.tables (last :: others)) =>
      (atHeader rest f last).map fun last => Keyed.put key (.tables (last :: others)) entries
    | some _ => none

/-- Opens the table of a header. Only a table that is implied so far may have one. -/
def openTable (key : String) (entries : Entries) : Option Entries :=
  match entries.lookup key with
  | none => some (entries ++ [(key, .table .header [])])
  | some (.table .implied inner) => some (Keyed.put key (.table .header inner) entries)
  | some _ => none

/-- Opens one more table of a header with double brackets. -/
def openTables (key : String) (entries : Entries) : Option Entries :=
  match entries.lookup key with
  | none => some (entries ++ [(key, .tables [[]])])
  | some (.tables items) => some (Keyed.put key (.tables ([] :: items)) entries)
  | some _ => none

end Entries

end BlockMarkup.Toml
