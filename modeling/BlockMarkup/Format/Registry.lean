import BlockMarkup.Format.Json
import BlockMarkup.Format.Outline

/-!
# Formats by name

A registry is a map from names to formatters, and lists them in the order of their names.
-/

namespace BlockMarkup

/-! ### Maps in the order of keys -/

/-- Keys increase along the entries, so each one is there once. -/
structure OrderedMap (β : Type) where
  entries : List (String × β)
  inOrder : entries.Pairwise (·.1 < ·.1)

namespace OrderedMap

/-- Sets the value of a key, and gives the one that it had before. A new key goes where it belongs. -/
def place (key : String) (value : β) : List (String × β) → List (String × β) × Option β
  | [] => ([(key, value)], none)
  | (k, v) :: rest =>
    if key = k then ((k, value) :: rest, some v)
    else if key < k then ((key, value) :: (k, v) :: rest, none)
    else
      let (rest, replaced) := place key value rest
      ((k, v) :: rest, replaced)

theorem mem_place {key : String} {value : β} {entries : List (String × β)} {e : String × β}
    (member : e ∈ (place key value entries).1) : e.1 = key ∨ e ∈ entries := by
  induction entries with
  | nil => exact .inl (congrArg Prod.fst (List.mem_singleton.mp member))
  | cons first rest ih =>
    obtain ⟨k, v⟩ := first
    rw [place] at member
    split at member
    next same =>
      rcases List.mem_cons.mp member with rfl | later
      · exact .inl same.symm
      · exact .inr (List.mem_cons_of_mem _ later)
    next =>
      split at member
      next => exact (List.mem_cons.mp member).imp_left (congrArg Prod.fst)
      next =>
        rcases List.mem_cons.mp member with rfl | later
        · exact .inr List.mem_cons_self
        · exact (ih later).imp_right (List.mem_cons_of_mem _)

theorem place_inOrder (key : String) (value : β) {entries : List (String × β)}
    (inOrder : entries.Pairwise (·.1 < ·.1)) : (place key value entries).1.Pairwise (·.1 < ·.1) := by
  induction entries with
  | nil => exact List.pairwise_singleton _ _
  | cons first rest ih =>
    obtain ⟨k, v⟩ := first
    obtain ⟨behind, later⟩ := List.pairwise_cons.mp inOrder
    rw [place]
    split
    next => exact List.pairwise_cons.mpr ⟨behind, later⟩
    next other =>
      split
      next before =>
        refine List.pairwise_cons.mpr ⟨?_, inOrder⟩
        intro e member
        rcases List.mem_cons.mp member with rfl | inside
        · exact before
        · exact String.lt_trans before (behind e inside)
      next notBefore =>
        have after : k < key := Std.lt_of_le_of_ne (String.not_lt.mp notBefore) (Ne.symm other)
        refine List.pairwise_cons.mpr ⟨?_, ih later⟩
        intro e member
        rcases mem_place member with same | inside
        · exact same ▸ after
        · exact behind e inside

def empty : OrderedMap β := ⟨[], .nil⟩

def insert (m : OrderedMap β) (key : String) (value : β) : OrderedMap β × Option β :=
  let placed := place key value m.entries
  (⟨placed.1, place_inOrder key value m.inOrder⟩, placed.2)

def get? (m : OrderedMap β) (key : String) : Option β := m.entries.lookup key

end OrderedMap

/-! ### Formatters -/

inductive FormatError where
  | unknownFormat (name : String)
  /-- A formatter could not write a document. -/
  | serialization (cause : String)
  deriving DecidableEq, Repr

def FormatError.message : FormatError → String
  | unknownFormat name => "unknown format \"" ++ name ++ "\""
  | serialization cause => "serialization failed: " ++ cause

/-- What cannot fail is given as the text alone. -/
instance : Coe String (Except FormatError String) := ⟨.ok⟩

structure Formatter where
  name : String
  /-- One line for lists of formats. -/
  description : String
  render : Document → Except FormatError String

namespace Formatter

def json : Formatter :=
  ⟨"json", "Document tree as indented JSON", fun d => d.toJson true⟩

def jsonCompact : Formatter :=
  ⟨"json-compact", "Document tree as single-line JSON", fun d => d.toJson false⟩

def outline : Formatter :=
  ⟨"treeviz", "Visual tree representation with indentation and Unicode icons",
    fun d => Outline.renderWith [] d⟩

end Formatter

/-! ### Registries -/

structure FormatRegistry where
  formatters : OrderedMap Formatter

namespace FormatRegistry

def empty : FormatRegistry := ⟨.empty⟩

/-- Adds a formatter under its name, and gives the one that had the name before. -/
def register (r : FormatRegistry) (f : Formatter) : FormatRegistry × Option Formatter :=
  let (formatters, replaced) := r.formatters.insert f.name f
  (⟨formatters⟩, replaced)

def get? (r : FormatRegistry) (name : String) : Option Formatter := r.formatters.get? name

def contains (r : FormatRegistry) (name : String) : Bool := (r.get? name).isSome

def render (r : FormatRegistry) (d : Document) (name : String) : Except FormatError String :=
  match r.get? name with
  | some f => f.render d
  | none => .error (.unknownFormat name)

def descriptions (r : FormatRegistry) : List (String × String) :=
  r.formatters.entries.map fun (_, f) => (f.name, f.description)

def standard : FormatRegistry :=
  [Formatter.json, .jsonCompact, .outline].foldl (fun r f => (r.register f).1) empty

end FormatRegistry

end BlockMarkup
