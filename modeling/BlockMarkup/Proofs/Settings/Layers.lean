import BlockMarkup.Proofs.Keyed
import BlockMarkup.Settings.Sources

/-!
# Layers of settings

Where files and overrides set nothing but scalars of the four fields, the layers are laid over each other
field by field: the value of a field is that of its last override, else of the last file that sets it, else
the default. Loading depends on these four values and on nothing else (`SettingsCall.runAll_layered`).
-/

namespace BlockMarkup

open Setting (entriesOver)

/-! ### The fields -/

inductive SettingsField where
  | closeMatching
  | endOffset
  | format
  | showLoc
  deriving DecidableEq, Repr

/-- Values of all fields. -/
abbrev FieldValues := SettingsField → Setting

namespace SettingsField

def all : List SettingsField := [closeMatching, endOffset, format, showLoc]

def table : SettingsField → String
  | closeMatching | endOffset => "build"
  | format | showLoc => "output"

def name : SettingsField → String
  | closeMatching => "close_matching"
  | endOffset => "end_offset"
  | format => "format"
  | showLoc => "show_loc"

/-- The dotted key that leads to a field. -/
def key (f : SettingsField) : String := f.table ++ "." ++ f.name

/-- The value of a field in the settings. -/
def value? (top : List (String × Setting)) (f : SettingsField) : Option Setting :=
  (top.lookup f.table).bind fun t => t.entries.lookup f.name

def default (f : SettingsField) : Setting := (f.value? Settings.defaults).getD .null

/-- A value can be converted to what the field holds. -/
def accepts : SettingsField → Setting → Bool
  | closeMatching, v => (v.choice? Settings.closeMatchingNames).isSome
  | endOffset, v => (v.choice? Settings.endOffsetNames).isSome
  | format, v => v.text?.isSome
  | showLoc, v => v.flag?.isSome

/-- The field of some name in a table, whatever the case of the letters. -/
def named? (table name : String) : Option SettingsField :=
  all.find? fun f => f.table = table.toLower && f.name = name.toLower

theorem exists_iff {p : SettingsField → Prop} :
    (∃ f, p f) ↔ p closeMatching ∨ p endOffset ∨ p format ∨ p showLoc := by
  constructor
  · rintro ⟨f, holds⟩
    cases f <;> simp [holds]
  · rintro (holds | holds | holds | holds) <;> exact ⟨_, holds⟩

theorem ext_name {f g : SettingsField} (table : f.table = g.table) (name : f.name = g.name) : f = g := by
  revert table name
  cases f <;> cases g <;> decide

theorem key_inj {f g : SettingsField} : f.key = g.key ↔ f = g := by
  cases f <;> cases g <;> decide

theorem named?_self (f : SettingsField) : named? f.table f.name = some f := by
  cases f <;> decide +kernel

theorem ofString_key (f : SettingsField) : SettingKey.ofString? f.key = some ⟨f.table, [.name f.name]⟩ := by
  cases f <;> decide

end SettingsField

/-! ### What sources set -/

def Setting.isScalar : Setting → Bool
  | .list _ | .table _ => false
  | _ => true

/-- The field that an entry of a table sets, if it sets one to a scalar. -/
def Setting.field? (table : String) (e : String × Setting) : Option (SettingsField × Setting) :=
  if e.2.isScalar then (SettingsField.named? table e.1).map (·, e.2) else none

/-- The fields that a key sets, if it sets nothing else. -/
def SettingKey.fields? : SettingKey → Setting → Option (List (SettingsField × Setting))
  | ⟨table, []⟩, .table entries => entries.mapM (Setting.field? table)
  | ⟨table, [.name name]⟩, v => [(name, v)].mapM (Setting.field? table)
  | _, _ => none

namespace SettingsFile

def entryFields? (e : String × Toml.Value) : Option (List (SettingsField × Setting)) :=
  (SettingKey.ofString? e.1).bind (·.fields? (.ofToml e.2))

def textFields? (text : String) : Option (List (SettingsField × Setting)) :=
  (Toml.read? text).bind fun entries => (entries.mapM entryFields?).map List.flatten

/-- The fields that a file sets, if it sets nothing else. One that may be missing sets none if it is. -/
def fields? (files : Files) (f : SettingsFile) : Option (List (SettingsField × Setting)) :=
  match content files f.path with
  | .ok text => textFields? text
  | .error _ => if f.isRequired then none else some []

end SettingsFile

/-- A call that adds a file or overrides. -/
inductive SettingsCall where
  | file (f : SettingsFile)
  | override (key : String) (v : Setting)
  | overrides (pairs : List (String × Setting))

namespace SettingsCall

def file? : SettingsCall → Option SettingsFile
  | file f => some f
  | _ => none

def pairs : SettingsCall → List (String × Setting)
  | file _ => []
  | override key v => [(key, v)]
  | overrides pairs => pairs

def run? (s : SettingsSources) : SettingsCall → Option SettingsSources
  | file f => some (s.addFile f)
  | override key v => s.addOverride? key v
  | overrides pairs => s.addOverrides? pairs

def runAll? (s : SettingsSources) (calls : List SettingsCall) : Option SettingsSources :=
  calls.foldlM run? s

/-- Calls set nothing but scalars of fields, and files that have to be there are. -/
structure Plain (files : Files) (calls : List SettingsCall) : Prop where
  files : ∀ f ∈ calls.filterMap file?, (f.fields? files).isSome
  pairs : ∀ p ∈ calls.flatMap pairs, p.2.isScalar ∧ ∃ f : SettingsField, p.1 = f.key

/-- The value of the last override of a field. -/
def lastOverride? (calls : List SettingsCall) (f : SettingsField) : Option Setting :=
  (calls.flatMap pairs).reverse.lookup f.key

/-- The value in the last file that sets a field. -/
def lastFile? (files : Files) (calls : List SettingsCall) (f : SettingsField) : Option Setting :=
  (calls.filterMap file?).reverse.findSome? fun file => ((file.fields? files).getD []).reverse.lookup f

def winner (files : Files) (calls : List SettingsCall) (f : SettingsField) : Setting :=
  ((lastOverride? calls f).or (lastFile? files calls f)).getD f.default

end SettingsCall

/-! ### Laying fields over each other -/

theorem mapM_cons_eq_some {α β : Type} {f : α → Option β} {x : α} {xs : List α} {ys : List β}
    (read : (x :: xs).mapM f = some ys) :
    ∃ y rest, f x = some y ∧ xs.mapM f = some rest ∧ ys = y :: rest := by
  rw [List.mapM_cons] at read
  obtain ⟨y, first, read⟩ := Option.bind_eq_some_iff.mp read
  obtain ⟨rest, others, same⟩ := Option.bind_eq_some_iff.mp read
  exact ⟨y, rest, first, others, (Option.some.inj same).symm⟩

theorem reverse_lookup_flatMap {α β : Type} (fields : α → List (SettingsField × β)) (xs : List α)
    (f : SettingsField) :
    (xs.flatMap fields).reverse.lookup f = xs.reverse.findSome? fun x => (fields x).reverse.lookup f := by
  induction xs with
  | nil => rfl
  | cons x rest ih =>
    rw [List.flatMap_cons, List.reverse_append, List.lookup_append, ih, List.reverse_cons,
      List.findSome?_append, List.findSome?_singleton]

/-- Values under fields that are set one after the other. -/
def FieldValues.laid (sets : List (SettingsField × Setting)) (w : FieldValues) : FieldValues := fun f =>
  (sets.reverse.lookup f).getD (w f)

section
variable {w : FieldValues} {f g : SettingsField} {v : Setting} {table : String}
  {top fields entries : List (String × Setting)} {sets : List (SettingsField × Setting)}

open FieldValues

theorem FieldValues.laid_single : laid [(g, v)] w f = if f = g then v else w f := by
  by_cases same : f = g
  · simp [laid, same]
  · simp [laid, List.lookup_cons, beq_false_of_ne same, same]

theorem FieldValues.laid_append (a b : List (SettingsField × Setting)) :
    laid (a ++ b) w = laid b (laid a w) := by
  funext f
  simp only [laid, List.reverse_append, List.lookup_append, Option.getD_or]

theorem FieldValues.laid_of_not_mem (others : ∀ s ∈ sets, f ≠ s.1) : laid sets w f = w f := by
  have unset : sets.reverse.lookup f = none := by
    rw [List.lookup_eq_none_iff]
    intro s member
    exact bne_iff_ne.mpr (others s (List.mem_reverse.mp member))
  rw [laid, unset, Option.getD_none]

/-- The tables of the fields are there and hold their values. -/
def FieldsHold (top : List (String × Setting)) (w : FieldValues) : Prop :=
  ∀ f : SettingsField, ∃ fields, top.lookup f.table = some (.table fields) ∧
    ∀ g : SettingsField, g.table = f.table → fields.lookup g.name = some (w g)

theorem FieldsHold.defaults : FieldsHold Settings.defaults SettingsField.default := by
  intro f
  cases f <;> refine ⟨_, rfl, fun g same => ?_⟩ <;> cases g <;> first | rfl | exact absurd same (by decide)

theorem SettingsField.named?_eq_some {name : String} (found : SettingsField.named? table name = some g) :
    g.table = table.toLower ∧ g.name = name.toLower := by
  have test := List.find?_some found
  simpa using test

theorem Setting.field?_eq_some {e : String × Setting} (found : Setting.field? table e = some (g, v)) :
    e.2 = v ∧ v.isScalar ∧ g.table = table.toLower ∧ g.name = e.1.toLower := by
  obtain ⟨name, value⟩ := e
  rw [Setting.field?] at found
  split at found
  · rename_i scalar
    obtain ⟨h, named, same⟩ := Option.map_eq_some_iff.mp found
    cases same
    exact ⟨rfl, scalar, SettingsField.named?_eq_some named⟩
  · cases found

theorem Setting.layOver_scalar (scalar : v.isScalar) (below : Option Setting) : v.layOver below = v := by
  cases v <;> first | rfl | cases scalar

theorem Setting.layOver_table : (Setting.table entries).layOver (some (.table fields)) =
    .table (entriesOver entries fields) := by cases entries <;> rfl

theorem Setting.lookup_entriesOver (read : entries.mapM (Setting.field? table) = some sets)
    (here : f.table = table.toLower)
    (holds : ∀ g : SettingsField, g.table = f.table → fields.lookup g.name = some (w g)) :
    (entriesOver entries fields).lookup f.name = some (laid sets w f) := by
  induction entries generalizing sets fields w with
  | nil =>
    cases read
    exact holds f rfl
  | cons e rest ih =>
    obtain ⟨name, value⟩ := e
    obtain ⟨⟨g, v⟩, later, first, others, rfl⟩ := mapM_cons_eq_some read
    obtain ⟨rfl, scalar, inside, named⟩ := Setting.field?_eq_some first
    have step : ∀ h : SettingsField, h.table = f.table →
        (Keyed.put g.name value fields).lookup h.name = some (laid [(g, value)] w h) := by
      intro h among
      rw [Keyed.lookup_put, laid_single]
      by_cases same : h = g
      · rw [if_pos (congrArg _ same), if_pos same]
      · have apart : h.name ≠ g.name := fun equal =>
          same (SettingsField.ext_name (among.trans (here.trans inside.symm)) equal)
        rw [if_neg apart, if_neg same, holds h among]
    have behind : laid ((g, value) :: later) w = laid later (laid [(g, value)] w) := laid_append [_] later
    rw [behind, entriesOver, Setting.layOver_scalar scalar, ← named]
    exact ih others step

theorem Setting.table_of_fields (read : entries.mapM (Setting.field? table) = some sets) :
    ∀ s ∈ sets, s.1.table = table.toLower := by
  induction entries generalizing sets with
  | nil =>
    cases read
    exact List.forall_mem_nil _
  | cons e rest ih =>
    obtain ⟨⟨g, v⟩, later, first, others, rfl⟩ := mapM_cons_eq_some read
    exact List.forall_mem_cons.mpr ⟨(Setting.field?_eq_some first).2.2.1, ih others⟩

/-! ### One step -/

theorem FieldsHold.set_table (holds : FieldsHold top w)
    (read : entries.mapM (Setting.field? table) = some sets) :
    FieldsHold (SettingKey.set ⟨table, []⟩ (.table entries) top) (laid sets w) := by
  intro f
  obtain ⟨fields, found, values⟩ := holds f
  by_cases here : f.table = table.toLower
  · refine ⟨entriesOver entries fields, ?_, fun g among => ?_⟩
    · rw [SettingKey.set, Keyed.lookup_put, if_pos here, SettingKey.descend, ← here, found,
        Setting.layOver_table]
    · exact Setting.lookup_entriesOver read (among.trans here) fun h same => values h (same.trans among)
  · refine ⟨fields, by rw [SettingKey.set, Keyed.lookup_put, if_neg here, found], fun g among => ?_⟩
    have others : ∀ s ∈ sets, g ≠ s.1 := by
      rintro s member rfl
      exact here (among.symm.trans (Setting.table_of_fields read s member))
    rw [laid_of_not_mem others, values g among]

/-- Setting a dotted key is laying a table of one entry over the table that it names. -/
theorem SettingKey.set_name (table name : String) (v : Setting) (top : List (String × Setting)) :
    SettingKey.set ⟨table, [.name name]⟩ v top = SettingKey.set ⟨table, []⟩ (.table [(name, v)]) top := rfl

theorem FieldsHold.set {key : SettingKey} (holds : FieldsHold top w) (read : key.fields? v = some sets) :
    FieldsHold (key.set v top) (laid sets w) := by
  obtain ⟨table, steps⟩ := key
  match steps, v, read with
  | [], .table entries, read => exact holds.set_table read
  | [.name name], v, read =>
    rw [SettingKey.set_name]
    exact holds.set_table read

end

/-! ### Files and overrides -/

section
variable {files : Files} {w : FieldValues} {top : List (String × Setting)}

open FieldValues

theorem FieldsHold.entries {entries : Toml.Entries} {sets : List (List (SettingsField × Setting))}
    (holds : FieldsHold top w) (read : entries.mapM SettingsFile.entryFields? = some sets) :
    FieldsHold (SettingsFile.entriesOver entries top) (laid sets.flatten w) := by
  induction entries generalizing sets top w with
  | nil =>
    cases read
    exact holds
  | cons e rest ih =>
    obtain ⟨name, v⟩ := e
    obtain ⟨here, later, first, others, rfl⟩ := mapM_cons_eq_some read
    obtain ⟨key, spelled, sets⟩ := Option.bind_eq_some_iff.mp first
    have first : FieldsHold (key.set (.ofToml v) top) (laid here w) := holds.set sets
    have step : SettingsFile.entriesOver ((name, v) :: rest) top =
        SettingsFile.entriesOver rest (key.set (.ofToml v) top) := by
      simp only [SettingsFile.entriesOver, List.foldl_cons, spelled, Option.getD_some]
    rw [step, List.flatten_cons, laid_append]
    exact ih first others

theorem FieldsHold.layOver {f : SettingsFile} {sets : List (SettingsField × Setting)}
    (holds : FieldsHold top w) (read : f.fields? files = some sets) :
    ∃ below, f.layOver files top = .ok below ∧ FieldsHold below (laid sets w) := by
  rw [SettingsFile.fields?] at read
  rw [SettingsFile.layOver]
  cases content : SettingsFile.content files f.path with
  | error e =>
    cases required : f.isRequired with
    | true => simp [content, required] at read
    | false =>
      have none : sets = [] := by simpa [content, required, eq_comm] using read
      exact ⟨top, by simp, none ▸ holds⟩
  | ok text =>
    rw [content] at read
    obtain ⟨entries, parsed, read⟩ := Option.bind_eq_some_iff.mp read
    obtain ⟨parts, parts_read, rfl⟩ := Option.map_eq_some_iff.mp read
    exact ⟨SettingsFile.entriesOver entries top, by simp only [parsed], holds.entries parts_read⟩

theorem SettingsFile.pathWithExtension?_eq_some {path extended : String}
    (found : pathWithExtension? path = some extended) : ∃ stem, extended = stem ++ ".toml" := by
  rw [pathWithExtension?] at found
  split at found
  · cases found
  · split at found
    · cases found
    · exact ⟨_, (Option.some.inj found).symm⟩

theorem SettingsFile.content_missing {path : String} {e : ReadError} (absent : files.read path = .error e)
    (extended : ∀ stem, ∃ e, files.read (stem ++ ".toml") = .error e) :
    content files path = .error .notFound := by
  have nowhere : ((candidates path).findSome? fun p => (files.read p).toOption) = none := by
    rw [List.findSome?_eq_none_iff]
    intro p member
    rcases List.mem_cons.mp member with rfl | longer
    · rw [absent]
      rfl
    · obtain ⟨stem, rfl⟩ := pathWithExtension?_eq_some (Option.mem_toList.mp longer)
      obtain ⟨e, refused⟩ := extended stem
      rw [refused]
      rfl
  rw [content, nowhere]

/-- The fields that several files set, one file after the other. -/
def SettingsFile.allFields (files : Files) (fs : List SettingsFile) : List (SettingsField × Setting) :=
  fs.flatMap fun f => (f.fields? files).getD []

theorem FieldsHold.filesOver {fs : List SettingsFile} (holds : FieldsHold top w)
    (plain : ∀ f ∈ fs, (f.fields? files).isSome) :
    ∃ below, SettingsSources.filesOver files fs top = .ok below ∧
      FieldsHold below (laid (SettingsFile.allFields files fs) w) := by
  induction fs generalizing top w with
  | nil => exact ⟨top, rfl, holds⟩
  | cons f rest ih =>
    obtain ⟨first, others⟩ := List.forall_mem_cons.mp plain
    obtain ⟨sets, read⟩ := Option.isSome_iff_exists.mp first
    obtain ⟨middle, fileLaid, step⟩ := holds.layOver read
    obtain ⟨below, filesLaid, run⟩ := ih step others
    refine ⟨below, ?_, ?_⟩
    · rw [SettingsSources.filesOver, fileLaid]
      exact filesLaid
    · rwa [SettingsFile.allFields, List.flatMap_cons, read, Option.getD_some, laid_append]

/-- A key and a value as an override. None if the key is not well formed. -/
def SettingsSources.overrideOf? (p : String × Setting) : Option (SettingKey × Setting) :=
  (SettingKey.ofString? p.1).map (·, p.2)

theorem FieldsHold.overridesOver {pairs : List (String × Setting)} (holds : FieldsHold top w)
    (plain : ∀ p ∈ pairs, p.2.isScalar ∧ ∃ f : SettingsField, p.1 = f.key) :
    ∃ os, pairs.mapM SettingsSources.overrideOf? = some os ∧
      FieldsHold (SettingsSources.overridesOver os top) fun f => (pairs.reverse.lookup f.key).getD (w f) := by
  induction pairs generalizing top w with
  | nil => exact ⟨[], rfl, holds⟩
  | cons p rest ih =>
    obtain ⟨key, v⟩ := p
    obtain ⟨⟨scalar, g, rfl⟩, others⟩ := List.forall_mem_cons.mp plain
    have sets : SettingKey.fields? ⟨g.table, [.name g.name]⟩ v = some [(g, v)] := by
      simp [SettingKey.fields?, Setting.field?, scalar, g.named?_self]
    obtain ⟨os, parsed, run⟩ := ih (holds.set sets) others
    refine ⟨(⟨g.table, [.name g.name]⟩, v) :: os, ?_, ?_⟩
    · simp [List.mapM_cons, SettingsSources.overrideOf?, g.ofString_key, parsed]
    · have values : (fun f : SettingsField => (((g.key, v) :: rest).reverse.lookup f.key).getD (w f)) =
          fun f => (rest.reverse.lookup f.key).getD (laid [(g, v)] w f) := by
        funext f
        rw [List.reverse_cons, List.lookup_append, Option.getD_or, Keyed.lookup_cons, laid_single]
        simp only [SettingsField.key_inj]
        split <;> rfl
      rw [values]
      exact run

end

/-! ### Calls -/

namespace SettingsCall

theorem addOverrides?_eq (s : SettingsSources) (pairs : List (String × Setting)) :
    s.addOverrides? pairs = (pairs.mapM SettingsSources.overrideOf?).map fun os =>
      { s with overrides := s.overrides ++ os } := by
  induction pairs generalizing s with
  | nil => simp [SettingsSources.addOverrides?]
  | cons p rest ih =>
    obtain ⟨key, v⟩ := p
    rw [SettingsSources.addOverrides?, SettingsSources.addOverride?, List.mapM_cons,
      SettingsSources.overrideOf?]
    cases SettingKey.ofString? key with
    | none => rfl
    | some key =>
      simp only [Option.map_some, Option.bind_some, ih]
      cases rest.mapM SettingsSources.overrideOf? <;> simp

theorem run?_eq (s : SettingsSources) (c : SettingsCall) : run? s c =
    (c.pairs.mapM SettingsSources.overrideOf?).map fun os => ⟨s.files ++ c.file?.toList, s.overrides ++ os⟩ := by
  cases c with
  | file f => simp [run?, pairs, file?, SettingsSources.addFile]
  | override key v =>
    have one : s.addOverride? key v = s.addOverrides? [(key, v)] := by
      simp [SettingsSources.addOverrides?]
    rw [run?, one, addOverrides?_eq]
    simp [pairs, file?]
  | overrides pairs =>
    rw [run?, addOverrides?_eq]
    simp [SettingsCall.pairs, file?]

/-- Files and overrides are kept apart, so only the orders among files and among overrides count. -/
theorem runAll?_eq (s : SettingsSources) (calls : List SettingsCall) : runAll? s calls =
    ((calls.flatMap pairs).mapM SettingsSources.overrideOf?).map fun os =>
      ⟨s.files ++ calls.filterMap file?, s.overrides ++ os⟩ := by
  induction calls generalizing s with
  | nil => simp [runAll?]
  | cons c rest ih =>
    have step : runAll? s (c :: rest) = (run? s c).bind fun s => runAll? s rest := rfl
    have kept : (c :: rest).filterMap file? = c.file?.toList ++ rest.filterMap file? := by cases c <;> rfl
    rw [step, run?_eq, kept, List.flatMap_cons, List.mapM_append]
    cases c.pairs.mapM SettingsSources.overrideOf? with
    | none => rfl
    | some os =>
      simp only [Option.map_some, Option.bind_some, ih, Option.bind_eq_bind]
      cases (rest.flatMap pairs).mapM SettingsSources.overrideOf? <;> simp

end SettingsCall

/-! ### Loading -/

/-- The settings that values of the fields are converted to. -/
def Settings.ofValues (w : FieldValues) : Except SettingsError Settings :=
  match (w .closeMatching).choice? closeMatchingNames, (w .endOffset).choice? endOffsetNames with
  | some close, some stop =>
    match (w .format).text?, (w .showLoc).flag? with
    | some format, some showLoc => .ok ⟨⟨close, stop⟩, format, showLoc⟩
    | _, _ => .error (.invalidSection "output")
  | _, _ => .error (.invalidSection "build")

theorem Settings.ofValues_error_iff (w : FieldValues) :
    (∃ e, ofValues w = .error e) ↔ ∃ f : SettingsField, f.accepts (w f) = false := by
  rw [ofValues, SettingsField.exists_iff]
  simp only [SettingsField.accepts]
  cases (w .closeMatching).choice? closeMatchingNames with
  | none => simp
  | some close =>
    cases (w .endOffset).choice? endOffsetNames with
    | none => simp
    | some stop => cases (w .format).text? <;> cases (w .showLoc).flag? <;> simp

section
variable {top : List (String × Setting)} {w : FieldValues}

theorem FieldsHold.value? (holds : FieldsHold top w) (f : SettingsField) : f.value? top = some (w f) := by
  obtain ⟨fields, found, values⟩ := holds f
  rw [SettingsField.value?, found]
  exact values f rfl

theorem FieldsHold.ofEntries (holds : FieldsHold top w) : Settings.ofEntries top = Settings.ofValues w := by
  obtain ⟨build, found, policies⟩ := holds .closeMatching
  obtain ⟨output, found', choices⟩ := holds .format
  have close := policies .closeMatching rfl
  have stop := policies .endOffset rfl
  have format := choices .format rfl
  have showLoc := choices .showLoc rfl
  simp only [SettingsField.table, SettingsField.name] at found found' close stop format showLoc
  simp only [Settings.ofEntries, Settings.ofValues, found, found', Option.bind_some, Settings.readOptions?,
    Settings.readOutput?, Setting.fields?, close, stop, format, showLoc]
  cases (w .closeMatching).choice? Settings.closeMatchingNames with
  | none => rfl
  | some close =>
    cases (w .endOffset).choice? Settings.endOffsetNames with
    | none => rfl
    | some stop => cases (w .format).text? <;> cases (w .showLoc).flag? <;> rfl

end

namespace SettingsCall

variable {files : Files} {calls : List SettingsCall}

theorem winner_eq (files : Files) (calls : List SettingsCall) : winner files calls = fun f =>
    ((calls.flatMap pairs).reverse.lookup f.key).getD
      (FieldValues.laid (SettingsFile.allFields files (calls.filterMap file?)) SettingsField.default f) := by
  funext f
  rw [winner, lastOverride?, lastFile?, Option.getD_or, FieldValues.laid, SettingsFile.allFields,
    reverse_lookup_flatMap]

/-- What sources that were added by calls give. -/
structure Layered (files : Files) (calls : List SettingsCall) (sources : SettingsSources) : Prop where
  values : ∃ below, SettingsSources.filesOver files sources.files Settings.defaults = .ok below ∧
    ∀ f : SettingsField,
      f.value? (SettingsSources.overridesOver sources.overrides below) = some (winner files calls f)
  loads : sources.load files = Settings.ofValues (winner files calls)
  fails : (∃ e, sources.load files = .error e) ↔
    ∃ f : SettingsField, f.accepts (winner files calls f) = false
  /-- Files may be added before or after overrides. -/
  moved : ∀ others, others.filterMap file? = calls.filterMap file? →
    others.flatMap pairs = calls.flatMap pairs →
    ∃ sources', runAll? {} others = some sources' ∧ sources'.load files = sources.load files

/-- The value of each field is that of its last override, else of the last file that sets it, else the
default. These values decide what is loaded, and whether it is. -/
theorem runAll_layered (plain : Plain files calls) :
    ∃ sources, runAll? {} calls = some sources ∧ Layered files calls sources := by
  obtain ⟨below, filesLaid, filed⟩ := FieldsHold.defaults.filesOver plain.files
  obtain ⟨os, parsed, holds⟩ := filed.overridesOver plain.pairs
  rw [← winner_eq] at holds
  have ran : runAll? {} calls = some ⟨calls.filterMap file?, os⟩ := by
    rw [runAll?_eq, parsed]
    rfl
  have loads : (⟨calls.filterMap file?, os⟩ : SettingsSources).load files =
      Settings.ofValues (winner files calls) := by
    rw [SettingsSources.load, filesLaid]
    exact holds.ofEntries
  refine ⟨_, ran, ⟨below, filesLaid, holds.value?⟩, loads, ?_, fun others sameFiles sameOverrides => ?_⟩
  · rw [loads]
    exact Settings.ofValues_error_iff _
  · exact ⟨_, by rw [runAll?_eq, sameFiles, sameOverrides, ← runAll?_eq, ran], rfl⟩

/-! ### A layer that loses -/

def baseText : String := "[build]\nclose_matching = 7\nend_offset = \"last-child\"\n"

def userText : String := "output.format = \"treeviz\"\n\"build.close_matching\" = \"strict\"\n"

def layeredFiles : Files := .ofResults [("base", .ok baseText.toUTF8), ("user", .ok userText.toUTF8)]

def layeredCalls : List SettingsCall :=
  [.override "output.show_loc" (.string "yes"), .file ⟨"base", true⟩, .file ⟨"none", false⟩,
   .overrides [("output.format", .null), ("output.format", .string "json-compact")], .file ⟨"user", true⟩]

theorem layeredFiles_fields : (layeredCalls.filterMap file?).map (·.fields? layeredFiles) =
    [SettingsFile.textFields? baseText, some [], SettingsFile.textFields? userText] := by
  have base : SettingsFile.content layeredFiles "base" = .ok baseText := decodeText_toUTF8 baseText
  have user : SettingsFile.content layeredFiles "user" = .ok userText := decodeText_toUTF8 userText
  have missing : SettingsFile.content layeredFiles "none" = .error .notFound := by
    refine SettingsFile.content_missing rfl fun stem => ?_
    have apart : ∀ short : String, short.toList.getLast? ≠ some 'l' → stem ++ ".toml" ≠ short := by
      rintro short last rfl
      exact last (by simp)
    rw [layeredFiles, Files.ofResults]
    dsimp only
    rw [Keyed.lookup_cons, if_neg (apart _ (by decide)), Keyed.lookup_cons, if_neg (apart _ (by decide))]
    exact ⟨_, rfl⟩
  simp only [layeredCalls, List.filterMap_cons, List.filterMap_nil, file?, List.map_cons, List.map_nil,
    SettingsFile.fields?, base, user, missing]
  rfl

theorem layeredCalls_plain : Plain layeredFiles layeredCalls where
  files := by
    have read : ∀ o ∈ (layeredCalls.filterMap file?).map (·.fields? layeredFiles), o.isSome := by
      rw [layeredFiles_fields]
      decide +kernel
    exact fun f member => read _ (List.mem_map_of_mem member)
  pairs := by
    have fields : ∀ p ∈ layeredCalls.flatMap pairs, p.2.isScalar ∧ ∃ f ∈ SettingsField.all, p.1 = f.key := by
      decide
    intro p member
    obtain ⟨scalar, f, -, key⟩ := fields p member
    exact ⟨scalar, f, key⟩

theorem runAll_layered_losing : Plain layeredFiles layeredCalls ∧
    ∃ sources, runAll? {} layeredCalls = some sources ∧ Layered layeredFiles layeredCalls sources ∧
      sources.load layeredFiles = .ok ⟨⟨.strict, .lastChild⟩, "json-compact", true⟩ := by
  obtain ⟨sources, ran, layered⟩ := runAll_layered layeredCalls_plain
  refine ⟨layeredCalls_plain, sources, ran, layered, ?_⟩
  have won : winner layeredFiles layeredCalls = fun f => ((lastOverride? layeredCalls f).or
      ([SettingsFile.textFields? baseText, some [], SettingsFile.textFields? userText].reverse.findSome?
        fun sets => (sets.getD []).reverse.lookup f)).getD f.default := by
    funext f
    rw [winner, lastFile?, ← layeredFiles_fields, ← List.map_reverse, List.findSome?_map]
    rfl
  rw [layered.loads, won]
  decide +kernel

end SettingsCall

end BlockMarkup
