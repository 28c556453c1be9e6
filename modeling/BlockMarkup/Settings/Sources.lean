import BlockMarkup.Files
import BlockMarkup.Settings.Key
import BlockMarkup.Toml.Reader
import BlockMarkup.Tree.Build

/-!
# Settings and where they come from

The layers of the settings are, from the lowest one up, the defaults, files in the order in which
they were added, and overrides of single keys. `SettingsSources.load` lays them over each other and
reads the fields off the result.
-/

namespace BlockMarkup

structure Settings where
  options : BuildOptions
  format : String
  showLoc : Bool
  deriving DecidableEq, Repr

inductive SettingsError where
  | unreadable (path : String) (e : ReadError)
  | malformed (path : String)
  /-- A section has a field that is missing or of no use. -/
  | invalidSection (name : String)
  deriving DecidableEq, Repr

def SettingsError.message : SettingsError → String
  | unreadable path e => path ++ ": " ++ e.message
  | malformed path => path ++ ": invalid TOML"
  | invalidSection name => "invalid section \"" ++ name ++ "\""

namespace Settings

def defaults : List (String × Setting) :=
  [("build", .table
    [("close_matching", .string "unconditional"), ("end_offset", .string "last-text")]),
   ("output", .table [("format", .string "json"), ("show_loc", .bool false)])]

def closeMatchingNames : List (String × CloseMatching) :=
  [("unconditional", .unconditional), ("strict", .strict)]

def endOffsetNames : List (String × EndOffset) :=
  [("last-text", .lastText), ("last-child", .lastChild)]

def readOptions? (v : Setting) : Option BuildOptions :=
  (v.fields? "close_matching" "end_offset").bind fun (close, stop) =>
    match close.choice? closeMatchingNames, stop.choice? endOffsetNames with
    | some close, some stop => some ⟨close, stop⟩
    | _, _ => none

def readOutput? (v : Setting) : Option (String × Bool) :=
  (v.fields? "format" "show_loc").bind fun (format, showLoc) =>
    match format.text?, showLoc.flag? with
    | some format, some showLoc => some (format, showLoc)
    | _, _ => none

def ofEntries (top : List (String × Setting)) : Except SettingsError Settings :=
  match (top.lookup "build").bind readOptions? with
  | none => .error (.invalidSection "build")
  | some options =>
    match (top.lookup "output").bind readOutput? with
    | none => .error (.invalidSection "output")
    | some (format, showLoc) => .ok ⟨options, format, showLoc⟩

end Settings

/-- A file of settings. One that is not required may be missing or unreadable, but not malformed. -/
structure SettingsFile where
  path : String
  isRequired : Bool
  deriving DecidableEq, Repr

namespace SettingsFile

/-- The path with an extension after it, if it ends in the name of a file. -/
def pathWithExtension? (path : String) : Option String :=
  let parts := (path.splitOn "/").reverse.dropWhile fun part => part = "" || part = "."
  match parts with
  | [] => none
  | last :: _ => if last = ".." then none else some ("/".intercalate parts.reverse ++ ".toml")

def candidates (path : String) : List String := path :: (pathWithExtension? path).toList

def content (files : Files) (path : String) : Except ReadError String :=
  match (candidates path).findSome? fun p => (files.read p).toOption with
  | some bytes => decodeText bytes
  | none => .error .notFound

/-- Lays the entries of a file over the layers below. The keys at its top may have steps. -/
def entriesOver (entries : Toml.Entries) (below : List (String × Setting)) :
    List (String × Setting) :=
  entries.foldl (fun below (key, v) =>
    ((SettingKey.ofString? key).getD ⟨key, []⟩).set (.ofToml v) below) below

def layOver (files : Files) (f : SettingsFile) (below : List (String × Setting)) :
    Except SettingsError (List (String × Setting)) :=
  match content files f.path with
  | .error e => if f.isRequired then .error (.unreadable f.path e) else .ok below
  | .ok text =>
    match Toml.read? text with
    | some entries => .ok (entriesOver entries below)
    | none => .error (.malformed f.path)

end SettingsFile

/-- Files and overrides, each in the order in which they were added. -/
structure SettingsSources where
  files : List SettingsFile := []
  overrides : List (SettingKey × Setting) := []

namespace SettingsSources

def addFile (s : SettingsSources) (f : SettingsFile) : SettingsSources :=
  { s with files := s.files ++ [f] }

/-- Adds an override. None if the key is not well formed. -/
def addOverride? (s : SettingsSources) (key : String) (v : Setting) : Option SettingsSources :=
  (SettingKey.ofString? key).map fun key => { s with overrides := s.overrides ++ [(key, v)] }

/-- Adds overrides, all or none. -/
def addOverrides? (s : SettingsSources) : List (String × Setting) → Option SettingsSources
  | [] => some s
  | (key, v) :: rest => (s.addOverride? key v).bind fun s => s.addOverrides? rest

def filesOver (files : Files) :
    List SettingsFile → List (String × Setting) → Except SettingsError (List (String × Setting))
  | [], below => .ok below
  | f :: rest, below =>
    match f.layOver files below with
    | .ok below => filesOver files rest below
    | .error e => .error e

def overridesOver (overrides : List (SettingKey × Setting)) (below : List (String × Setting)) :
    List (String × Setting) :=
  overrides.foldl (fun below (key, v) => key.set v below) below

def load (s : SettingsSources) (files : Files) : Except SettingsError Settings :=
  match filesOver files s.files Settings.defaults with
  | .ok below => Settings.ofEntries (overridesOver s.overrides below)
  | .error e => .error e

end SettingsSources

end BlockMarkup
