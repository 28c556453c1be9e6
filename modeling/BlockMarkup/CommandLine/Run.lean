import BlockMarkup.CommandLine.Arguments
import BlockMarkup.Rule.File
import BlockMarkup.Settings.Sources
import BlockMarkup.Transform

/-!
# Running a request

A job reads its settings, then the rules, then the source, and transforms the source. The first
step that fails decides the message.
-/

namespace BlockMarkup.CommandLine

inductive JobError where
  | settings (e : SettingsError)
  | rules (path : String) (e : RuleFileError)
  | source (path : String) (e : ReadError)
  | transform (e : TransformError)
  deriving DecidableEq, Repr

def JobError.message : JobError → String
  | settings e => "Failed to load configuration: " ++ e.message
  | rules path e => "Failed to load rules from " ++ path ++ ": " ++ e.message
  | source path e => "Failed to read " ++ path ++ ": IO error: " ++ e.message
  | transform e => e.message

namespace Job

/-- The layers of the settings: a file over the defaults, options over the file. -/
def sources (job : Job) : SettingsSources where
  files := job.config.toList.map (⟨·, true⟩)
  overrides :=
    (job.format.toList.map fun name => (⟨"output", [.name "format"]⟩, .string name)) ++
    (if job.strictClose then
      [(⟨"build", [.name "close_matching"]⟩, .string "strict")] else []) ++
    (if job.showLoc then [(⟨"output", [.name "show_loc"]⟩, .bool true)] else [])

def readsInput (job : Job) : Bool := job.path = "-"

def paths (job : Job) : List String :=
  job.config.toList.flatMap SettingsFile.candidates ++ [job.rules] ++
    (if job.readsInput then [] else [job.path])

def source (job : Job) (files : Files) (input : ByteArray) : Except ReadError String :=
  if job.readsInput then decodeText input else files.readText job.path

def transform (settings : Settings) (rules : RuleSet) (source : String) :
    Except TransformError String :=
  Transform.execute settings.format ⟨settings.options, settings.showLoc⟩ rules source

def run (job : Job) (files : Files) (input : ByteArray) : Except JobError String :=
  match job.sources.load files with
  | .error e => .error (.settings e)
  | .ok settings =>
    match RuleSet.ofFile files job.rules with
    | .error e => .error (.rules job.rules e)
    | .ok rules =>
      match job.source files input with
      | .error e => .error (.source job.path e)
      | .ok source =>
        match transform settings rules source with
        | .error e => .error (.transform e)
        | .ok output => .ok output

end Job

/-! ### Outcomes -/

structure Outcome where
  exitCode : Nat
  output : String
  errors : String
  deriving DecidableEq, Repr

namespace Outcome

def success (output : String) : Outcome := ⟨0, output, ""⟩

/-- The output as a text that ends with a line break. -/
def endLine (output : String) : String := if output.endsWith "\n" then output else output ++ "\n"

def ofJob : Except JobError String → Outcome
  | .ok output => success (endLine output)
  | .error e => ⟨1, "", "Error: " ++ e.message ++ "\n"⟩

end Outcome

/-- A name, filled up with blanks to sixteen characters, and a description. -/
def formatLine (name description : String) : String :=
  "  " ++ String.ofList (name.toList.rightpad 16 ' ') ++ " " ++ description ++ "\n"

def formatList : String :=
  "Available formats:\n\n" ++
    String.join (Transform.available.map fun (name, description) => formatLine name description)

def usage : String :=
  "Usage: ruletree [OPTIONS] --rules <rules> <path>\n" ++
  "       ruletree --list-formats\n" ++
  "\n" ++
  "  <path>                 Source text, or - for standard input\n" ++
  "  -r, --rules <rules>    Rule file (.json, .yaml or .yml)\n" ++
  "  -c, --config <config>  TOML file over the defaults\n" ++
  "  -f, --format <format>  Output format\n" ++
  "      --strict-close     Closing tokens must match opening ones\n" ++
  "      --show-loc         Show locations in outlines\n" ++
  "      --list-formats     List output formats\n" ++
  "  -h, --help             Print this text\n" ++
  "  -V, --version          Print the version\n"

def Request.outcome (files : Files) (input : ByteArray) : Request → Outcome
  | .run job => .ofJob (job.run files input)
  | .listFormats => .success formatList
  | .version => .success "ruletree 0.1.0\n"
  | .help => .success usage
  | .misuse => ⟨2, "", usage⟩

end BlockMarkup.CommandLine
