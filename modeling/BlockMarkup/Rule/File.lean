import BlockMarkup.Files
import BlockMarkup.Json.Reader
import BlockMarkup.Rule.Spec
import BlockMarkup.Yaml.Value

/-!
# Rule files

A rule set can be kept in a file, as a mapping in JSON or YAML. The order of its keys is the order
of the rules. The extension of the file tells the format.
-/

namespace BlockMarkup

inductive RuleFileFormat where
  | json
  | yaml
  deriving DecidableEq, Repr

inductive RuleFileError where
  | unreadable (e : ReadError)
  | invalidJson
  | invalidYaml
  | rules (e : RuleError)
  deriving DecidableEq, Repr

namespace RuleFileError

def message : RuleFileError → String
  | unreadable e => "failed to read rule file: " ++ e.message
  | invalidJson => "invalid JSON in rule file: "
  | invalidYaml => "invalid YAML in rule file: "
  | rules e => e.message

end RuleFileError

namespace RuleFileFormat

def name : RuleFileFormat → String
  | json => "json"
  | yaml => "yaml"

def fileName (path : String) : String :=
  (pathParts path).getLast?.getD ""

/-- What follows the last dot of a name. A dot at the start begins no extension. -/
def extension? (fileName : String) : Option String :=
  match (fileName.splitOn ".").reverse with
  | ext :: stem :: more => if more.isEmpty && stem = "" then none else some ext
  | _ => none

/-- Two extensions stand for YAML, all else is read as JSON. -/
def ofPath (path : String) : RuleFileFormat :=
  match extension? (fileName path) with
  | some ext => if ext = "yaml" || ext = "yml" then yaml else json
  | none => json

def read (format : RuleFileFormat) (text : String) : Except RuleFileError Json.Value :=
  match format with
  | json =>
    match Json.read? text with
    | some v => .ok v
    | none => .error .invalidJson
  | yaml =>
    match Yaml.read? text with
    | some v => .ok v
    | none => .error .invalidYaml

end RuleFileFormat

namespace RuleSet

def ofText (format : RuleFileFormat) (text : String) : Except RuleFileError RuleSet :=
  match format.read text with
  | .error e => .error e
  | .ok v =>
    match ofValue v with
    | .ok set => .ok set
    | .error e => .error (.rules e)

def ofFile (files : Files) (path : String) : Except RuleFileError RuleSet :=
  match files.readText path with
  | .error e => .error (.unreadable e)
  | .ok text => ofText (.ofPath path) text

end RuleSet

end BlockMarkup
