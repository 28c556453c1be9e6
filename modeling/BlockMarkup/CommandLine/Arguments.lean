/-!
# Arguments

The command takes the path of a source and options. An option with a value has it in the next
argument or attached to its name, with or without `=`. After `--` nothing is an option. Each option
can be given once.
-/

namespace BlockMarkup.CommandLine

inductive ValueOption where
  | rules
  | config
  | format
  deriving DecidableEq, Repr

inductive Flag where
  | strictClose
  | showLoc
  | listFormats
  deriving DecidableEq, Repr

structure Job where
  /-- The path of the source; a single hyphen stands for standard input. -/
  path : String
  rules : String
  config : Option String
  format : Option String
  strictClose : Bool
  showLoc : Bool
  deriving DecidableEq, Repr

inductive Request where
  | run (job : Job)
  | listFormats
  | version
  | help
  | misuse
  deriving DecidableEq, Repr

/-! ### Single arguments -/

inductive Argument where
  | plain (text : String)
  | value (option : ValueOption) (attached : Option String)
  | flag (f : Flag)
  | version
  | help
  | endOfOptions
  | unknown
  deriving DecidableEq, Repr

namespace Argument

/-- An option by its long name and the text after `=`, if there is one. -/
def ofLong (name : String) (attached : Option String) : Argument :=
  if name = "rules" then value .rules attached
  else if name = "config" then value .config attached
  else if name = "format" then value .format attached
  else if attached.isSome then unknown
  else if name = "strict-close" then flag .strictClose
  else if name = "show-loc" then flag .showLoc
  else if name = "list-formats" then flag .listFormats
  else if name = "version" then version
  else if name = "help" then help
  else unknown

def attachedTo (cs : List Char) : Option String :=
  match cs with
  | [] => none
  | '=' :: rest => some (String.ofList rest)
  | cs => some (String.ofList cs)

/-- An option by its short name, with what follows that. -/
def ofShort (name : Char) (rest : List Char) : Argument :=
  if name = 'r' then value .rules (attachedTo rest)
  else if name = 'c' then value .config (attachedTo rest)
  else if name = 'f' then value .format (attachedTo rest)
  else if name = 'V' then version
  else if name = 'h' then help
  else unknown

def ofString (s : String) : Argument :=
  match s.toList with
  | ['-', '-'] => endOfOptions
  | '-' :: '-' :: cs =>
    let name := String.ofList (cs.takeWhile (· != '='))
    match cs.dropWhile (· != '=') with
    | _ :: attached => ofLong name (some (String.ofList attached))
    | [] => ofLong name none
  | '-' :: c :: rest => ofShort c rest
  | _ => plain s

end Argument

/-! ### All arguments -/

structure Arguments where
  path : Option String := none
  values : List (ValueOption × String) := []
  flags : List Flag := []

namespace Arguments

/-- Without a list of formats to be shown, there must be a source and rules. -/
def request (a : Arguments) : Request :=
  if a.flags.contains .listFormats then .listFormats
  else
    match a.path, a.values.lookup .rules with
    | some path, some rules => .run
        { path, rules, config := a.values.lookup .config, format := a.values.lookup .format,
          strictClose := a.flags.contains .strictClose, showLoc := a.flags.contains .showLoc }
    | _, _ => .misuse

def addPath? (a : Arguments) (path : String) : Option Arguments :=
  if a.path.isSome then none else some { a with path := some path }

def addValue? (a : Arguments) (o : ValueOption) (v : String) : Option Arguments :=
  if (a.values.lookup o).isSome then none else some { a with values := (o, v) :: a.values }

def addFlag? (a : Arguments) (f : Flag) : Option Arguments :=
  if a.flags.contains f then none else some { a with flags := f :: a.flags }

def readPlain (a : Arguments) : List String → Request
  | [] => a.request
  | arg :: rest =>
    match a.addPath? arg with
    | some a => readPlain a rest
    | none => .misuse

/-- Reads arguments up to the first one that decides what is asked for. `waiting` is an option that
waits for its value. -/
def readFrom (a : Arguments) (waiting : Option ValueOption) : List String → Request
  | [] => if waiting.isSome then .misuse else a.request
  | arg :: rest =>
    match waiting, Argument.ofString arg with
    | some o, .plain text =>
      match a.addValue? o text with
      | some a => readFrom a none rest
      | none => .misuse
    | some _, _ => .misuse
    | none, .plain text =>
      match a.addPath? text with
      | some a => readFrom a none rest
      | none => .misuse
    | none, .value o none => readFrom a (some o) rest
    | none, .value o (some text) =>
      match a.addValue? o text with
      | some a => readFrom a none rest
      | none => .misuse
    | none, .flag f =>
      match a.addFlag? f with
      | some a => readFrom a none rest
      | none => .misuse
    | none, .version => .version
    | none, .help => .help
    | none, .endOfOptions => readPlain a rest
    | none, .unknown => .misuse

end Arguments

def Request.ofArguments (args : List String) : Request := Arguments.readFrom {} none args

end BlockMarkup.CommandLine
