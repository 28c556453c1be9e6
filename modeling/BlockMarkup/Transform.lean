import BlockMarkup.Document
import BlockMarkup.Format.Registry

/-!
# Transforms

A transform turns source text into output text: a format of the registry, or one of two ways to
write the token stream.
-/

namespace BlockMarkup

structure TransformSettings where
  options : BuildOptions
  showLoc : Bool

inductive TransformError where
  | failed (e : BuildError)
  | format (e : FormatError)
  | unknown (name : String)
  deriving DecidableEq, Repr

def TransformError.message : TransformError → String
  | failed e => "Transform failed: " ++ e.message
  | format e => e.message
  | unknown name => "Unknown transform: " ++ name

namespace Transform

def tokenFormats : List (String × String) :=
  [("tokens-json", "Flat token stream as indented JSON"),
   ("tokens-simple", "Token values joined back into the source text")]

/-- Every transform with its description, document formats first. -/
def available : List (String × String) := FormatRegistry.standard.descriptions ++ tokenFormats

def ofTokens (rules : RuleSet) (source : String) (write : List Token → String) :
    Except TransformError String :=
  match scanSource rules source with
  | .ok tokens => .ok (write tokens)
  | .error e => .error (.failed e)

def ofDocument (o : BuildOptions) (rules : RuleSet) (source : String)
    (write : Document → Except FormatError String) : Except TransformError String :=
  match build o rules source with
  | .ok d =>
    match write d with
    | .ok output => .ok output
    | .error e => .error (.format e)
  | .error e => .error (.failed e)

/-- The parameters of an outline, as texts. -/
def outlineParams (settings : TransformSettings) : List (String × String) :=
  [("show-loc", toString settings.showLoc)]

def execute (name : String) (settings : TransformSettings) (rules : RuleSet) (source : String) :
    Except TransformError String :=
  if name = "tokens-json" then ofTokens rules source (tokensToJson true)
  else if name = "tokens-simple" then ofTokens rules source detokenize
  else if name = "treeviz" then
    ofDocument settings.options rules source fun d => .ok (Outline.renderWith (outlineParams settings) d)
  else if FormatRegistry.standard.contains name then
    ofDocument settings.options rules source fun d => FormatRegistry.standard.render d name
  else .error (.unknown name)

end Transform

end BlockMarkup
