import BlockMarkup.Rule.Compiled
import BlockMarkup.Token.Scan
import BlockMarkup.Tree.Build

/-!
# From source to document

`build` compiles rules, scans the source and builds the tree.
-/

namespace BlockMarkup

inductive BuildError where
  | rules (e : RuleError)
  | tree (e : SyntaxError)
  /-- A match ended inside a character. -/
  | splitCharacter
  deriving DecidableEq, Repr

def BuildError.message : BuildError → String
  | rules e => "configuration error: " ++ e.message
  | tree e => "syntax error: " ++ e.message
  | splitCharacter => "a match ended inside a character"

def scanSource (rules : RuleSet) (source : String) : Except BuildError (List Token) :=
  match rules.compile with
  | .error e => .error (.rules e)
  | .ok compiled =>
    match tokenize compiled source with
    | none => .error .splitCharacter
    | some tokens => .ok tokens

def build (o : BuildOptions) (rules : RuleSet) (source : String) : Except BuildError Document :=
  match scanSource rules source with
  | .error e => .error e
  | .ok tokens =>
    match buildNodes o tokens with
    | .error e => .error (.tree e)
    | .ok children => .ok { children, loc := ⟨0, source.length⟩ }

end BlockMarkup
