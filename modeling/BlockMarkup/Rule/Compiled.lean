import BlockMarkup.Pattern
import BlockMarkup.Rule.Spec

/-!
# Compiled rules

A rule is compiled to a pattern that matches at the start of the text. Literals are escaped, so
they match verbatim; the alternatives of a list share one group, which reports the literal that
matched.
-/

namespace BlockMarkup

namespace Rule

/-- The literals of a list, escaped, with a bar between neighbours. -/
def alternation : List String → List Char
  | [] => []
  | [text] => Pattern.escape text.toList
  | text :: rest => Pattern.escape text.toList ++ '|' :: alternation rest

def patternSource : Rule → List Char
  | literal text => ['\\', 'A', '(', '?', ':'] ++ Pattern.escape text.toList ++ [')']
  | pattern source _ => ['\\', 'A', '(', '?', ':'] ++ source.toList ++ [')']
  | alternatives texts => ['\\', 'A', '('] ++ alternation texts ++ [')']

/-- Switches on what a flag letter stands for. Three letters mean nothing here; none if the letter
is unknown. -/
def setFlag? (flags : Pattern.Flags) (letter : Char) : Option Pattern.Flags :=
  match letter with
  | 'i' => some { flags with caseInsensitive := true }
  | 'm' => some { flags with multiLine := true }
  | 's' => some { flags with dotMatchesNewline := true }
  | 'g' | 'y' | 'u' => some flags
  | _ => none

/-- Switches on flags from left to right, up to the first unknown letter. -/
def setFlags (flags : Pattern.Flags) : List Char → Except Char Pattern.Flags
  | [] => .ok flags
  | letter :: rest =>
    match setFlag? flags letter with
    | some flags => setFlags flags rest
    | none => .error letter

def flagLetters : Rule → List Char
  | pattern _ flags => flags.toList
  | _ => []

def literals? : Rule → Option (List String)
  | alternatives texts => some texts
  | _ => none

end Rule

structure CompiledRule where
  name : String
  source : String
  program : Pattern.Program
  alternatives : Option (List String)

namespace CompiledRule

def hasParams (r : CompiledRule) : Bool := 0 < r.program.groups

/-- The first position of a text among the literals of a list rule. -/
def alternativeIndex (r : CompiledRule) (text : String) : Option Nat :=
  r.alternatives.bind (·.findIdx? (· = text))

end CompiledRule

/-- Compiles one rule. Its flags are checked before its pattern. -/
def Rule.compile (name : String) (rule : Rule) : Except RuleError CompiledRule :=
  match setFlags {} rule.flagLetters with
  | .error flag => .error (.unsupportedFlag name flag)
  | .ok flags =>
    match Pattern.compile? flags rule.patternSource with
    | none => .error (.invalidPattern name)
    | some program => .ok
      { name, source := String.ofList rule.patternSource, program, alternatives := rule.literals? }

def compileAll : List (String × Rule) → Except RuleError (List CompiledRule)
  | [] => .ok []
  | (name, rule) :: rest =>
    match rule.compile name with
    | .error e => .error e
    | .ok compiled =>
      match compileAll rest with
      | .error e => .error e
      | .ok others => .ok (compiled :: others)

def RuleSet.compile (set : RuleSet) : Except RuleError (List CompiledRule) := compileAll set.rules

end BlockMarkup
