import BlockMarkup.Unicode.Query

/-!
# Text with escapes

Two written forms of a text in which every character can be seen: `quoted` is the form between
double quotes, `escaped` the form without quotes around it.
-/

namespace BlockMarkup.Text

def hexDigits (n : Nat) : List Char := Nat.toDigits 16 n

/-- A character by its number: `\u`, then the number in braces. -/
def numbered (c : Char) : List Char := ['\\', 'u', '\x7b'] ++ hexDigits c.toNat ++ ['\x7d']

/-- One character. Both quotes are escaped on demand, and so are marks that would join the
character before them. -/
def escapeChar (singleQuote extending : Bool) (c : Char) : List Char :=
  if c = '\x00' then ['\\', '0']
  else if c = '\t' then ['\\', 't']
  else if c = '\r' then ['\\', 'r']
  else if c = '\n' then ['\\', 'n']
  else if c = '\\' then ['\\', '\\']
  else if c = '"' then ['\\', '"']
  else if c = '\'' then if singleQuote then ['\\', '\''] else ['\'']
  else if 32 ≤ c.toNat && c.toNat < 127 then [c]
  else if extending && Unicode.graphemeExtendChars.contains c then numbered c
  else if Unicode.unprintableChars.contains c then numbered c
  else [c]

def quoted (text : String) : String :=
  String.ofList ('"' :: text.toList.flatMap (escapeChar false true) ++ ['"'])

/-- The form without quotes around it, as characters. A joining mark is escaped only at the
start. -/
def escapedChars : List Char → List Char
  | [] => []
  | c :: rest => escapeChar true true c ++ rest.flatMap (escapeChar true false)

def escaped (text : String) : String := String.ofList (escapedChars text.toList)

end BlockMarkup.Text
