import BlockMarkup.Json.Value

/-!
# Printing JSON

Two layouts: `compact` has no blanks at all, `pretty` puts every element on a line of its own. The
text of a value is put in front of what follows it.
-/

namespace BlockMarkup.Json

/-! ### Strings -/

def hexDigit (n : Nat) : Char := Char.ofNat (if n < 10 then 48 + n else 87 + n)

/-- Quotes, backslashes and control characters are escaped. -/
def escapeChar (c : Char) : List Char :=
  if c = '"' then ['\\', '"']
  else if c = '\\' then ['\\', '\\']
  else if c = '\n' then ['\\', 'n']
  else if c = '\r' then ['\\', 'r']
  else if c = '\t' then ['\\', 't']
  else if c = '\x08' then ['\\', 'b']
  else if c = '\x0c' then ['\\', 'f']
  else if c.toNat < 32 then ['\\', 'u', '0', '0', hexDigit (c.toNat / 16), hexDigit (c.toNat % 16)]
  else [c]

def printString (s : String) (after : List Char) : List Char :=
  '"' :: (s.toList.flatMap escapeChar ++ '"' :: after)

def printInt (n : Int) (after : List Char) : List Char :=
  (if n < 0 then '-' :: Nat.toDigits 10 n.natAbs else Nat.toDigits 10 n.natAbs) ++ after

/-! ### Layouts -/

/-- The blanks between the parts of a value. -/
structure Layout where
  /-- In front of an element at a depth of nesting, and of the end of what holds elements. -/
  line : Nat → List Char
  /-- Behind a colon. -/
  gap : List Char
  blank : ∀ depth, ∀ c ∈ line depth ++ gap, c = ' ' ∨ c = '\n'

def Layout.compact : Layout := ⟨fun _ => [], [], by simp⟩

/-- Two blanks for each level. -/
def Layout.pretty : Layout where
  line depth := '\n' :: List.replicate (2 * depth) ' '
  gap := [' ']
  blank depth c member := by
    rcases List.mem_append.mp member with line | gap
    · rcases List.mem_cons.mp line with start | indent
      · exact .inr start
      · exact .inl (List.eq_of_mem_replicate indent)
    · exact .inl (List.mem_singleton.mp gap)

mutual

def Value.write (l : Layout) (depth : Nat) : Value → List Char → List Char
  | .null, after => ['n', 'u', 'l', 'l'] ++ after
  | .bool true, after => ['t', 'r', 'u', 'e'] ++ after
  | .bool false, after => ['f', 'a', 'l', 's', 'e'] ++ after
  | .int n, after => printInt n after
  | .real text, after => text.toList ++ after
  | .string s, after => printString s after
  | .array [], after => ['[', ']'] ++ after
  | .array (v :: rest), after =>
    '[' :: (l.line (depth + 1) ++ v.write l (depth + 1) (writeItems l depth rest after))
  | .object [], after => ['\x7b', '\x7d'] ++ after
  | .object ((k, v) :: rest), after =>
    '\x7b' :: (l.line (depth + 1) ++
      printString k (':' :: (l.gap ++ v.write l (depth + 1) (writeMembers l depth rest after))))

/-- The further elements of an array and its end. -/
def writeItems (l : Layout) (depth : Nat) : List Value → List Char → List Char
  | [], after => l.line depth ++ ']' :: after
  | v :: rest, after =>
    ',' :: (l.line (depth + 1) ++ v.write l (depth + 1) (writeItems l depth rest after))

def writeMembers (l : Layout) (depth : Nat) : List (String × Value) → List Char → List Char
  | [], after => l.line depth ++ '\x7d' :: after
  | (k, v) :: rest, after =>
    ',' :: (l.line (depth + 1) ++
      printString k (':' :: (l.gap ++ v.write l (depth + 1) (writeMembers l depth rest after))))

end

def Value.print (pretty : Bool) (v : Value) : String :=
  String.ofList (v.write (if pretty then .pretty else .compact) 0 [])

end BlockMarkup.Json
