import BlockMarkup.Rule.Compiled
import BlockMarkup.Token.Basic

/-!
# Scanning

At each position the first rule with a match that is not empty makes a token. Characters that no
rule matches are gathered and make one text token when a rule matches or the source ends.

Rules whose patterns match only at the start of the rest always lead to tokens that cover the
source. A pattern can escape that (its parentheses may close the ones around it); then the match
may lie further on, and what is consumed is as many bytes as the match has. That can end inside a
character, which no token can express, so scanning has no result there.
-/

namespace BlockMarkup

def slice (cs : List Char) (start stop : Nat) : String :=
  String.ofList ((cs.drop start).take (stop - start))

/-- Drops characters of this many bytes in all, none if that would split a character. -/
def dropBytes : Nat → List Char → Option (List Char)
  | 0, cs => some cs
  | n + 1, c :: rest => if c.utf8Size ≤ n + 1 then dropBytes (n + 1 - c.utf8Size) rest else none
  | _ + 1, [] => none

structure Found where
  value : String
  params : Option Params
  deriving DecidableEq, Repr

def CompiledRule.find? (r : CompiledRule) (rest : List Char) : Option Found :=
  (r.program.find rest).map fun m =>
    let group := fun i => (m.group (i + 1)).map fun g => slice rest g.1 g.2
    { value := slice rest m.start m.stop
      params := if r.hasParams then some ((List.range r.program.groups).map group) else none }

/-- The first rule with a match that is not empty. -/
def firstMatch (rest : List Char) : List CompiledRule → Option (CompiledRule × Found)
  | [] => none
  | r :: rules =>
    match r.find? rest with
    | some found => if found.value.isEmpty then firstMatch rest rules else some (r, found)
    | none => firstMatch rest rules

structure Scanner where
  rest : List Char
  offset : Nat
  /-- The characters since the last token, last one first. -/
  pending : List Char
  tokens : List Token

namespace Scanner

def start (source : List Char) : Scanner := ⟨source, 0, [], []⟩

/-- Makes a text token of the pending characters, if there are any. -/
def flush (s : Scanner) : Scanner :=
  match s.pending with
  | [] => s
  | pending =>
    let loc : Location := ⟨s.offset - pending.length, s.offset⟩
    { s with pending := [], tokens := .text (String.ofList pending.reverse) loc :: s.tokens }

/-- Adds the token of a match and goes on after as many bytes as it has. -/
def emit (s : Scanner) (r : CompiledRule) (found : Found) : Option Scanner :=
  let s := s.flush
  let offset := s.offset + found.value.length
  let token : Token :=
    { type := r.name
      value := found.value
      params := found.params
      loc := ⟨s.offset, offset⟩
      alternative := r.alternativeIndex found.value }
  (dropBytes found.value.utf8ByteSize s.rest).map fun rest =>
    { s with rest, offset, tokens := token :: s.tokens }

/-- One token, or one more pending character. -/
def step (rules : List CompiledRule) (s : Scanner) : Option Scanner :=
  match firstMatch s.rest rules with
  | some (r, found) => s.emit r found
  | none =>
    match s.rest with
    | [] => some s
    | c :: rest => some { s with rest, offset := s.offset + 1, pending := c :: s.pending }

def run (rules : List CompiledRule) : Nat → Scanner → Option Scanner
  | 0, s => some s
  | fuel + 1, s =>
    if s.rest.isEmpty then some s
    else
      match s.step rules with
      | some s => run rules fuel s
      | none => none

end Scanner

/-- The tokens of a source. None if a match ends inside a character. -/
def tokenize (rules : List CompiledRule) (source : String) : Option (List Token) :=
  let cs := source.toList
  ((Scanner.start cs).run rules cs.length).map fun s => s.flush.tokens.reverse

end BlockMarkup
