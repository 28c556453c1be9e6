import BlockMarkup.Pattern.Ast
import BlockMarkup.Unicode.Folding

/-!
# What patterns mean

An expression is a pattern in which flags have taken effect: every character class is a set, every
anchor says what it tests. `Expr.ofAst?` gives the expression of a written pattern, or tells that
it names an unknown property or could match half a character.
-/

namespace BlockMarkup.Pattern

open Unicode (CharSet)

/-- A test on the characters before and after a position. -/
inductive Look where
  | textStart
  | textEnd
  | lineStart (crlf : Bool)
  | lineEnd (crlf : Bool)
  | word (edge : WordEdge) (unicode : Bool)
  deriving DecidableEq, Repr

/-- An expression. Captured groups are numbered from one. -/
inductive Expr where
  | empty
  | char (c : Char)
  | set (s : CharSet)
  | look (l : Look)
  | group (index : Nat) (body : Expr)
  | concat (items : List Expr)
  | choice (branches : List Expr)
  | iterate (least : Nat) (most : Option Nat) (greedy : Bool) (body : Expr)

structure Flags where
  caseInsensitive : Bool := false
  multiLine : Bool := false
  dotMatchesNewline : Bool := false
  swapGreed : Bool := false
  unicode : Bool := true
  crlf : Bool := false
  deriving DecidableEq, Repr

def Flags.set (f : Flags) : FlagSetting → Flags
  | (.caseInsensitive, b) => { f with caseInsensitive := b }
  | (.multiLine, b) => { f with multiLine := b }
  | (.dotMatchesNewline, b) => { f with dotMatchesNewline := b }
  | (.swapGreed, b) => { f with swapGreed := b }
  | (.unicode, b) => { f with unicode := b }
  | (.crlf, b) => { f with crlf := b }
  | (.ignoreSpace, _) => f

def Flags.setAll (f : Flags) (items : List FlagSetting) : Flags := items.foldl Flags.set f

/-! ### Classes -/

def AsciiClass.members : AsciiClass → CharSet
  | .alnum => .ofRanges [(48, 57), (65, 90), (97, 122)]
  | .alpha => .ofRanges [(65, 90), (97, 122)]
  | .ascii => .ofRanges [(0, 127)]
  | .blank => .ofRanges [(9, 9), (32, 32)]
  | .cntrl => .ofRanges [(0, 31), (127, 127)]
  | .digit => .ofRanges [(48, 57)]
  | .graph => .ofRanges [(33, 126)]
  | .lower => .ofRanges [(97, 122)]
  | .print => .ofRanges [(32, 126)]
  | .punct => .ofRanges [(33, 47), (58, 64), (91, 96), (123, 126)]
  | .space => .ofRanges [(9, 13), (32, 32)]
  | .upper => .ofRanges [(65, 90)]
  | .word => .ofRanges [(48, 57), (65, 90), (95, 95), (97, 122)]
  | .xdigit => .ofRanges [(48, 57), (65, 70), (97, 102)]

def PerlClass.members (unicode : Bool) : PerlClass → CharSet
  | .digit => if unicode then Unicode.digitChars else AsciiClass.digit.members
  | .space => if unicode then Unicode.spaceChars else AsciiClass.space.members
  | .word => if unicode then Unicode.wordChars else AsciiClass.word.members

def applyOperator : SetOperator → CharSet → CharSet → CharSet
  | .inter => CharSet.inter
  | .diff => CharSet.diff
  | .symmDiff => CharSet.symmDiff

/-- The members together with those that differ from them in case, if case does not matter.
Without Unicode only ASCII letters have case. -/
def foldIf (f : Flags) (s : CharSet) : CharSet :=
  if !f.caseInsensitive then s
  else if f.unicode then s.caseFold
  else
    (List.range 26).foldl (fun out i =>
      let lower := 97 + i
      let upper := 65 + i
      if s.containsCode lower || s.containsCode upper then
        (out.insert lower lower).insert upper upper
      else out) s

def negateIf (negated : Bool) (s : CharSet) : CharSet := if negated then s.complement else s

/-- A negated class without Unicode would hold bytes that are no characters. -/
def asciiOnly (f : Flags) (s : CharSet) : Option CharSet :=
  if f.unicode || s.isAscii then some s else none

/-- Without Unicode a class holds ASCII characters only. -/
def codeIn (f : Flags) (c : Literal) : Option Nat :=
  if f.unicode || c.char.toNat < 128 then some c.char.toNat else none

def propertyMembers (f : Flags) (query : Unicode.Query) (negated : Bool) : Option CharSet :=
  if f.unicode then query.members.map fun s => negateIf negated (foldIf f s) else none

mutual

/-- The members of what stands in brackets. Case is folded where a set is negated or takes part in
an operation, and at the outermost bracket. -/
def ClassSet.members (f : Flags) : ClassSet → Option CharSet
  | .empty => some .empty
  | .literal c => (codeIn f c).map fun n => .ofRanges [(n, n)]
  | .range a b => (codeIn f a).bind fun a => (codeIn f b).map fun b => .ofRanges [(a, b)]
  | .ascii kind negated => asciiOnly f (negateIf negated (foldIf f kind.members))
  | .perl kind negated => asciiOnly f (negateIf negated (kind.members f.unicode))
  | .property query negated => propertyMembers f query negated
  | .bracketed negated set =>
    (set.members f).bind fun s => asciiOnly f (negateIf negated (foldIf f s))
  | .union items => ClassSet.membersOfAll f items
  | .operation operator left right =>
    (left.members f).bind fun l => (right.members f).map fun r =>
      applyOperator operator (foldIf f l) (foldIf f r)

def ClassSet.membersOfAll (f : Flags) : List ClassSet → Option CharSet
  | [] => some .empty
  | item :: rest => (item.members f).bind fun s => (ClassSet.membersOfAll f rest).map s.union

end

/-! ### Expressions -/

namespace Expr

/-- A character, or the class of those that differ from it in case. A byte above 127 is no
character. -/
def ofLiteral? (f : Flags) (c : Literal) : Option Expr :=
  if !f.unicode && c.byteEscape && c.char.toNat > 127 then none
  else if !f.caseInsensitive then some (.char c.char)
  else if f.unicode then
    match Unicode.Folding.variants c.char.toNat with
    | [] => some (.char c.char)
    | variants => some (.set (.ofRanges ((c.char.toNat :: variants).map fun n => (n, n))))
  else if c.char.isAlpha then some (.set (foldIf f (.singleton c.char)))
  else some (.char c.char)

def dot? (f : Flags) : Option Expr :=
  if !f.unicode then none
  else if f.dotMatchesNewline then some (.set .all)
  else if f.crlf then some (.set (CharSet.complement (.ofRanges [(10, 10), (13, 13)])))
  else some (.set (CharSet.complement (.ofRanges [(10, 10)])))

def ofAnchor (f : Flags) : Anchor → Expr
  | .caret => .look (if f.multiLine then .lineStart f.crlf else .textStart)
  | .dollar => .look (if f.multiLine then .lineEnd f.crlf else .textEnd)
  | .textStart => .look .textStart
  | .textEnd => .look .textEnd
  | .word edge => .look (.word edge f.unicode)

mutual

/-- The expression of a pattern under the flags around it, and the flags that it leaves in force
for what follows it in the same group. -/
def ofAst? (f : Flags) : Ast → Option (Expr × Flags)
  | .empty => some (.empty, f)
  | .settings items => some (.empty, f.setAll items)
  | .literal c => (ofLiteral? f c).map (·, f)
  | .dot => (dot? f).map (·, f)
  | .anchor a => some (ofAnchor f a, f)
  | .perl kind negated =>
    (asciiOnly f (negateIf negated (kind.members f.unicode))).map fun s => (.set s, f)
  | .property query negated => (propertyMembers f query negated).map fun s => (.set s, f)
  | .bracketed negated inner =>
    (inner.members f).bind fun s =>
      (asciiOnly f (negateIf negated (foldIf f s))).map fun s => (.set s, f)
  | .repetition least most greedy body =>
    (ofAst? f body).map fun (e, f) => (.iterate least most (greedy != f.swapGreed) e, f)
  | .group (.capturing index) body => (ofAst? f body).map fun (e, _) => (.group index e, f)
  | .group (.plain items) body => (ofAst? (f.setAll items) body).map fun (e, _) => (e, f)
  | .alternation branches => (ofAsts? f branches).map fun (es, f) => (.choice es, f)
  | .concat items => (ofAsts? f items).map fun (es, f) => (.concat es, f)

def ofAsts? (f : Flags) : List Ast → Option (List Expr × Flags)
  | [] => some ([], f)
  | item :: rest =>
    (ofAst? f item).bind fun (e, f) => (ofAsts? f rest).map fun (es, f) => (e :: es, f)

end

end Expr

end BlockMarkup.Pattern
