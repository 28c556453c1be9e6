import BlockMarkup.Pattern.Expr

/-!
# Sizes of expressions

The size of an expression is what an automaton over the bytes of UTF-8 takes for it, in bytes:
counted repetitions are written out, a class is a tree of byte ranges, and a choice between single
characters is a class. Expressions above `sizeLimit` are refused, so counts cannot ask for more work
than the text of a pattern suggests.
-/

namespace BlockMarkup.Pattern

open Unicode (CharSet)

def sizeLimit : Nat := 10 * Nat.pow 2 20

/-! ### Classes -/

/-- Splits a range of code points at `bound`, which stays in the first part. -/
def splitAfter (bound : Nat) (r : Nat × Nat) : List (Nat × Nat) :=
  if r.1 ≤ bound && bound < r.2 then [(r.1, bound), (bound + 1, r.2)] else [r]

/-- Parts of a range that have encodings of one length and no surrogate. -/
def evenRanges (r : Nat × Nat) : List (Nat × Nat) :=
  ([0x7F, 0x7FF, 0xD7FF, 0xDFFF, 0xFFFF].foldl
    (fun parts bound => parts.flatMap (splitAfter bound)) [r]).filter
    fun p => !(0xD800 ≤ p.1 && p.2 ≤ 0xDFFF)

/-- The byte at `place` (0 for the last one) in the encoding of a code point, up to the mark of
its length. -/
def encodedByte (length place n : Nat) : Nat :=
  if place + 1 = length then n / Nat.pow 64 place else 128 + n / Nat.pow 64 place % 64

/-- The byte ranges of an even range whose members run through all values of each later byte. -/
def byteRanges (length : Nat) (r : Nat × Nat) : List (Nat × Nat) :=
  (List.range length).reverse.map fun place =>
    (encodedByte length place r.1 + length * 256, encodedByte length place r.2 + length * 256)

/-- Cuts an even range so that in each part the later bytes run through all values or stay. -/
def alignedRanges : Nat → Nat → Nat × Nat → List (Nat × Nat)
  | 0, _, r => [r]
  | fuel + 1, place, (lo, hi) =>
    let unit := Nat.pow 64 place
    if place > 3 || lo / unit = hi / unit then
      if place > 3 then [(lo, hi)] else alignedRanges fuel (place + 1) (lo, hi)
    else if lo % unit ≠ 0 then
      let cut := lo / unit * unit + (unit - 1)
      alignedRanges fuel 1 (lo, cut) ++ alignedRanges fuel 1 (cut + 1, hi)
    else if hi % unit ≠ unit - 1 then
      let cut := hi / unit * unit
      alignedRanges fuel 1 (lo, cut - 1) ++ alignedRanges fuel 1 (cut, hi)
    else alignedRanges fuel (place + 1) (lo, hi)

def encodedLength (n : Nat) : Nat :=
  if n < 0x80 then 1 else if n < 0x800 then 2 else if n < 0x10000 then 3 else 4

def encodings (s : CharSet) : List (List (Nat × Nat)) :=
  s.ranges.toList.flatMap fun r => (evenRanges r).flatMap fun even =>
    (alignedRanges 32 1 even).map (byteRanges (encodedLength even.1))

def commonLength [BEq α] : List α → List α → Nat
  | a :: as, b :: bs => if a == b then commonLength as bs + 1 else 0
  | _, _ => 0

/-- The nodes of the tree of ascending sequences, where neighbours share what they begin with. -/
def treeNodes : List (Nat × Nat) → List (List (Nat × Nat)) → Nat
  | _, [] => 0
  | before, s :: rest => s.length - commonLength before s + treeNodes s rest

def setSize (s : CharSet) : Nat :=
  match s.ranges.toList with
  | [(a, b)] => if a = b then 32 * encodedLength a else if b < 128 then 72 else treeSize
  | ranges => if s.isAscii then 64 + 8 * ranges.length else treeSize
where
  /-- A node for each byte range, and a branch for each sequence. -/
  treeSize : Nat :=
    let sequences := encodings s
    64 + 32 * treeNodes [] sequences + 4 * sequences.length

/-! ### Expressions -/

namespace Expr

mutual

/-- Whether the expression consists of tests only, so that it never consumes anything. -/
def isVoid : Expr → Bool
  | .empty | .look _ => true
  | .char _ | .set _ => false
  | .group _ body => body.isVoid
  | .concat items => areVoid items
  | .choice branches => areVoid branches
  | .iterate _ most _ body => most = some 0 || body.isVoid

def areVoid : List Expr → Bool
  | [] => true
  | e :: rest => e.isVoid && areVoid rest

end

mutual

/-- Whether the expression can match without consuming anything, tests aside. -/
def isNullable : Expr → Bool
  | .empty | .look _ => true
  | .char _ | .set _ => false
  | .group _ body => body.isNullable
  | .concat items => allNullable items
  | .choice branches => anyNullable branches
  | .iterate least _ _ body => least = 0 || body.isNullable

def allNullable : List Expr → Bool
  | [] => true
  | e :: rest => e.isNullable && allNullable rest

def anyNullable : List Expr → Bool
  | [] => false
  | e :: rest => e.isNullable || anyNullable rest

end

/-- The bounds that matter for a repetition: of something that never consumes, once is enough. -/
def bounds (least : Nat) (most : Option Nat) (body : Expr) : Nat × Option Nat :=
  if body.isVoid then (min least 1, some (min (most.getD 1) 1)) else (least, most)

/-- The ranges of alternatives that all are single characters. -/
def charRanges? : List Expr → Option (List (Nat × Nat))
  | [] => some []
  | .char c :: rest => (charRanges? rest).map (CharSet.insertRange c.toNat c.toNat)
  | _ => none

/-- The ranges of alternatives that all are classes. -/
def setRanges? : List Expr → Option (List (Nat × Nat))
  | [] => some []
  | .set s :: rest => (setRanges? rest).map fun ranges =>
    s.ranges.toList.foldr (fun r => CharSet.insertRange r.1 r.2) ranges
  | _ => none

/-- The class that alternatives amount to when all are single characters, or all are classes. -/
def mergedClass? (branches : List Expr) : Option CharSet :=
  ((charRanges? branches).or (setRanges? branches)).map fun ranges => ⟨ranges.toArray⟩

mutual

def size : Expr → Nat
  | .empty => 32
  | .char c => 32 * c.utf8Size
  | .set s => setSize s
  | .look _ => 32
  | .group _ body => body.size + 64
  | .concat items => sizes items
  | .choice branches =>
    match mergedClass? branches with
    | some s => setSize s
    | none => sizes branches + 4 * branches.length + 64
  | .iterate least most _ body =>
    match bounds least most body with
    | (_, some 0) => 32
    | (least, some most) =>
      let optional := if most = least then 0 else (most - least) * (body.size + 40) + 32
      least * body.size + optional
    | (least, none) =>
      if least = 0 && body.isNullable then body.size + 112
      else max least 1 * body.size + 40

def sizes : List Expr → Nat
  | [] => 0
  | e :: rest => e.size + sizes rest

end

end Expr

end BlockMarkup.Pattern
