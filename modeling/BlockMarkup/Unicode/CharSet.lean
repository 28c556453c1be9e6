/-!
# Sets of characters

A set of characters is a list of ranges of code points in ascending order. Membership is a binary
search; the set operations come from inserting ranges and from taking the gaps between them.
-/

namespace BlockMarkup.Unicode

/-- Ranges of code points, both ends included, ascending and with a gap between neighbours. -/
structure CharSet where
  ranges : Array (Nat × Nat)
  deriving DecidableEq, Repr

namespace CharSet

/-- The greatest code point. -/
def lastCode : Nat := 0x10FFFF

def empty : CharSet := ⟨#[]⟩

def all : CharSet := ⟨#[(0, lastCode)]⟩

/-- Binary search among the ranges from index `lo` up to, but without, index `hi`. -/
def search (ranges : Array (Nat × Nat)) (c : Nat) : Nat → Nat → Nat → Bool
  | 0, _, _ => false
  | fuel + 1, lo, hi =>
    if lo < hi then
      let mid := (lo + hi) / 2
      match ranges[mid]? with
      | some (a, b) =>
        if c < a then search ranges c fuel lo mid
        else if b < c then search ranges c fuel (mid + 1) hi
        else true
      | none => false
    else false

def containsCode (s : CharSet) (c : Nat) : Bool :=
  search s.ranges c (s.ranges.size + 1) 0 s.ranges.size

def contains (s : CharSet) (c : Char) : Bool := s.containsCode c.toNat

/-! ### Set operations -/

/-- Puts `lo` to `hi` among ascending ranges and joins the ranges that it touches. -/
def insertRange (lo hi : Nat) : List (Nat × Nat) → List (Nat × Nat)
  | [] => [(lo, hi)]
  | (a, b) :: rest =>
    if hi + 1 < a then (lo, hi) :: (a, b) :: rest
    else if b + 1 < lo then (a, b) :: insertRange lo hi rest
    else insertRange (min lo a) (max hi b) rest

def insert (s : CharSet) (lo hi : Nat) : CharSet :=
  ⟨(insertRange lo hi s.ranges.toList).toArray⟩

def ofRanges (ranges : List (Nat × Nat)) : CharSet :=
  ⟨(ranges.foldl (fun out r => insertRange r.1 r.2 out) []).toArray⟩

def singleton (c : Char) : CharSet := ⟨#[(c.toNat, c.toNat)]⟩

def union (s t : CharSet) : CharSet :=
  ⟨(t.ranges.toList.foldl (fun out r => insertRange r.1 r.2 out) s.ranges.toList).toArray⟩

/-- The ranges from `next` on that ascending ranges leave out. -/
def gaps (next : Nat) : List (Nat × Nat) → List (Nat × Nat)
  | [] => if next ≤ lastCode then [(next, lastCode)] else []
  | (a, b) :: rest =>
    if next < a then (next, a - 1) :: gaps (b + 1) rest else gaps (b + 1) rest

def complement (s : CharSet) : CharSet := ⟨(gaps 0 s.ranges.toList).toArray⟩

def inter (s t : CharSet) : CharSet := (s.complement.union t.complement).complement

def diff (s t : CharSet) : CharSet := s.inter t.complement

def symmDiff (s t : CharSet) : CharSet := (s.union t).diff (s.inter t)

/-- Whether all members are among the first 128 characters. -/
def isAscii (s : CharSet) : Bool :=
  match s.ranges.back? with
  | some (_, b) => b < 128
  | none => true

/-! ### The compact form -/

/-- The number that base 36 digits spell. -/
def base36 (digits : String) : Nat :=
  digits.foldl (fun n d =>
    n * 36 + if d.isDigit then d.toNat - '0'.toNat else d.toNat - 'a'.toNat + 10) 0

/-- Adds the next range of the compact form, after the characters below `next`. -/
def decodeRange (state : Array (Nat × Nat) × Nat) (range : String) : Array (Nat × Nat) × Nat :=
  match range.splitOn "." with
  | [gap] => let lo := state.2 + base36 gap; (state.1.push (lo, lo), lo + 1)
  | [gap, more] =>
    let lo := state.2 + base36 gap
    let hi := lo + base36 more
    (state.1.push (lo, hi), hi + 1)
  | _ => state

/-- The parts of a text between blanks and line ends. -/
def words (text : String) : List String :=
  ((text.splitOn "\n").flatMap (·.splitOn " ")).filter (· != "")

/-- Reads the compact form: ranges in ascending order, with blanks between them. A range is the
length of the gap before it and, after a dot, the number of characters that follow its first one;
a lone character has no dot. Numbers are in base 36. -/
def decode (text : String) : CharSet := ⟨((words text).foldl decodeRange (#[], 0)).1⟩

end CharSet

end BlockMarkup.Unicode
