import BlockMarkup.Proofs.Pattern.OneCharacter
import Mathlib.Data.List.Chain
import Mathlib.Data.List.Nodup
import Mathlib.Data.List.Range

/-!
# Sizes of lists of characters

A list of characters is a class, whose size grows with the sequences of byte ranges that stand for its
members. There is at most one for each character, so a list of 79000 characters is always small enough
for a pattern (`list_small`). Characters that are no neighbours have one sequence each, so a list of
300000 of these is too large (`list_large`).
-/

namespace BlockMarkup.Pattern

open Unicode (CharSet)
open Unicode.CharSet (insertRange)

/-! ### Code points in ranges -/

/-- The number of code points in ranges. -/
def width : List (Nat × Nat) → Nat
  | [] => 0
  | r :: ranges => r.2 + 1 - r.1 + width ranges

/-- No range ends before it starts. -/
def Forward (ranges : List (Nat × Nat)) : Prop := ∀ r ∈ ranges, r.1 ≤ r.2

variable {lo hi : Nat} {ranges : List (Nat × Nat)} {r : Nat × Nat}

theorem width_append (a b : List (Nat × Nat)) : width (a ++ b) = width a + width b := by
  induction a with
  | nil => exact (Nat.zero_add _).symm
  | cons r a ih => rw [List.cons_append, width, width, ih, Nat.add_assoc]

theorem insertRange_forward (forward : lo ≤ hi) (valid : Forward ranges) :
    Forward (insertRange lo hi ranges) := by
  fun_induction insertRange lo hi ranges with
  | case1 lo hi => simpa [Forward] using forward
  | case2 lo hi a b rest gap => exact List.forall_mem_cons.mpr ⟨forward, valid⟩
  | case3 lo hi a b rest touch apart ih =>
    rw [Forward, List.forall_mem_cons] at valid
    exact List.forall_mem_cons.mpr ⟨valid.1, ih forward valid.2⟩
  | case4 lo hi a b rest touch near ih =>
    rw [Forward, List.forall_mem_cons] at valid
    exact ih (by omega) valid.2

theorem width_insertRange_le (forward : lo ≤ hi) (valid : Forward ranges) :
    width (insertRange lo hi ranges) ≤ width ranges + (hi + 1 - lo) := by
  fun_induction insertRange lo hi ranges with
  | case1 lo hi => simp [width]
  | case2 lo hi a b rest gap =>
    simp only [width]
    omega
  | case3 lo hi a b rest touch apart ih =>
    rw [Forward, List.forall_mem_cons] at valid
    have rest := ih forward valid.2
    simp only [width]
    omega
  | case4 lo hi a b rest touch near ih =>
    rw [Forward, List.forall_mem_cons] at valid
    have rest := ih (by omega) valid.2
    have ordered := valid.1
    simp only [width] at ordered ⊢
    omega

/-- The ranges of characters in a list. -/
def rangesOf (chars : List Char) : List (Nat × Nat) :=
  chars.foldr (fun c => insertRange c.toNat c.toNat) []

theorem rangesOf_forward (chars : List Char) : Forward (rangesOf chars) := by
  induction chars with
  | nil => simp [rangesOf, Forward]
  | cons c chars ih => exact insertRange_forward (Nat.le_refl _) ih

theorem width_rangesOf_le (chars : List Char) : width (rangesOf chars) ≤ chars.length := by
  induction chars with
  | nil => simp [rangesOf, width]
  | cons c chars ih =>
    have one := width_insertRange_le (Nat.le_refl c.toNat) (rangesOf_forward chars)
    change width (insertRange c.toNat c.toNat (rangesOf chars)) ≤ chars.length + 1
    omega

theorem charRanges?_chars (chars : List Char) :
    Expr.charRanges? (chars.map .char) = some (rangesOf chars) := by
  induction chars with
  | nil => rfl
  | cons c chars ih =>
    rw [List.map_cons, Expr.charRanges?, ih]
    rfl

theorem size_anyOf {chars : List Char} (several : chars.length ≠ 1) :
    (Expr.anyOf chars).size = setSize ⟨(rangesOf chars).toArray⟩ := by
  have choice : Expr.anyOf chars = .choice (chars.map .char) := by
    unfold Expr.anyOf
    split
    next => exact absurd rfl several
    next => rfl
  rw [choice, Expr.size, Expr.mergedClass?, charRanges?_chars]
  rfl

/-! ### Sequences of byte ranges -/

/-- Where two numbers lie in different blocks of a length, the later block starts past the earlier. -/
theorem block_le {unit : Nat} (forward : lo ≤ hi) (apart : lo / unit ≠ hi / unit) :
    lo / unit * unit + unit ≤ hi / unit * unit := by
  have blocks : lo / unit ≤ hi / unit := Nat.div_le_div_right forward
  rw [← Nat.succ_mul]
  exact Nat.mul_le_mul_right unit (Nat.lt_of_le_of_ne blocks apart)

theorem length_alignedRanges_le {fuel place : Nat} (forward : lo ≤ hi) :
    (alignedRanges fuel place (lo, hi)).length ≤ hi + 1 - lo := by
  induction fuel generalizing place lo hi with
  | zero =>
    simp only [alignedRanges, List.length_singleton]
    omega
  | succ fuel ih =>
    rw [alignedRanges]
    dsimp only
    have positive : 0 < Nat.pow 64 place := Nat.pow_pos (by decide)
    generalize Nat.pow 64 place = unit at positive ⊢
    have below : lo / unit * unit ≤ lo := Nat.div_mul_le_self _ _
    have above : lo < lo / unit * unit + unit := Nat.lt_div_mul_add positive
    have start : hi / unit * unit ≤ hi := Nat.div_mul_le_self _ _
    split
    next =>
      split
      next =>
        simp only [List.length_singleton]
        omega
      next => exact ih forward
    next apart =>
      have differ : lo / unit ≠ hi / unit := fun same => apart (by simp [same])
      have block : lo / unit * unit + unit ≤ hi / unit * unit := block_le forward differ
      split
      -- a cut is at the edge of a block, so both parts have members
      next =>
        have left : lo ≤ lo / unit * unit + (unit - 1) := by omega
        have right : lo / unit * unit + (unit - 1) + 1 ≤ hi := by omega
        rw [List.length_append]
        exact Nat.le_trans (Nat.add_le_add (ih left) (ih right)) (by omega)
      next =>
        split
        next =>
          have left : lo ≤ hi / unit * unit - 1 := by omega
          rw [List.length_append]
          exact Nat.le_trans (Nat.add_le_add (ih left) (ih start)) (by omega)
        next => exact ih forward

theorem splitAfter_width (bound : Nat) (valid : r.1 ≤ r.2) :
    Forward (splitAfter bound r) ∧ width (splitAfter bound r) = width [r] := by
  unfold splitAfter
  split
  next inside =>
    simp only [Bool.and_eq_true, decide_eq_true_eq] at inside
    constructor
    · simp only [Forward, List.forall_mem_cons, List.not_mem_nil, false_implies, implies_true, and_true]
      omega
    · simp only [width]
      omega
  next => exact ⟨List.forall_mem_singleton.mpr valid, rfl⟩

theorem splitAll_width (bound : Nat) (valid : Forward ranges) :
    Forward (ranges.flatMap (splitAfter bound)) ∧
      width (ranges.flatMap (splitAfter bound)) = width ranges := by
  induction ranges with
  | nil => exact ⟨valid, rfl⟩
  | cons r ranges ih =>
    rw [Forward, List.forall_mem_cons] at valid
    obtain ⟨forward, same⟩ := ih valid.2
    obtain ⟨first, split⟩ := splitAfter_width bound valid.1
    rw [List.flatMap_cons, width_append, split, same]
    exact ⟨List.forall_mem_append.mpr ⟨first, forward⟩, rfl⟩

theorem splitBounds_width (bounds : List Nat) (valid : Forward ranges) :
    Forward (bounds.foldl (fun parts bound => parts.flatMap (splitAfter bound)) ranges) ∧
      width (bounds.foldl (fun parts bound => parts.flatMap (splitAfter bound)) ranges) = width ranges := by
  induction bounds generalizing ranges with
  | nil => exact ⟨valid, rfl⟩
  | cons bound bounds ih =>
    obtain ⟨forward, same⟩ := splitAll_width bound valid
    rw [List.foldl_cons, ← same]
    exact ih forward

theorem width_filter_le (test : Nat × Nat → Bool) (ranges : List (Nat × Nat)) :
    width (ranges.filter test) ≤ width ranges := by
  induction ranges with
  | nil => exact Nat.le_refl _
  | cons r ranges ih =>
    rw [List.filter_cons]
    split
    next => exact Nat.add_le_add_left ih _
    next => exact Nat.le_trans ih (Nat.le_add_left _ _)

theorem evenRanges_width (valid : r.1 ≤ r.2) :
    Forward (evenRanges r) ∧ width (evenRanges r) ≤ r.2 + 1 - r.1 := by
  obtain ⟨forward, same⟩ := splitBounds_width [0x7F, 0x7FF, 0xD7FF, 0xDFFF, 0xFFFF]
    (List.forall_mem_singleton.mpr valid)
  constructor
  · exact fun p member => forward p (List.mem_filter.mp member).1
  · exact Nat.le_trans (width_filter_le _ _) (Nat.le_of_eq same)

theorem length_flatMap_le {α : Type} {f : Nat × Nat → List α} (valid : Forward ranges)
    (few : ∀ r, r.1 ≤ r.2 → (f r).length ≤ r.2 + 1 - r.1) : (ranges.flatMap f).length ≤ width ranges := by
  induction ranges with
  | nil => exact Nat.le_refl _
  | cons r ranges ih =>
    rw [Forward, List.forall_mem_cons] at valid
    rw [List.flatMap_cons, List.length_append, width]
    exact Nat.add_le_add (few r valid.1) (ih valid.2)

/-- There is at most one sequence for each code point. -/
theorem length_encodings_le {s : CharSet} (valid : Forward s.ranges.toList) :
    (encodings s).length ≤ width s.ranges.toList := by
  refine length_flatMap_le valid fun r forward => ?_
  obtain ⟨parts, narrow⟩ := evenRanges_width forward
  refine Nat.le_trans (length_flatMap_le parts fun even ordered => ?_) narrow
  rw [List.length_map]
  exact length_alignedRanges_le ordered

theorem encodedLength_le (n : Nat) : encodedLength n ≤ 4 := by
  unfold encodedLength
  split
  next => decide
  next =>
    split
    next => decide
    next => split <;> decide

theorem length_encoding_le {s : CharSet} : ∀ sequence ∈ encodings s, sequence.length ≤ 4 := by
  intro sequence member
  simp only [encodings, List.mem_flatMap, List.mem_map] at member
  obtain ⟨_, _, even, _, part, _, rfl⟩ := member
  simpa [byteRanges] using encodedLength_le even.1

theorem treeNodes_le (before : List (Nat × Nat)) {sequences : List (List (Nat × Nat))}
    (short : ∀ s ∈ sequences, s.length ≤ 4) : treeNodes before sequences ≤ 4 * sequences.length := by
  induction sequences generalizing before with
  | nil => exact Nat.le_refl _
  | cons s sequences ih =>
    rw [List.forall_mem_cons] at short
    have later := ih s short.2
    rw [treeNodes, List.length_cons]
    omega

theorem length_le_width (valid : Forward ranges) : ranges.length ≤ width ranges := by
  have one := length_flatMap_le (f := fun r => [r]) valid (by simp; omega)
  simpa using one

theorem setSize_le {s : CharSet} (valid : Forward s.ranges.toList) :
    setSize s ≤ 64 + 132 * (width s.ranges.toList + 1) := by
  have tree : setSize.treeSize s ≤ 64 + 132 * width s.ranges.toList := by
    have few := length_encodings_le valid
    have nodes : treeNodes [] (encodings s) ≤ 4 * (encodings s).length := treeNodes_le [] length_encoding_le
    unfold setSize.treeSize
    dsimp only
    omega
  unfold setSize
  split
  next a b one =>
    have length := encodedLength_le a
    split
    next => omega
    next =>
      split <;> omega
  next =>
    split
    next =>
      have ranges := length_le_width valid
      omega
    next => omega

theorem size_list (chars : List Char) : (Expr.list chars).size = (Expr.anyOf chars).size + 96 := by
  simp only [Expr.list, Expr.size, Expr.sizes]
  omega

/-- A list of 79000 characters is small enough for a pattern. -/
theorem list_small {chars : List Char} (few : chars.length ≤ 79000) : (Expr.list chars).size ≤ sizeLimit := by
  have limit : sizeLimit = 10485760 := rfl
  rw [size_list, limit]
  by_cases one : chars.length = 1
  · obtain ⟨c, rfl⟩ := List.length_eq_one_iff.mp one
    have bytes := c.utf8Size_le_four
    simp only [Expr.anyOf, Expr.size]
    omega
  · have narrow := width_rangesOf_le chars
    have size : setSize ⟨(rangesOf chars).toArray⟩ ≤ 64 + 132 * (width (rangesOf chars) + 1) :=
      setSize_le (rangesOf_forward chars)
    rw [size_anyOf one]
    omega

/-! ### Lists of characters that are no neighbours -/

/-- Characters in ascending order, with a gap between neighbours, and with encodings of four bytes. -/
def Isolated (chars : List Char) : Prop :=
  (∀ c ∈ chars, 0x10000 ≤ c.toNat) ∧ chars.IsChain fun a b => a.toNat + 1 < b.toNat

variable {chars : List Char}

theorem rangesOf_isolated (isolated : Isolated chars) :
    rangesOf chars = chars.map fun c => (c.toNat, c.toNat) := by
  obtain ⟨-, chain⟩ := isolated
  induction chars with
  | nil => rfl
  | cons c chars ih =>
    change insertRange c.toNat c.toNat (rangesOf chars) = _
    rw [ih chain.tail]
    cases chars with
    | nil => rfl
    | cons d chars =>
      have gap : c.toNat + 1 < d.toNat := by simpa using chain.rel
      simp [insertRange, gap]

theorem splitAfter_single (bound n : Nat) : splitAfter bound (n, n) = [(n, n)] := by
  unfold splitAfter
  rw [if_neg]
  simp

theorem evenRanges_single {n : Nat} (high : 0x10000 ≤ n) : evenRanges (n, n) = [(n, n)] := by
  have proper : n < 0xD800 ∨ 0xDFFF < n := by omega
  simpa [evenRanges, splitAfter_single] using proper

theorem alignedRanges_single (n : Nat) : alignedRanges 32 1 (n, n) = [(n, n)] := by
  simp [alignedRanges]

theorem byteRanges_inj {m n : Nat} (same : byteRanges 4 (m, m) = byteRanges 4 (n, n)) : m = n := by
  have bytes : m / 262144 = n / 262144 ∧ m / 4096 % 64 = n / 4096 % 64 ∧ m / 64 % 64 = n / 64 % 64 ∧
      m % 64 = n % 64 := by
    simpa [byteRanges, encodedByte, List.range_succ] using same
  omega

theorem encodings_isolated (isolated : Isolated chars) :
    encodings ⟨(rangesOf chars).toArray⟩ = chars.map fun c => byteRanges 4 (c.toNat, c.toNat) := by
  have single : ∀ c ∈ chars, (evenRanges (c.toNat, c.toNat)).flatMap
      (fun even => (alignedRanges 32 1 even).map (byteRanges (encodedLength even.1))) =
        [byteRanges 4 (c.toNat, c.toNat)] := by
    intro c member
    have high := isolated.1 c member
    have length : encodedLength c.toNat = 4 := by
      unfold encodedLength
      rw [if_neg (by omega), if_neg (by omega), if_neg (by omega)]
    simp [evenRanges_single high, alignedRanges_single, length]
  rw [encodings, rangesOf_isolated isolated]
  dsimp only
  rw [List.flatMap_map, List.flatMap_congr single]
  exact List.map_eq_flatMap.symm

theorem commonLength_lt {a b : List (Nat × Nat)} (even : a.length = b.length) (apart : a ≠ b) :
    commonLength a b < b.length := by
  induction a generalizing b with
  | nil => exact absurd (List.eq_nil_of_length_eq_zero even.symm).symm apart
  | cons x a ih =>
    cases b with
    | nil => cases even
    | cons y b =>
      rw [commonLength]
      split
      next same =>
        have equal : x = y := by simpa using same
        exact Nat.succ_lt_succ (ih (Nat.succ.inj even) fun rest => apart (by rw [equal, rest]))
      next => exact Nat.succ_pos _

/-- Each sequence that does not go on from the one before it adds a node. -/
theorem length_le_treeNodes {before : List (Nat × Nat)} {sequences : List (List (Nat × Nat))}
    (first : ∀ s ∈ sequences.head?, commonLength before s < s.length)
    (apart : sequences.IsChain fun a b => commonLength a b < b.length) :
    sequences.length ≤ treeNodes before sequences := by
  induction sequences generalizing before with
  | nil => exact Nat.le_refl _
  | cons s sequences ih =>
    have own : commonLength before s < s.length := first s rfl
    have later : sequences.length ≤ treeNodes s sequences := by
      refine ih ?_ apart.tail
      intro next start
      obtain ⟨rest, rfl⟩ := List.head?_eq_some_iff.mp start
      simpa using apart.rel
    rw [treeNodes, List.length_cons]
    omega

theorem length_le_treeNodes_isolated (isolated : Isolated chars) :
    chars.length ≤ treeNodes [] (encodings ⟨(rangesOf chars).toArray⟩) := by
  have even : ∀ n, (byteRanges 4 (n, n)).length = 4 := fun n => by simp [byteRanges]
  rw [encodings_isolated isolated]
  refine Nat.le_trans (Nat.le_of_eq (List.length_map _).symm) (length_le_treeNodes ?_ ?_)
  · intro s start
    obtain ⟨c, -, rfl⟩ := List.mem_map.mp (List.mem_of_mem_head? start)
    rw [even]
    exact Nat.succ_pos 3
  · refine (List.isChain_map _).mpr (isolated.2.imp fun a b gap => ?_)
    have differ : byteRanges 4 (a.toNat, a.toNat) ≠ byteRanges 4 (b.toNat, b.toNat) := by
      intro same
      have equal := byteRanges_inj same
      omega
    exact commonLength_lt ((even _).trans (even _).symm) differ

theorem setSize_isolated (isolated : Isolated chars) (several : 2 ≤ chars.length) :
    setSize ⟨(rangesOf chars).toArray⟩ = setSize.treeSize ⟨(rangesOf chars).toArray⟩ := by
  have ranges : (rangesOf chars).length = chars.length := by simp [rangesOf_isolated isolated]
  unfold setSize
  split
  next one =>
    rw [List.toList_toArray] at one
    rw [one, List.length_singleton] at ranges
    omega
  next =>
    have wide : ¬ CharSet.isAscii ⟨(rangesOf chars).toArray⟩ = true := by
      intro ascii
      have filled : chars ≠ [] := by
        rintro rfl
        cases several
      have high := isolated.1 _ (List.getLast_mem filled)
      simp only [CharSet.isAscii, List.back?_toArray, rangesOf_isolated isolated, List.getLast?_map,
        List.getLast?_eq_some_getLast filled, Option.map_some, decide_eq_true_eq] at ascii
      omega
    rw [if_neg wide]

/-- A list of 300000 characters that are no neighbours is too large for a pattern. -/
theorem list_large (isolated : Isolated chars) (many : 300000 ≤ chars.length) :
    sizeLimit < (Expr.list chars).size := by
  have limit : sizeLimit = 10485760 := rfl
  have nodes := length_le_treeNodes_isolated isolated
  have sequences : (encodings ⟨(rangesOf chars).toArray⟩).length = chars.length := by
    rw [encodings_isolated isolated, List.length_map]
  rw [size_list, size_anyOf (by omega), setSize_isolated isolated (by omega), setSize.treeSize, limit]
  omega

/-- Every second one of `2 * n` characters, from the code point `first` on. -/
def everySecond (n first : Nat) : List Char := (List.range n).map fun i => Char.ofNat (first + 2 * i)

section EverySecond

variable {n first : Nat}

theorem toNat_everySecond (high : 0x10000 ≤ first) (low : first + 2 * n ≤ 0x110000) :
    (everySecond n first).map Char.toNat = (List.range n).map fun i => first + 2 * i := by
  rw [everySecond, List.map_map]
  refine List.map_congr_left fun i member => ?_
  have before : i < n := List.mem_range.mp member
  have valid : (first + 2 * i).isValidChar := .inr ⟨by omega, by omega⟩
  exact congrArg Char.toNat (dif_pos valid)

theorem length_everySecond : (everySecond n first).length = n := by simp [everySecond]

theorem mem_everySecond (high : 0x10000 ≤ first) (low : first + 2 * n ≤ 0x110000) {c : Char}
    (member : c ∈ everySecond n first) : ∃ i, c.toNat = first + 2 * i := by
  have code := List.mem_map_of_mem (f := Char.toNat) member
  rw [toNat_everySecond high low] at code
  obtain ⟨i, -, same⟩ := List.mem_map.mp code
  exact ⟨i, same.symm⟩

theorem everySecond_isolated (high : 0x10000 ≤ first) (low : first + 2 * n ≤ 0x110000) :
    Isolated (everySecond n first) := by
  constructor
  · intro c member
    obtain ⟨i, same⟩ := mem_everySecond high low member
    omega
  · have codes : ((everySecond n first).map Char.toNat).IsChain fun a b => a + 1 < b := by
      rw [toNat_everySecond high low, List.isChain_map, List.isChain_range]
      omega
    exact (List.isChain_map _).mp codes

theorem everySecond_nodup (high : 0x10000 ≤ first) (low : first + 2 * n ≤ 0x110000) :
    (everySecond n first).Nodup := by
  refine List.Nodup.of_map Char.toNat ?_
  rw [toNat_everySecond high low]
  exact List.nodup_range.map fun i j same => by omega

end EverySecond

end BlockMarkup.Pattern
