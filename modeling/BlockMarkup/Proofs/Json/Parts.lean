import BlockMarkup.Json.Printer
import BlockMarkup.Json.Reader

/-!
# Strings and numbers in JSON

A printed string is read up to its closing quote (`characters_escape`), a printed integer of 64 bits up
to what ends it (`number?_toDigits`).
-/

namespace BlockMarkup.Json

namespace Reader

/-! ### Strings -/

theorem hexDigit?_hexDigit : ∀ n < 16, hexDigit? (hexDigit n) = some n := by decide

theorem unit?_control {n : Nat} (small : n < 256) :
    unit? '0' '0' (hexDigit (n / 16)) (hexDigit (n % 16)) = some n := by
  have zero : hexDigit? '0' = some 0 := by decide
  have high := hexDigit?_hexDigit (n / 16) (by omega)
  have low := hexDigit?_hexDigit (n % 16) (by omega)
  simp only [unit?, zero, high, low, Option.some.injEq]
  omega

theorem characters_plain {c : Char} (done rest : List Char) (quote : c ≠ '"') (slash : c ≠ '\\')
    (shown : 32 ≤ c.toNat) : characters done (c :: rest) = characters (c :: done) rest := by
  have control : ¬ c.toNat < 32 := by omega
  simp [characters, slash, control]

theorem characters_simple {c e : Char} (done rest : List Char) (escape : simpleEscape? e = some c) :
    characters done ('\\' :: e :: rest) = characters (c :: done) rest := by
  have other : e ≠ 'u' := by
    rintro rfl
    cases escape
  simp [characters, escape, other]

/-- One character is read back, however it is written. -/
theorem characters_escapeChar (c : Char) (done rest : List Char) :
    characters done (escapeChar c ++ rest) = characters (c :: done) rest := by
  unfold escapeChar
  repeat' split
  any_goals
    subst c
    exact characters_simple done rest rfl
  next control =>
    have code := unit?_control (n := c.toNat) (by omega)
    have plain : isHighSurrogate c.toNat = false ∧ isLowSurrogate c.toNat = false := by
      simp [isHighSurrogate, isLowSurrogate]
      omega
    simp [characters, code, plain]
  next quote slash _ _ _ _ _ shown => exact characters_plain done rest quote slash (by omega)

theorem characters_escape (s done rest : List Char) :
    characters done (s.flatMap escapeChar ++ '"' :: rest) = some (done.reverse ++ s, rest) := by
  induction s generalizing done with
  | nil => simp [characters]
  | cons c s ih =>
    rw [List.flatMap_cons, List.append_assoc, characters_escapeChar, ih]
    simp

/-! ### Numbers -/

theorem digitsValue_toDigits (n : Nat) : digitsValue (Nat.toDigits 10 n) = n := by
  have value := Nat.ofDigitChars_ten_toDigits (n := n)
  have zero : '0'.toNat = 48 := rfl
  rw [Nat.ofDigitChars_eq_foldl] at value
  simpa only [digitsValue, Nat.mul_comm, zero] using value

theorem toDigits_inj {n m : Nat} (same : Nat.toDigits 10 n = Nat.toDigits 10 m) : n = m := by
  rw [← digitsValue_toDigits n, same, digitsValue_toDigits]

theorem isDigit_toDigits {n : Nat} : ∀ c ∈ Nat.toDigits 10 n, c.isDigit = true :=
  fun _ member => Nat.isDigit_of_mem_toDigits (by decide) (by decide) member

/-- A number is written with a digit in front. -/
theorem toDigits_eq_cons (n : Nat) : ∃ d rest, Nat.toDigits 10 n = d :: rest ∧ d.isDigit = true := by
  cases digits : Nat.toDigits 10 n with
  | nil => exact absurd digits Nat.toDigits_ne_nil
  | cons d rest =>
    have member : d ∈ Nat.toDigits 10 n := digits ▸ List.mem_cons_self
    exact ⟨d, rest, rfl, isDigit_toDigits d member⟩

/-- Only zero itself is written with a zero in front. -/
theorem head_toDigits {n : Nat} (positive : 0 < n) : (Nat.toDigits 10 n).head? ≠ some '0' := by
  have digit : ∀ d < 10, 0 < d → [d.digitChar].head? ≠ some '0' := by decide
  induction n using Nat.strongRecOn with
  | ind n ih =>
    rw [Nat.toDigits_eq_if (by decide)]
    split
    next small => exact digit n small positive
    next large =>
      have front := ih (n / 10) (Nat.div_lt_self positive (by decide)) (by omega)
      obtain ⟨d, rest, digits, -⟩ := toDigits_eq_cons (n / 10)
      rw [digits] at front ⊢
      exact front

/-- A number that is followed by this ends before it. -/
def Ends (after : List Char) : Prop :=
  ∀ c ∈ after.head?, c.isDigit = false ∧ c ≠ '.' ∧ c ≠ 'e' ∧ c ≠ 'E'

section

variable {after : List Char}

/-- The digits of a number are cut off where the number ends. -/
theorem span_toDigits (ends : Ends after) (n : Nat) :
    (Nat.toDigits 10 n ++ after).takeWhile Char.isDigit = Nat.toDigits 10 n ∧
      (Nat.toDigits 10 n ++ after).dropWhile Char.isDigit = after := by
  rw [List.takeWhile_append_of_pos isDigit_toDigits, List.dropWhile_append_of_pos isDigit_toDigits]
  cases after with
  | nil => exact ⟨List.append_nil _, rfl⟩
  | cons c rest =>
    obtain ⟨digit, -⟩ := ends c rfl
    simp [digit]

theorem number?_toDigits (ends : Ends after) (negative : Bool) (n : Nat) :
    number? negative (Nat.toDigits 10 n ++ after) =
      (integer negative (Nat.toDigits 10 n)).map (·, after) := by
  rw [number?, (span_toDigits ends n).1, (span_toDigits ends n).2]
  split
  next empty => exact absurd empty Nat.toDigits_ne_nil
  next d rest zero =>
    rcases Nat.eq_zero_or_pos n with rfl | positive
    · cases zero
    · exact absurd (congrArg List.head? zero) (head_toDigits positive)
  next =>
    split
    next rest => exact absurd rfl (ends '.' rfl).2.1
    next rest => exact absurd rfl (ends 'e' rfl).2.2.1
    next rest => exact absurd rfl (ends 'E' rfl).2.2.2
    next => rfl

end

end Reader

end BlockMarkup.Json
