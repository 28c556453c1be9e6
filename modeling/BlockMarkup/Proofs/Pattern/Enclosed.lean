import BlockMarkup.Pattern.Reader
import Mathlib.Data.List.TakeWhile

/-!
# Patterns inside a group

What can be read of a pattern on its own is read in the same way when a group is put around the
pattern: no part of it looks at the parenthesis that closes the group. A comment at the end of the
pattern can hide that parenthesis, but then nothing is left to read.
-/

namespace BlockMarkup.Pattern.Reader

/-- `inner` is what is left to read of a pattern on its own, `outer` of the same pattern in a group. Number
signs make it possible that something `hides` the end of the group. -/
inductive Enclosed (hides : Prop) : List Char → List Char → Prop where
  | closed (inner : List Char) (sign : '#' ∈ inner → hides) : Enclosed hides inner (inner ++ [')'])
  /-- A comment has hidden the parenthesis. -/
  | hidden (comment : hides) : Enclosed hides [] []

/-- What this reads of a pattern on its own it reads in a group. -/
def Carries {α : Type} (f : List Char → Option (α × List Char)) : Prop :=
  ∀ ⦃hides : Prop⦄ ⦃inner outer : List Char⦄ ⦃x : α⦄ ⦃rest : List Char⦄, Enclosed hides inner outer →
    f inner = some (x, rest) → ∃ rest', f outer = some (x, rest') ∧ Enclosed hides rest rest'

variable {hides : Prop} {inner outer rest : List Char} {c : Char} {verbose : Bool}

namespace Enclosed

theorem of_cons (enclosed : Enclosed hides (c :: inner) outer) :
    ∃ outer', outer = c :: outer' ∧ Enclosed hides inner outer' := by
  cases enclosed with
  | closed _ sign =>
    exact ⟨inner ++ [')'], rfl, .closed inner fun later => sign (List.mem_cons_of_mem _ later)⟩

theorem of_nil (enclosed : Enclosed hides [] outer) : outer = [')'] ∨ outer = [] ∧ hides := by
  cases enclosed with
  | closed => exact .inl rfl
  | hidden comment => exact .inr ⟨rfl, comment⟩

/-- A parenthesis is no blank, so what drops blanks keeps it. -/
theorem dropWhile {test : Char → Bool} (kept : test ')' = false) (enclosed : Enclosed hides inner outer) :
    Enclosed hides (inner.dropWhile test) (outer.dropWhile test) := by
  cases enclosed with
  | closed _ sign =>
    induction inner with
    | nil => simpa [kept] using closed [] sign
    | cons c rest ih =>
      by_cases passes : test c
      · simpa [passes] using ih fun later => sign (List.mem_cons_of_mem _ later)
      · simpa [passes] using closed (c :: rest) sign
  | hidden comment => exact .hidden comment

theorem dropBlanks {inComment : Bool} (comment : inComment = true → hides)
    (enclosed : Enclosed hides inner outer) :
    Enclosed hides (dropBlanks inComment inner) (dropBlanks inComment outer) := by
  cases enclosed with
  | closed _ sign =>
    induction inner generalizing inComment with
    | nil =>
      cases inComment with
      | true => exact .hidden (comment rfl)
      | false => exact .closed [] sign
    | cons c rest ih =>
      have later : '#' ∈ rest → hides := fun later => sign (List.mem_cons_of_mem _ later)
      simp only [List.cons_append, Reader.dropBlanks]
      split
      next inside => exact ih (fun _ => comment inside) later
      next =>
        split
        next => exact ih nofun later
        next =>
          split
          next starts => exact ih (fun _ => sign (starts ▸ List.mem_cons_self)) later
          next => exact .closed (c :: rest) sign
  | hidden comment => exact .hidden comment

theorem settle (enclosed : Enclosed hides inner outer) (verbose : Bool) :
    Enclosed hides (settle verbose inner) (settle verbose outer) := by
  unfold Reader.settle
  split
  · exact enclosed.dropBlanks nofun
  · exact enclosed

end Enclosed

theorem length_dropBlanks_le (inComment : Bool) (cs : List Char) :
    (dropBlanks inComment cs).length ≤ cs.length := by
  fun_induction dropBlanks inComment cs with
  | case1 => exact Nat.le_refl _
  | case2 c rest ih | case3 _ c rest _ _ ih | case4 _ rest _ _ ih => exact Nat.le_succ_of_le ih
  | case5 => exact Nat.le_refl _

theorem length_settle_le (verbose : Bool) (cs : List Char) : (settle verbose cs).length ≤ cs.length := by
  unfold settle
  split
  · exact length_dropBlanks_le false cs
  · exact Nat.le_refl _

theorem carries_of_append {α : Type} {f : List Char → Option (α × List Char)} (empty : f [] = none)
    (append : ∀ {cs x rest}, f cs = some (x, rest) →
      f (cs ++ [')']) = some (x, rest ++ [')']) ∧ rest ⊆ cs) : Carries f := by
  intro hides inner outer x rest enclosed read
  cases enclosed with
  | closed _ sign =>
    obtain ⟨same, left⟩ := append read
    exact ⟨_, same, .closed rest fun later => sign (left later)⟩
  | hidden => cases empty.symm.trans read

/-! ### Runs of characters of one kind -/

/-- Characters that pass a test, with blanks between them where blanks mean nothing. -/
def takeSettled (test : Char → Bool) (verbose : Bool) : Nat → List Char → List Char × List Char
  | 0, cs => ([], cs)
  | _ + 1, [] => ([], [])
  | fuel + 1, c :: rest =>
    if test c then
      let (more, after) := takeSettled test verbose fuel (settle verbose rest)
      (c :: more, after)
    else ([], c :: rest)

theorem decimalDigits_eq (fuel : Nat) (cs : List Char) :
    decimalDigits verbose fuel cs = takeSettled Char.isDigit verbose fuel cs := by
  induction fuel generalizing cs with
  | zero => rfl
  | succ fuel ih =>
    cases cs with
    | nil => rfl
    | cons c rest => simp only [decimalDigits, takeSettled, ih]

theorem edgeName_eq (fuel : Nat) (cs : List Char) :
    edgeName verbose fuel cs = takeSettled isEdgeLetter verbose fuel cs := by
  induction fuel generalizing cs with
  | zero => rfl
  | succ fuel ih =>
    cases cs with
    | nil => rfl
    | cons c rest => simp only [edgeName, takeSettled, ih]

theorem leadingHyphens_eq (fuel : Nat) (cs : List Char) :
    leadingHyphens verbose fuel cs =
      let (hyphens, after) := takeSettled (· = '-') verbose fuel cs
      (hyphens.map fun c => .literal { char := c }, after) := by
  induction fuel generalizing cs with
  | zero => rfl
  | succ fuel ih =>
    cases cs with
    | nil => rfl
    | cons c rest =>
      unfold leadingHyphens takeSettled
      by_cases hyphen : c = '-'
      · subst hyphen
        simp [ih]
      · simp [hyphen]

theorem takeSettled_nil {test : Char → Bool} (fuel : Nat) (refused : test ')' = false)
    (enclosed : Enclosed hides [] outer) : takeSettled test verbose fuel outer = ([], outer) := by
  rcases enclosed.of_nil with rfl | ⟨rfl, -⟩ <;> cases fuel <;> simp [takeSettled, refused]

/-- With steps enough for all that is left, the closing parenthesis changes nothing. -/
theorem takeSettled_enclosed (test : Char → Bool) {n m : Nat} (verbose : Bool)
    (refused : test ')' = false) (enclosed : Enclosed hides inner outer) (enough : inner.length ≤ n)
    (enough' : outer.length ≤ m) :
    ∃ taken rest rest', takeSettled test verbose n inner = (taken, rest) ∧
      takeSettled test verbose m outer = (taken, rest') ∧ Enclosed hides rest rest' := by
  induction n generalizing m inner outer with
  | zero =>
    obtain rfl := List.eq_nil_of_length_eq_zero (Nat.le_zero.mp enough)
    exact ⟨[], [], outer, rfl, takeSettled_nil m refused enclosed, enclosed⟩
  | succ n ih =>
    cases inner with
    | nil => exact ⟨[], [], outer, rfl, takeSettled_nil m refused enclosed, enclosed⟩
    | cons c inner =>
      obtain ⟨outer, rfl, enclosed'⟩ := enclosed.of_cons
      cases m with
      | zero => exact absurd enough' (by simp)
      | succ m =>
        rw [takeSettled, takeSettled]
        by_cases passes : test c = true
        · obtain ⟨taken, rest, rest', left, right, tail⟩ := ih (enclosed'.settle verbose)
            (Nat.le_trans (length_settle_le verbose inner) (Nat.le_of_succ_le_succ enough))
            (Nat.le_trans (length_settle_le verbose outer) (Nat.le_of_succ_le_succ enough'))
          exact ⟨c :: taken, rest, rest', by simp [passes, left], by simp [passes, right], tail⟩
        · exact ⟨[], c :: inner, c :: outer, by simp [passes], by simp [passes], enclosed⟩

/-! ### Numbers and escapes -/

theorem decimal_enclosed (verbose : Bool) (enclosed : Enclosed hides inner outer) :
    ∃ n rest rest', decimal? verbose inner = (n, rest) ∧ decimal? verbose outer = (n, rest') ∧
      Enclosed hides rest rest' := by
  have blank : Unicode.isSpace ')' = false := rfl
  have digit : Char.isDigit ')' = false := rfl
  obtain ⟨digits, rest, rest', left, right, tail⟩ := takeSettled_enclosed Char.isDigit verbose digit
    (enclosed.dropWhile blank) (Nat.le_refl _) (Nat.le_refl _)
  have after := ((tail.settle verbose).dropWhile blank).settle verbose
  unfold decimal?
  simp only [decimalDigits_eq, left, right]
  exact ⟨_, _, _, rfl, rfl, after⟩

theorem carries_braced (inComment : Bool) : Carries (braced verbose inComment) := by
  refine carries_of_append rfl ?_
  intro cs name rest read
  fun_induction braced verbose inComment cs generalizing name with
  | case1 => cases read
  | case2 c cs ih =>
    obtain ⟨same, left⟩ := ih read
    simpa [braced, same] using List.subset_cons_of_subset _ left
  | case3 inComment cs code =>
    cases read
    simp [braced, code]
  | case4 inComment c cs code brace blank ih =>
    obtain ⟨same, left⟩ := ih read
    simpa [braced, code, brace, blank, same] using List.subset_cons_of_subset _ left
  | case5 inComment c cs code brace solid mark ih =>
    obtain ⟨same, left⟩ := ih read
    simpa [braced, code, brace, solid, mark, same] using List.subset_cons_of_subset _ left
  | case6 inComment c cs code brace solid plain ih =>
    obtain ⟨⟨name, after⟩, found, same⟩ := Option.map_eq_some_iff.mp read
    cases same
    obtain ⟨same, left⟩ := ih found
    simpa [braced, code, brace, solid, plain, same] using List.subset_cons_of_subset _ left

theorem carries_hexDigits (n : Nat) : Carries (hexDigits verbose n) := by
  intro hides inner outer digits rest enclosed read
  induction n generalizing inner outer digits with
  | zero =>
    cases read
    exact ⟨outer, rfl, enclosed⟩
  | succ n ih =>
    cases inner with
    | nil => cases read
    | cons c inner =>
      obtain ⟨outer, rfl, behind⟩ := enclosed.of_cons
      rw [hexDigits] at read ⊢
      split at read
      · rename_i digit
        obtain ⟨⟨digits, after⟩, found, same⟩ := Option.map_eq_some_iff.mp read
        cases same
        obtain ⟨rest', found', tail⟩ := ih (behind.settle verbose) found
        exact ⟨rest', by simp [digit, found'], tail⟩
      · cases read

/-- Readers that start after blanks see the same character first. -/
theorem settle_cons (verbose : Bool) (enclosed : Enclosed hides inner outer)
    (settled : settle verbose inner = c :: rest) :
    ∃ rest', settle verbose outer = c :: rest' ∧ Enclosed hides (c :: rest) (c :: rest') ∧
      Enclosed hides rest rest' := by
  have after := enclosed.settle verbose
  rw [settled] at after
  obtain ⟨rest', same, tail⟩ := after.of_cons
  rw [same] at after
  exact ⟨rest', same, after, tail⟩

theorem hexEscape_cons {length : Nat} {cs : List Char} (settled : settle verbose cs = c :: rest) :
    hexEscape verbose length cs =
      if c = '{' then
        match braced verbose false rest with
        | some (digits, after) =>
          if digits.isEmpty then none
          else (hexNumber? digits).bind fun n => (charOfCode? n).map fun c =>
            (.literal { char := c }, settle verbose after)
        | none => none
      else (hexDigits verbose length (c :: rest)).bind fun (digits, after) =>
        (hexNumber? digits).bind fun n => (charOfCode? n).map fun c =>
          (.literal { char := c, byteEscape := length = 2 }, after) := by
  unfold hexEscape
  rw [settled]
  by_cases brace : c = '{'
  · subst brace
    rfl
  · simp [brace]

theorem carries_hexEscape (length : Nat) : Carries (hexEscape verbose length) := by
  intro hides inner outer item rest enclosed read
  cases settled : settle verbose inner with
  | nil => simp [hexEscape, settled] at read
  | cons c cs =>
    obtain ⟨cs', settled', whole, behind⟩ := settle_cons verbose enclosed settled
    rw [hexEscape_cons settled] at read
    rw [hexEscape_cons settled']
    split at read
    next brace =>
      rw [if_pos brace]
      split at read
      next digits after found =>
        obtain ⟨after', found', tail⟩ := carries_braced false behind found
        split at read
        next => cases read
        next filled =>
          obtain ⟨n, number, read⟩ := Option.bind_eq_some_iff.mp read
          obtain ⟨c, char, same⟩ := Option.map_eq_some_iff.mp read
          cases same
          exact ⟨settle verbose after', by simp [found', filled, number, char], tail.settle verbose⟩
      next => cases read
    next plain =>
      rw [if_neg plain]
      obtain ⟨⟨digits, after⟩, found, read⟩ := Option.bind_eq_some_iff.mp read
      obtain ⟨n, number, read⟩ := Option.bind_eq_some_iff.mp read
      obtain ⟨c, char, same⟩ := Option.map_eq_some_iff.mp read
      cases same
      obtain ⟨after', found', tail⟩ := carries_hexDigits length whole found
      exact ⟨after', by simp [found', number, char], tail⟩

theorem propertyEscape_cons {negated : Bool} {cs : List Char} (settled : settle verbose cs = c :: rest) :
    propertyEscape verbose negated cs =
      if c = '{' then (braced verbose false rest).map fun (name, after) =>
        (.property (queryOf name) negated, after)
      else if c = '\\' then none
      else some (.property (.named (toString c)) negated, settle verbose rest) := by
  unfold propertyEscape
  rw [settled]
  split <;> simp_all

theorem carries_propertyEscape (negated : Bool) : Carries (propertyEscape verbose negated) := by
  intro hides inner outer item rest enclosed read
  cases settled : settle verbose inner with
  | nil => simp [propertyEscape, settled] at read
  | cons c cs =>
    obtain ⟨cs', settled', whole, behind⟩ := settle_cons verbose enclosed settled
    rw [propertyEscape_cons settled] at read
    rw [propertyEscape_cons settled']
    split at read
    next brace =>
      rw [if_pos brace]
      simp only [Option.map_eq_some_iff, Prod.exists, Prod.mk.injEq] at read ⊢
      obtain ⟨name, after, found, rfl, rfl⟩ := read
      obtain ⟨after', found', tail⟩ := carries_braced false behind found
      exact ⟨after', ⟨name, after', found', rfl, rfl⟩, tail⟩
    next plain =>
      rw [if_neg plain]
      split at read
      next => cases read
      next letter =>
        cases read
        exact ⟨_, if_neg letter, behind.settle verbose⟩

theorem boundaryEscape_of_head (other : inner.head? ≠ some '{') :
    boundaryEscape verbose inner = some (.anchor (.word .any), inner) := by
  cases inner with
  | nil => rfl
  | cons c rest => simp_all [boundaryEscape]

theorem Enclosed.head_ne (enclosed : Enclosed hides inner outer) (differs : c ≠ ')')
    (other : inner.head? ≠ some c) : outer.head? ≠ some c := by
  cases enclosed with
  | closed =>
    cases inner with
    | nil => simpa using differs.symm
    | cons first rest => simpa using other
  | hidden => exact other

theorem carries_boundaryEscape : Carries (boundaryEscape verbose) := by
  intro hides inner outer item rest enclosed read
  by_cases brace : inner.head? = some '{'
  · obtain ⟨inner, rfl⟩ := List.head?_eq_some_iff.mp brace
    obtain ⟨outer, rfl, behind⟩ := enclosed.of_cons
    unfold boundaryEscape at read ⊢
    dsimp only at read ⊢
    cases settled : settle verbose inner with
    | nil => simp [settled] at read
    | cons first cs =>
      obtain ⟨cs', settled', whole, -⟩ := settle_cons verbose behind settled
      simp only [settled] at read
      simp only [settled']
      split at read
      next edge =>
        cases read
        exact ⟨_, if_pos edge, enclosed⟩
      next letter =>
        rw [if_neg letter]
        have parenthesis : isEdgeLetter ')' = false := rfl
        obtain ⟨name, after, after', left, right, tail⟩ := takeSettled_enclosed isEdgeLetter
          verbose parenthesis whole (Nat.le_refl _) (Nat.le_refl _)
        simp only [edgeName_eq, left] at read
        simp only [edgeName_eq, right]
        split at read
        next =>
          obtain ⟨left', rfl, finished⟩ := tail.of_cons
          split at read <;> cases read <;> exact ⟨left', by simp_all, finished⟩
        next => cases read
  · rw [boundaryEscape_of_head brace] at read
    cases read
    exact ⟨outer, boundaryEscape_of_head (enclosed.head_ne (by decide) brace), enclosed⟩

theorem carries_escaped : Carries (escaped verbose) := by
  intro hides inner outer item rest enclosed read
  cases inner with
  | nil => cases read
  | cons c inner =>
    obtain ⟨outer, rfl, behind⟩ := enclosed.of_cons
    dsimp only [escaped] at read ⊢
    split at read
    case h_1 => exact carries_hexEscape 2 behind read
    case h_2 => exact carries_hexEscape 4 behind read
    case h_3 => exact carries_hexEscape 8 behind read
    case h_4 => exact carries_propertyEscape false behind read
    case h_5 => exact carries_propertyEscape true behind read
    case h_20 => exact carries_boundaryEscape behind read
    case h_24 =>
      split at read
      next escapable =>
        cases read
        exact ⟨outer, by simp_all, behind⟩
      next => cases read
    all_goals
      cases read
      exact ⟨outer, rfl, behind⟩

/-! ### Bracketed classes -/

theorem namedClass?_append (negated : Bool) (cs : List Char) :
    namedClass? negated (cs ++ [')']) =
      (namedClass? negated cs).map fun (item, rest) => (item, rest ++ [')']) := by
  unfold namedClass?
  by_cases colon : ':' ∈ cs
  · obtain ⟨name, after, rfl, free⟩ := List.eq_append_cons_of_mem colon
    have passes : ∀ c ∈ name, (c != ':') = true := by
      intro c mem
      simpa using fun same : c = ':' => free (same ▸ mem)
    rw [List.append_assoc, List.dropWhile_append_of_pos passes, List.takeWhile_append_of_pos passes,
      List.dropWhile_append_of_pos passes, List.takeWhile_append_of_pos passes]
    cases after with
    | nil => rfl
    | cons c after =>
      by_cases bracket : c = ']'
      · subst bracket
        simp [Option.map_map, Function.comp_def]
      · simp [bracket]
  · have passes : ∀ c ∈ cs, (c != ':') = true := by
      intro c mem
      simpa using fun same : c = ':' => colon (same ▸ mem)
    rw [List.dropWhile_append_of_pos passes, List.dropWhile_eq_nil_iff.mpr passes]
    rfl

theorem asciiClass?_append (cs : List Char) :
    asciiClass? (cs ++ [')']) = (asciiClass? cs).map fun (item, rest) => (item, rest ++ [')']) := by
  cases cs with
  | nil => rfl
  | cons c cs =>
    by_cases colon : c = ':'
    · subst colon
      cases cs with
      | nil => rfl
      | cons d cs =>
        by_cases caret : d = '^'
        · subst caret
          exact namedClass?_append true cs
        · simpa [asciiClass?, caret] using namedClass?_append false (d :: cs)
    · simp [asciiClass?, colon]

theorem namedClass?_subset {negated : Bool} {cs : List Char} {set : ClassSet}
    (read : namedClass? negated cs = some (set, rest)) : rest ⊆ cs := by
  unfold namedClass? at read
  split at read
  next after ended =>
    obtain ⟨kind, -, same⟩ := Option.map_eq_some_iff.mp read
    cases same
    have behind : rest ⊆ cs.dropWhile (· != ':') := by simp [ended]
    exact List.Subset.trans behind (List.dropWhile_suffix _).subset
  next => cases read

theorem asciiClass?_subset {cs : List Char} {set : ClassSet} (read : asciiClass? cs = some (set, rest)) :
    rest ⊆ cs := by
  unfold asciiClass? at read
  split at read
  next => exact List.subset_cons_of_subset _ (List.subset_cons_of_subset _ (namedClass?_subset read))
  next => exact List.subset_cons_of_subset _ (namedClass?_subset read)
  next => cases read

theorem carries_asciiClass? : Carries asciiClass? :=
  carries_of_append rfl fun {cs _ _} read => by
    refine ⟨?_, asciiClass?_subset read⟩
    rw [asciiClass?_append, read]
    rfl

theorem asciiClass?_enclosed_none (enclosed : Enclosed hides inner outer) (none : asciiClass? inner = none) :
    asciiClass? outer = .none := by
  cases enclosed with
  | closed => rw [asciiClass?_append, none]; rfl
  | hidden => exact none

namespace Enclosed

theorem head_iff (enclosed : Enclosed hides inner outer) (differs : c ≠ ')') :
    outer.head? = some c ↔ inner.head? = some c := by
  cases enclosed with
  | closed =>
    cases inner with
    | nil => simpa using differs.symm
    | cons first rest => exact Iff.rfl
  | hidden => exact Iff.rfl

theorem tail (enclosed : Enclosed hides inner outer) (first : inner.head? = some c) :
    Enclosed hides inner.tail outer.tail := by
  obtain ⟨rest, rfl⟩ := List.head?_eq_some_iff.mp first
  obtain ⟨outer, rfl, behind⟩ := enclosed.of_cons
  exact behind

end Enclosed

theorem leadingCaret_enclosed (verbose : Bool) (enclosed : Enclosed hides inner outer) :
    ∃ negated rest rest', leadingCaret verbose inner = (negated, rest) ∧
      leadingCaret verbose outer = (negated, rest') ∧ Enclosed hides rest rest' := by
  have without : ∀ {cs : List Char}, cs.head? ≠ some '^' → leadingCaret verbose cs = (false, cs) := by
    intro cs other
    unfold leadingCaret
    split <;> simp_all
  by_cases caret : inner.head? = some '^'
  · obtain ⟨inner, rfl⟩ := List.head?_eq_some_iff.mp caret
    obtain ⟨outer, rfl, behind⟩ := enclosed.of_cons
    exact ⟨true, _, _, rfl, rfl, behind.settle verbose⟩
  · exact ⟨false, _, _, without caret, without (enclosed.head_ne (by decide) caret), enclosed⟩

theorem firstItems_enclosed (verbose : Bool) (enclosed : Enclosed hides inner outer) :
    ∃ items rest rest', firstItems verbose inner = (items, rest) ∧
      firstItems verbose outer = (items, rest') ∧ Enclosed hides rest rest' := by
  obtain ⟨hyphens, rest, rest', left, right, tail⟩ := takeSettled_enclosed (· = '-') verbose rfl
    enclosed (Nat.le_refl _) (Nat.le_refl _)
  unfold firstItems
  simp only [leadingHyphens_eq, left, right]
  by_cases bracket : hyphens = [] ∧ rest.head? = some ']'
  · obtain ⟨rfl, bracket⟩ := bracket
    obtain ⟨inner', rfl⟩ := List.head?_eq_some_iff.mp bracket
    obtain ⟨outer', rfl, behind⟩ := tail.of_cons
    exact ⟨_, _, _, rfl, rfl, behind.settle verbose⟩
  · refine ⟨hyphens.map fun c => .literal { char := c }, rest, rest', ?_, ?_, tail⟩
    · split <;> simp_all
    · have same := tail.head_iff (c := ']') (by decide)
      split <;> simp_all

theorem openBracket_enclosed (verbose : Bool) (enclosed : Enclosed hides inner outer) :
    ∃ negated items rest rest', openBracket verbose inner = (negated, items, rest) ∧
      openBracket verbose outer = (negated, items, rest') ∧ Enclosed hides rest rest' := by
  obtain ⟨negated, body, body', left, right, tail⟩ :=
    leadingCaret_enclosed verbose (enclosed.settle verbose)
  obtain ⟨items, rest, rest', left', right', tail'⟩ := firstItems_enclosed verbose tail
  exact ⟨negated, items, rest, rest', by simp [openBracket, left, left'],
    by simp [openBracket, right, right'], tail'⟩

theorem carries_setItem : Carries (setItem verbose) := by
  intro hides inner outer item rest enclosed read
  cases inner with
  | nil => cases read
  | cons c inner =>
    obtain ⟨outer, rfl, behind⟩ := enclosed.of_cons
    by_cases backslash : c = '\\'
    · subst backslash
      exact carries_escaped behind read
    · simp only [setItem] at read ⊢
      cases read
      exact ⟨outer, rfl, behind⟩

/-- After the first item comes a hyphen that starts no range, the last item, or something else. -/
theorem setRange_eq {cs : List Char} {first : Escaped} (item : setItem verbose cs = some (first, rest)) :
    setRange verbose cs =
      if settle verbose rest = [] then none
      else if (settle verbose rest).head? = some '-' then
        let after := settle verbose (settle verbose rest).tail
        if after.head? = some ']' ∨ after.head? = some '-' then
          (setOfEscaped? first).map (·, settle verbose rest)
        else (setItem verbose after).bind fun (last, cs) => (rangeOf? first last).map (·, cs)
      else (setOfEscaped? first).map (·, settle verbose rest) := by
  unfold setRange
  rw [item, Option.bind_some]
  dsimp only
  cases settle verbose rest with
  | nil => rfl
  | cons c after =>
    by_cases hyphen : c = '-'
    · subst hyphen
      simp only [Bool.or_eq_true, decide_eq_true_eq, reduceCtorEq, ↓reduceIte, List.head?_cons,
        List.tail_cons]
      congr
    · simp [hyphen]

theorem carries_setRange : Carries (setRange verbose) := by
  intro hides inner outer set rest enclosed read
  cases item : setItem verbose inner with
  | none => simp [setRange, item] at read
  | some found =>
    obtain ⟨first, cs⟩ := found
    obtain ⟨cs', item', behind⟩ := carries_setItem enclosed item
    have after := behind.settle verbose
    rw [setRange_eq item] at read
    rw [setRange_eq item']
    split at read
    next => cases read
    next more =>
      have more' : settle verbose cs' ≠ [] := by
        obtain ⟨c, tail, start⟩ := List.exists_cons_of_ne_nil more
        obtain ⟨tail', start', -⟩ := settle_cons verbose behind start
        simp [start']
      rw [if_neg more']
      split at read
      next hyphen =>
        rw [if_pos ((after.head_iff (by decide)).mpr hyphen)]
        have last := (after.tail hyphen).settle verbose
        dsimp only at read ⊢
        simp only [last.head_iff (c := ']') (by decide), last.head_iff (c := '-') (by decide)]
        split at read
        next alone =>
          obtain ⟨set, single, same⟩ := Option.map_eq_some_iff.mp read
          cases same
          exact ⟨_, by rw [if_pos alone, single]; rfl, after⟩
        next range =>
          rw [if_neg range]
          obtain ⟨⟨final, behind⟩, found, read⟩ := Option.bind_eq_some_iff.mp read
          obtain ⟨set, spanned, same⟩ := Option.map_eq_some_iff.mp read
          cases same
          obtain ⟨behind', found', finished⟩ := carries_setItem last found
          exact ⟨behind', by simp [found', spanned], finished⟩
      next plain =>
        rw [if_neg (mt (after.head_iff (by decide)).mp plain)]
        obtain ⟨set, single, same⟩ := Option.map_eq_some_iff.mp read
        cases same
        exact ⟨_, by rw [single]; rfl, after⟩

/-- The operator that two characters in a row stand for. -/
def doubled? (c : Char) (rest : List Char) : Option SetOperator :=
  if rest.head? = some c then
    if c = '&' then some .inter else if c = '-' then some .diff
    else if c = '~' then some .symmDiff else none
  else none

theorem setLoop_cons {fuel : Nat} {stack : List OpenSet} {items : List ClassSet} {cs : List Char}
    (settled : settle verbose cs = c :: rest) :
    setLoop verbose (fuel + 1) stack items cs =
      if c = '[' then
        match asciiClass? rest with
        | some (item, rest) => setLoop verbose fuel stack (item :: items) rest
        | none =>
          let (negated, first, rest) := openBracket verbose rest
          setLoop verbose fuel (.bracket negated items :: stack) first.reverse rest
      else if c = ']' then
        match finishOperator (unionOf items) stack with
        | (set, [.bracket negated _]) => some (negated, set, rest)
        | (set, .bracket negated before :: outer) =>
          setLoop verbose fuel outer (.bracketed negated set :: before) rest
        | _ => none
      else
        match doubled? c rest with
        | some op =>
          let (left, stack) := finishOperator (unionOf items) stack
          setLoop verbose fuel (.operator op left :: stack) [] rest.tail
        | none => (setRange verbose (c :: rest)).bind fun (item, rest) =>
          setLoop verbose fuel stack (item :: items) rest := by
  conv => lhs; unfold setLoop
  rw [settled]
  dsimp only
  split
  next same => cases same
  next same => cases same; rfl
  next same => cases same; rfl
  next same => cases same; rfl
  next same => cases same; rfl
  next same => cases same; rfl
  next set shut inter diff symm =>
    have opening : c ≠ '[' := fun same => set rest (same ▸ rfl)
    have closing : c ≠ ']' := fun same => shut rest (same ▸ rfl)
    have single : doubled? c rest = none := by
      unfold doubled?
      split
      next twice =>
        obtain ⟨after, rfl⟩ := List.head?_eq_some_iff.mp twice
        have ampersand : c ≠ '&' := fun same => inter after (same ▸ rfl)
        have hyphen : c ≠ '-' := fun same => diff after (same ▸ rfl)
        have tilde : c ≠ '~' := fun same => symm after (same ▸ rfl)
        simp [ampersand, hyphen, tilde]
      next => rfl
    rw [if_neg opening, if_neg closing, single]

theorem doubled?_enclosed (enclosed : Enclosed hides inner outer) (c : Char) :
    doubled? c outer = doubled? c inner := by
  by_cases differs : c = ')'
  · subst differs
    have never : ∀ cs : List Char, doubled? ')' cs = none := by
      intro cs
      simp [doubled?]
    rw [never, never]
  · simp only [doubled?, enclosed.head_iff differs]

theorem head_of_doubled? {op : SetOperator} (doubled : doubled? c rest = some op) :
    rest.head? = some c := by
  unfold doubled? at doubled
  split at doubled
  next twice => exact twice
  next => cases doubled

/-- With a step for every character that is left and one more, the closing parenthesis of the group
changes nothing. -/
theorem setLoop_enclosed {n m : Nat} {stack : List OpenSet} {items : List ClassSet} {negated : Bool}
    {set : ClassSet} (enclosed : Enclosed hides inner outer) (enough : n ≤ m)
    (read : setLoop verbose n stack items inner = some (negated, set, rest)) :
    ∃ rest', setLoop verbose m stack items outer = some (negated, set, rest') ∧
      Enclosed hides rest rest' := by
  induction n generalizing m stack items inner outer with
  | zero => cases read
  | succ n ih =>
    obtain ⟨m, rfl⟩ : ∃ k, m = k + 1 := ⟨m - 1, by omega⟩
    have fewer : n ≤ m := Nat.le_of_succ_le_succ enough
    cases settled : settle verbose inner with
    | nil => simp [setLoop, settled] at read
    | cons c cs =>
      obtain ⟨cs', settled', whole, behind⟩ := settle_cons verbose enclosed settled
      rw [setLoop_cons settled] at read
      rw [setLoop_cons settled']
      split at read
      next bracket =>
        rw [if_pos bracket]
        split at read
        next item after found =>
          obtain ⟨after', found', behind⟩ := carries_asciiClass? behind found
          rw [found']
          exact ih behind fewer read
        next missing =>
          rw [asciiClass?_enclosed_none behind missing]
          obtain ⟨negated, first, body, body', left, right, inside⟩ :=
            openBracket_enclosed verbose behind
          rw [left] at read
          rw [right]
          exact ih inside fewer read
      next item =>
        rw [if_neg item]
        split at read
        next bracket =>
          rw [if_pos bracket]
          split at read
          next =>
            cases read
            exact ⟨cs', rfl, behind⟩
          next => exact ih behind fewer read
          next => cases read
        next open_ =>
          rw [if_neg open_, doubled?_enclosed behind]
          split at read
          next op doubled =>
            exact ih (behind.tail (head_of_doubled? doubled)) fewer read
          next =>
            obtain ⟨⟨item, after⟩, found, read⟩ := Option.bind_eq_some_iff.mp read
            obtain ⟨after', found', behind⟩ := carries_setRange whole found
            rw [found']
            exact ih behind fewer read

theorem carries_bracketClass : Carries (bracketClass verbose) := by
  intro hides inner outer item rest enclosed read
  unfold bracketClass at read ⊢
  obtain ⟨negated, first, body, body', left, right, inside⟩ :=
    openBracket_enclosed verbose enclosed
  rw [left] at read
  rw [right]
  obtain ⟨⟨negated', set, after⟩, found, same⟩ := Option.map_eq_some_iff.mp read
  cases same
  have enough : inner.length + 1 ≤ outer.length + 1 := by
    cases enclosed <;> simp
  obtain ⟨after', found', behind⟩ := setLoop_enclosed inside enough found
  exact ⟨after', by simp [found'], behind⟩

end BlockMarkup.Pattern.Reader
