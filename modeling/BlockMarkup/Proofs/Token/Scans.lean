import BlockMarkup.Proofs.Token.Trace

/-!
# What scanning does

`Scans` says token by token which parts a source has, in terms of the source and the rules alone.
Under anchored rules every source has a trace, and it consists of these parts (`trace_scans`).
-/

namespace BlockMarkup

open Pattern (Match)

/-- The part that a rule makes of its match at `p`. -/
def rulePart (source : List Char) (p : Nat) (r : CompiledRule) (m : Match) : Part :=
  let value := slice source p (p + m.stop)
  (.rule, { type := r.name, value, params := r.captures (source.drop p) m, loc := ⟨p, p + m.stop⟩,
            alternative := r.alternativeIndex value })

/-- The part that holds the characters from `p` up to `q`. -/
def textPart (source : List Char) (p q : Nat) : Part := (.text, .text (slice source p q) ⟨p, q⟩)

/-- The parts of a source from a position on. -/
inductive Scans (rules : List CompiledRule) (source : List Char) : Nat → List Part → Prop where
  | done : Scans rules source source.length []
  | rule {p : Nat} {r : CompiledRule} {m : Match} {parts : List Part}
      (wins : Wins rules (source.drop p) r m) (later : Scans rules source (p + m.stop) parts) :
      Scans rules source p (rulePart source p r m :: parts)
  | text {p q : Nat} {parts : List Part} (filled : p < q)
      (missed : ∀ i, p ≤ i → i < q → ¬ Hit rules (source.drop i))
      (ended : q = source.length ∨ Hit rules (source.drop q)) (later : Scans rules source q parts) :
      Scans rules source p (textPart source p q :: parts)

namespace Scanner

def mark (s : Scanner) : Nat := s.offset - s.pending.length

/-- How a scanner stands in its source. -/
structure At (rules : List CompiledRule) (source : List Char) (s : Scanner) : Prop where
  inside : s.offset ≤ source.length
  rest : s.rest = source.drop s.offset
  back : s.pending.length ≤ s.offset
  pending : s.pending.reverse = (source.drop s.mark).take s.pending.length
  missed : ∀ i, s.mark ≤ i → i < s.offset → ¬ Hit rules (source.drop i)

end Scanner

variable {rules : List CompiledRule} {source : List Char}

theorem hit_inside {p : Nat} (hit : Hit rules (source.drop p)) : p < source.length := by
  obtain ⟨r, -, m, found, nonempty⟩ := hit
  have bounds := Pattern.Program.find_bounds found
  rw [List.length_drop] at bounds
  omega

theorem ended_inside {q : Nat} (ended : q = source.length ∨ Hit rules (source.drop q)) :
    q ≤ source.length := by
  rcases ended with stop | hit
  · exact Nat.le_of_eq stop
  · exact Nat.le_of_lt (hit_inside hit)

theorem Hit.wins {rest : List Char} (hit : Hit rules rest) : ∃ r m, Wins rules rest r m := by
  cases chosen : firstMatch rest rules with
  | none => exact absurd hit (firstMatch_none.mp chosen)
  | some winner =>
    obtain ⟨m, wins, -⟩ := firstMatch_wins chosen
    exact ⟨_, m, wins⟩

theorem Wins.mem {rest : List Char} {r : CompiledRule} {m : Match} (wins : Wins rules rest r m) :
    r ∈ rules := by
  obtain ⟨before, after, rfl, -⟩ := wins.first
  simp

theorem slice_drop (p n : Nat) : slice (source.drop p) 0 n = slice source p (p + n) := by
  simp [slice]

theorem length_slice {p q : Nat} (inside : q ≤ source.length) : (slice source p q).length = q - p := by
  simp [slice]
  omega

/-! ### One step -/

namespace Tracer

variable {t : Tracer}

@[simp] theorem flush_rest (s : Scanner) : s.flush.rest = s.rest := by
  unfold Scanner.flush
  split <;> rfl

@[simp] theorem flush_offset (s : Scanner) : s.flush.offset = s.offset := by
  unfold Scanner.flush
  split <;> rfl

@[simp] theorem flush_pending (s : Scanner) : s.flush.pending = [] := by
  unfold Scanner.flush
  split
  · assumption
  · rfl

theorem flush_parts (place : t.scanner.At rules source) :
    t.flush.parts = t.parts ++ (if t.scanner.mark < t.scanner.offset
      then [textPart source t.scanner.mark t.scanner.offset] else []) := by
  have back := place.back
  have value := place.pending
  unfold Scanner.mark at value ⊢
  cases pending : t.scanner.pending with
  | nil => simp [parts, flush, Scanner.flush, pending]
  | cons c cs =>
    rw [pending] at back value
    have width : t.scanner.offset - (t.scanner.offset - (c :: cs).length) = (c :: cs).length := by omega
    rw [if_pos (by simp at back ⊢; omega), textPart, slice, width, ← value]
    simp [parts, flush, Scanner.flush, pending, Token.text]

theorem start_at (rules : List CompiledRule) (source : List Char) :
    (start source).scanner.At rules source where
  inside := Nat.zero_le _
  rest := rfl
  back := Nat.zero_le _
  pending := by simp [start, Scanner.start]
  missed := fun i _ high => absurd high (Nat.not_lt_zero i)

theorem step_gather (place : t.scanner.At rules source) (more : t.scanner.offset < source.length)
    (missed : ¬ Hit rules (source.drop t.scanner.offset)) :
    ∃ u, t.step rules = some u ∧ u.scanner.At rules source ∧ u.scanner.offset = t.scanner.offset + 1 ∧
      u.scanner.mark = t.scanner.mark ∧ u.parts = t.parts := by
  have rest := place.rest
  rw [List.drop_eq_getElem_cons more] at rest
  have chosen : firstMatch t.scanner.rest rules = none := by
    rw [place.rest]
    exact firstMatch_none.mpr missed
  have last : (source.drop t.scanner.mark)[t.scanner.pending.length]? = some source[t.scanner.offset] := by
    rw [List.getElem?_drop, Scanner.mark, Nat.sub_add_cancel place.back, List.getElem?_eq_getElem more]
  let s : Scanner := { t.scanner with
    rest := source.drop (t.scanner.offset + 1)
    offset := t.scanner.offset + 1
    pending := source[t.scanner.offset] :: t.scanner.pending }
  have mark : s.mark = t.scanner.mark := by simp [s, Scanner.mark]
  have stepped : t.step rules = some ⟨s, t.origins⟩ := by
    rw [step, Scanner.step, chosen, rest]
    rfl
  refine ⟨⟨s, t.origins⟩, stepped, ?_, rfl, mark, rfl⟩
  exact {
    inside := more
    rest := rfl
    back := Nat.succ_le_succ place.back
    pending := by
      rw [mark, List.length_cons, List.take_add_one, last, ← place.pending, List.reverse_cons]
      rfl
    missed := by
      intro i low high
      rw [mark] at low
      by_cases old : i < t.scanner.offset
      · exact place.missed i low old
      · obtain rfl : i = t.scanner.offset := by simp only [s] at high; omega
        exact missed }

theorem step_emit (place : t.scanner.At rules source) {r : CompiledRule} {m : Match}
    (anchored : ∀ r ∈ rules, r.Anchored) (wins : Wins rules (source.drop t.scanner.offset) r m) :
    ∃ u, t.step rules = some u ∧ u.scanner.At rules source ∧
      u.scanner.offset = t.scanner.offset + m.stop ∧ u.scanner.mark = t.scanner.offset + m.stop ∧
      u.parts = t.flush.parts ++ [rulePart source t.scanner.offset r m] := by
  have start : m.start = 0 := anchored r wins.mem _ m wins.found
  have bounds := (Pattern.Program.find_bounds wins.found).2
  rw [List.length_drop] at bounds
  have inside := place.inside
  have chosen := wins.firstMatch
  rw [start, slice_drop, ← place.rest] at chosen
  have value : (slice source t.scanner.offset (t.scanner.offset + m.stop)).length =
      t.scanner.offset + m.stop - t.scanner.offset := length_slice (by omega)
  have dropped : dropBytes (slice source t.scanner.offset (t.scanner.offset + m.stop)).utf8ByteSize
      (source.drop t.scanner.offset) = some (source.drop (t.scanner.offset + m.stop)) := by
    rw [slice, Nat.add_sub_cancel_left, dropBytes_take, List.drop_drop]
  let s : Scanner := { t.scanner.flush with
    rest := source.drop (t.scanner.offset + m.stop)
    offset := t.scanner.offset + m.stop
    tokens := (rulePart source t.scanner.offset r m).2 :: t.scanner.flush.tokens }
  have mark : s.mark = t.scanner.offset + m.stop := by simp [s, Scanner.mark]
  have stepped : t.step rules = some ⟨s, .rule :: t.flush.origins⟩ := by
    rw [step, Scanner.step, chosen]
    simp [Scanner.emit, dropped, value, s, rulePart, place.rest]
  refine ⟨⟨s, .rule :: t.flush.origins⟩, stepped, ?_, rfl, mark, ?_⟩
  · exact {
      inside := by simp only [s]; omega
      rest := rfl
      back := by simp [s]
      pending := by simp [s]
      missed := fun i low high => absurd high (by rw [mark] at low; exact Nat.not_lt.mpr low) }
  · simp [parts, flush, s, rulePart]

/-- The parts from the pending characters on, once their run has ended. -/
theorem scans_mark {parts : List Part} (place : t.scanner.At rules source)
    (ended : t.scanner.offset = source.length ∨ Hit rules (source.drop t.scanner.offset))
    (later : Scans rules source t.scanner.offset parts) :
    ∃ all, t.flush.parts ++ parts = t.parts ++ all ∧ Scans rules source t.scanner.mark all := by
  rw [flush_parts place]
  by_cases filled : t.scanner.mark < t.scanner.offset
  · rw [if_pos filled]
    exact ⟨_, List.append_assoc .., .text filled place.missed ended later⟩
  · have empty : t.scanner.mark = t.scanner.offset := by
      have : t.scanner.mark ≤ t.scanner.offset := Nat.sub_le ..
      omega
    rw [if_neg filled, empty]
    exact ⟨parts, by simp, later⟩

theorem scans_end (place : t.scanner.At rules source) (stop : t.scanner.offset = source.length) :
    ∃ parts, t.flush.parts = t.parts ++ parts ∧ Scans rules source t.scanner.mark parts := by
  have nothing : Scans rules source t.scanner.offset [] := by
    rw [stop]
    exact .done
  simpa using scans_mark place (.inl stop) nothing

/-- A run makes the parts from the pending characters on. -/
theorem run_scans (anchored : ∀ r ∈ rules, r.Anchored) (fuel : Nat) (place : t.scanner.At rules source)
    (enough : source.length ≤ t.scanner.offset + fuel) :
    ∃ u parts, t.run rules fuel = some u ∧ u.flush.parts = t.parts ++ parts ∧
      Scans rules source t.scanner.mark parts := by
  have inside := place.inside
  induction fuel generalizing t with
  | zero =>
    obtain ⟨parts, split, scans⟩ := scans_end place (by omega)
    exact ⟨t, parts, rfl, split, scans⟩
  | succ fuel ih =>
    rw [run]
    split
    · rename_i empty
      rw [place.rest, List.isEmpty_iff, List.drop_eq_nil_iff] at empty
      obtain ⟨parts, split, scans⟩ := scans_end place (by omega)
      exact ⟨t, parts, rfl, split, scans⟩
    · rename_i more
      rw [place.rest, List.isEmpty_iff, List.drop_eq_nil_iff, Nat.not_le] at more
      by_cases hit : Hit rules (source.drop t.scanner.offset)
      · obtain ⟨r, m, wins⟩ := hit.wins
        obtain ⟨u, stepped, placed, offset, mark, made⟩ := step_emit place anchored wins
        obtain ⟨v, parts, ran, rest, scans⟩ := ih placed (by have := wins.nonempty; omega) placed.inside
        rw [mark] at scans
        obtain ⟨all, split, whole⟩ := scans_mark place (.inr hit) (.rule wins scans)
        refine ⟨v, all, by rw [stepped]; exact ran, ?_, whole⟩
        rw [rest, made, List.append_assoc]
        exact split
      · obtain ⟨u, stepped, placed, offset, mark, same⟩ := step_gather place more hit
        obtain ⟨v, parts, ran, rest, scans⟩ := ih placed (by omega) placed.inside
        exact ⟨v, parts, by rw [stepped]; exact ran, same ▸ rest, mark ▸ scans⟩

end Tracer

/-- Under anchored rules every source has a trace, and it has the parts that scanning makes. -/
theorem trace_scans (anchored : ∀ r ∈ rules, r.Anchored) (source : String) :
    ∃ parts, trace rules source = some parts ∧ Scans rules source.toList 0 parts := by
  obtain ⟨t, parts, ran, split, scans⟩ :=
    Tracer.run_scans anchored source.toList.length (Tracer.start_at rules source.toList) (Nat.le_add_left ..)
  refine ⟨parts, ?_, by simpa [Scanner.mark, Tracer.start, Scanner.start] using scans⟩
  simp only [trace, ran, Option.map_some, split]
  rfl

end BlockMarkup
