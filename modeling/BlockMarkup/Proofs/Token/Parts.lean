import BlockMarkup.Proofs.Token.Trace

/-!
# Where the parts of a trace come from

Whatever the rules match, each part of a trace holds unmatched text or is made of the match of the rule
that wins at some place of the source (`trace_made`).
-/

namespace BlockMarkup

open Pattern (Match)

/-- What a scan can make a part of: unmatched text, or the match of a rule that wins where the source
goes on with `rest`. -/
inductive Made (rules : List CompiledRule) (source : List Char) : Part → Prop
  | text (value : String) (loc : Location) : Made rules source (.text, .text value loc)
  | rule {rest : List Char} {r : CompiledRule} {m : Match} (left : rest <:+ source)
      (wins : Wins rules rest r m) (loc : Location) :
      Made rules source (.rule,
        { type := r.name, value := slice rest m.start m.stop, params := r.captures rest m, loc,
          alternative := r.alternativeIndex (slice rest m.start m.stop) })

theorem dropBytes_suffix {n : Nat} {cs rest : List Char} (dropped : dropBytes n cs = some rest) :
    rest <:+ cs := by
  fun_induction dropBytes n cs with
  | case1 cs =>
    cases dropped
    exact List.suffix_refl _
  | case2 n c cs fits ih => exact (ih dropped).trans (List.suffix_cons c cs)
  | case3 => cases dropped
  | case4 => cases dropped

namespace Tracer

variable {rules : List CompiledRule} {source : List Char} {t u : Tracer}

/-- The scanner is in this source, and what it has made so far is made by these rules. -/
structure Sound (rules : List CompiledRule) (source : List Char) (t : Tracer) : Prop where
  left : t.scanner.rest <:+ source
  made : ∀ part ∈ t.origins.zip t.scanner.tokens, Made rules source part

theorem flush_sound (sound : t.Sound rules source) : t.flush.Sound rules source := by
  obtain ⟨left, made⟩ := sound
  cases pending : t.scanner.pending with
  | nil => exact ⟨by simpa [flush, Scanner.flush, pending] using left,
      by simpa [flush, Scanner.flush, pending] using made⟩
  | cons c cs =>
    refine ⟨by simpa [flush, Scanner.flush, pending] using left, ?_⟩
    simp only [flush, Scanner.flush, pending, List.isEmpty_cons]
    exact List.forall_mem_cons.mpr ⟨.text _ _, made⟩

theorem step_sound (sound : t.Sound rules source) (stepped : t.step rules = some u) :
    u.Sound rules source := by
  obtain ⟨s, moved, rfl⟩ := Option.map_eq_some_iff.mp stepped
  unfold Scanner.step at moved
  cases chosen : firstMatch t.scanner.rest rules with
  | some winner =>
    obtain ⟨r, found⟩ := winner
    obtain ⟨m, wins, rfl⟩ := firstMatch_wins chosen
    have flushed := flush_sound sound
    simp only [chosen, Scanner.emit] at moved
    obtain ⟨rest, dropped, rfl⟩ := Option.map_eq_some_iff.mp moved
    refine ⟨(dropBytes_suffix dropped).trans flushed.left, ?_⟩
    exact List.forall_mem_cons.mpr ⟨.rule sound.left wins _, flushed.made⟩
  | none =>
    simp only [chosen] at moved
    cases rest : t.scanner.rest with
    | nil =>
      simp only [rest, Option.some.injEq] at moved
      exact moved ▸ ⟨sound.left, sound.made⟩
    | cons c cs =>
      simp only [rest, Option.some.injEq] at moved
      have onward : cs <:+ source := (List.suffix_cons c cs).trans (rest ▸ sound.left)
      exact moved ▸ ⟨onward, sound.made⟩

theorem run_sound {fuel : Nat} (sound : t.Sound rules source) (ran : t.run rules fuel = some u) :
    u.Sound rules source := by
  induction fuel generalizing t with
  | zero =>
    cases ran
    exact sound
  | succ fuel ih =>
    rw [run] at ran
    split at ran
    next =>
      cases ran
      exact sound
    next =>
      split at ran
      next next stepped => exact ih (step_sound sound stepped) ran
      next => cases ran

end Tracer

theorem trace_made {rules : List CompiledRule} {source : String} {parts : List Part}
    (traced : trace rules source = some parts) : ∀ part ∈ parts, Made rules source.toList part := by
  obtain ⟨t, ran, rfl⟩ := Option.map_eq_some_iff.mp traced
  have start : (Tracer.start source.toList).Sound rules source.toList := ⟨List.suffix_refl _, nofun⟩
  have sound := Tracer.flush_sound (Tracer.run_sound start ran)
  intro part member
  exact sound.made part (List.mem_reverse.mp member)

end BlockMarkup
