import BlockMarkup.Proofs.Token.Winner

/-!
# Traces

A trace of a source has its tokens and tells of each one whether a rule made it or whether it holds
characters that no rule matched. `tokenize_eq_trace` says that it has no others.
-/

namespace BlockMarkup

inductive Origin where
  | rule
  /-- Characters that no rule matched. -/
  | text
  deriving DecidableEq, Repr

abbrev Part := Origin × Token

structure Tracer where
  scanner : Scanner
  origins : List Origin

namespace Tracer

def start (source : List Char) : Tracer := ⟨.start source, []⟩

def flush (t : Tracer) : Tracer :=
  { scanner := t.scanner.flush
    origins := if t.scanner.pending.isEmpty then t.origins else .text :: t.origins }

/-- The scanner makes the token of a match after those of a flush, or no token. -/
def step (rules : List CompiledRule) (t : Tracer) : Option Tracer :=
  (t.scanner.step rules).map fun scanner =>
    { scanner
      origins := if (firstMatch t.scanner.rest rules).isSome then .rule :: t.flush.origins
        else t.origins }

def run (rules : List CompiledRule) : Nat → Tracer → Option Tracer
  | 0, t => some t
  | fuel + 1, t =>
    if t.scanner.rest.isEmpty then some t
    else
      match t.step rules with
      | some t => run rules fuel t
      | none => none

/-- The tokens so far with their origins. -/
def parts (t : Tracer) : List Part := (t.origins.zip t.scanner.tokens).reverse

end Tracer

def trace (rules : List CompiledRule) (source : String) : Option (List Part) :=
  let cs := source.toList
  ((Tracer.start cs).run rules cs.length).map fun t => t.flush.parts

/-! ### A trace has the tokens of the source -/

namespace Tracer

variable {rules : List CompiledRule} {t u : Tracer}

/-- There is an origin for each token. -/
def Paired (t : Tracer) : Prop := t.origins.length = t.scanner.tokens.length

theorem flush_paired (paired : t.Paired) : t.flush.Paired := by
  cases pending : t.scanner.pending <;> simpa [Paired, flush, Scanner.flush, pending] using paired

theorem step_paired (paired : t.Paired) (stepped : t.step rules = some u) : u.Paired := by
  have flushed := flush_paired paired
  obtain ⟨s, moved, rfl⟩ := Option.map_eq_some_iff.mp stepped
  unfold Scanner.step at moved
  cases chosen : firstMatch t.scanner.rest rules with
  | some winner =>
    obtain ⟨r, found⟩ := winner
    simp only [chosen, Scanner.emit] at moved
    obtain ⟨rest, -, rfl⟩ := Option.map_eq_some_iff.mp moved
    simpa [Paired, flush] using flushed
  | none =>
    simp only [chosen] at moved
    cases rest : t.scanner.rest <;> simp only [rest, Option.some.injEq] at moved <;> subst s <;>
      simpa [Paired] using paired

theorem run_paired {fuel : Nat} (paired : t.Paired) (ran : t.run rules fuel = some u) : u.Paired := by
  induction fuel generalizing t with
  | zero => cases ran; exact paired
  | succ fuel ih =>
    rw [run] at ran
    split at ran
    · cases ran; exact paired
    · split at ran
      · rename_i next stepped
        exact ih (step_paired paired stepped) ran
      · cases ran

theorem run_scanner (rules : List CompiledRule) (fuel : Nat) (t : Tracer) :
    (t.run rules fuel).map (·.scanner) = t.scanner.run rules fuel := by
  induction fuel generalizing t with
  | zero => rfl
  | succ fuel ih =>
    rw [run, Scanner.run]
    split
    · rfl
    · unfold step
      cases t.scanner.step rules with
      | none => rfl
      | some s => exact ih _

theorem parts_tokens (paired : t.Paired) : t.parts.map (·.2) = t.scanner.tokens.reverse := by
  rw [parts, List.map_reverse, List.map_snd_zip (Nat.le_of_eq paired.symm)]

end Tracer

theorem tokenize_eq_trace (rules : List CompiledRule) (source : String) :
    tokenize rules source = (trace rules source).map fun parts => parts.map (·.2) := by
  rw [tokenize, trace]
  have ran := Tracer.run_scanner rules source.toList.length (.start source.toList)
  cases traced : (Tracer.start source.toList).run rules source.toList.length with
  | none =>
    rw [traced] at ran
    simp only [Tracer.start, Option.map_none] at ran
    simp [← ran]
  | some t =>
    have paired := Tracer.run_paired (by simp [Tracer.Paired, Tracer.start, Scanner.start]) traced
    rw [traced] at ran
    simp only [Tracer.start, Option.map_some] at ran
    simp only [← ran, Option.map_some, Option.some.injEq]
    exact (Tracer.parts_tokens (Tracer.flush_paired paired)).symm

theorem tokenize_of_trace {rules : List CompiledRule} {source : String} {parts : List Part}
    (traced : trace rules source = some parts) :
    tokenize rules source = some (parts.map (·.2)) := by
  rw [tokenize_eq_trace, traced]
  rfl

end BlockMarkup
