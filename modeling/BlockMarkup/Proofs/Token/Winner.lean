import BlockMarkup.Proofs.Pattern.Bounds
import BlockMarkup.Token.Scan

/-!
# The rule that wins

A rule hits where its pattern has a match that is not empty. Of the rules that hit at a place the
first one wins; `firstMatch_wins` and `firstMatch_none` say that `firstMatch` finds it.
-/

namespace BlockMarkup

open Pattern (Match)

namespace CompiledRule

def Hits (r : CompiledRule) (rest : List Char) : Prop :=
  ∃ m, r.program.find rest = some m ∧ m.start < m.stop

/-- The texts of the groups of a match, if the rule has groups. -/
def captures (r : CompiledRule) (rest : List Char) (m : Match) : Option Params :=
  if r.program.groups = 0 then none
  else some ((List.range r.program.groups).map fun i =>
    (m.group (i + 1)).map fun ends => slice rest ends.1 ends.2)

theorem find?_eq (r : CompiledRule) (rest : List Char) :
    r.find? rest = (r.program.find rest).map fun m => ⟨slice rest m.start m.stop, r.captures rest m⟩ := by
  unfold find?
  congr 1
  funext m
  by_cases none : r.program.groups = 0
  · simp [captures, hasParams, none]
  · simp [captures, hasParams, none, Nat.pos_of_ne_zero none]

end CompiledRule

theorem slice_isEmpty {rest : List Char} {m : Match} (inside : m.start ≤ m.stop ∧ m.stop ≤ rest.length) :
    (slice rest m.start m.stop).isEmpty = true ↔ ¬ m.start < m.stop := by
  rw [slice, String.isEmpty_iff, ← String.toList_inj, String.toList_ofList, String.toList_empty,
    ← List.length_eq_zero_iff, List.length_take, List.length_drop]
  omega

def Hit (rules : List CompiledRule) (rest : List Char) : Prop := ∃ r ∈ rules, r.Hits rest

/-- `r` is the first rule that hits, and `m` is its match. -/
structure Wins (rules : List CompiledRule) (rest : List Char) (r : CompiledRule) (m : Match) : Prop where
  found : r.program.find rest = some m
  nonempty : m.start < m.stop
  first : ∃ before after, rules = before ++ r :: after ∧ ∀ q ∈ before, ¬ q.Hits rest

theorem Wins.hit {rules : List CompiledRule} {rest : List Char} {r : CompiledRule} {m : Match}
    (wins : Wins rules rest r m) : Hit rules rest := by
  obtain ⟨before, after, split, -⟩ := wins.first
  exact ⟨r, by simp [split], m, wins.found, wins.nonempty⟩

theorem Wins.unique {rules : List CompiledRule} {rest : List Char} {r q : CompiledRule} {m n : Match}
    (left : Wins rules rest r m) (right : Wins rules rest q n) : r = q ∧ m = n := by
  have same : r = q := by
    obtain ⟨before, after, split, missed⟩ := left.first
    obtain ⟨before', after', split', missed'⟩ := right.first
    rcases List.append_eq_append_iff.mp (split.symm.trans split') with
      ⟨gap, longer, shorter⟩ | ⟨gap, longer, shorter⟩
    · cases gap with
      | nil => exact (List.cons.inj shorter).1
      | cons g gap =>
        obtain ⟨rfl, -⟩ := List.cons.inj shorter
        exact absurd ⟨m, left.found, left.nonempty⟩ (missed' r (by simp [longer]))
    · cases gap with
      | nil => exact (List.cons.inj shorter).1.symm
      | cons g gap =>
        obtain ⟨rfl, -⟩ := List.cons.inj shorter
        exact absurd ⟨n, right.found, right.nonempty⟩ (missed q (by simp [longer]))
  subst same
  exact ⟨rfl, Option.some.inj (left.found.symm.trans right.found)⟩

theorem firstMatch_cons (rest : List Char) (r : CompiledRule) (rules : List CompiledRule) :
    (¬ r.Hits rest ∧ firstMatch rest (r :: rules) = firstMatch rest rules) ∨
    ∃ m, r.program.find rest = some m ∧ m.start < m.stop ∧
      firstMatch rest (r :: rules) = some (r, ⟨slice rest m.start m.stop, r.captures rest m⟩) := by
  rw [firstMatch, CompiledRule.find?_eq]
  cases found : r.program.find rest with
  | none => exact Or.inl ⟨fun ⟨m, other, _⟩ => by simp [found] at other, rfl⟩
  | some m =>
    have empty := slice_isEmpty (Pattern.Program.find_bounds found)
    by_cases nonempty : m.start < m.stop
    · have filled : (slice rest m.start m.stop).isEmpty = false := by
        simpa using mt empty.mp (not_not_intro nonempty)
      exact Or.inr ⟨m, rfl, nonempty, by simp [filled]⟩
    · refine Or.inl ⟨?_, by simp [empty.mpr nonempty]⟩
      rintro ⟨n, other, filled⟩
      obtain rfl := Option.some.inj (found.symm.trans other)
      exact nonempty filled

/-- A rule that does not hit could as well not be there. -/
theorem firstMatch_skip {r : CompiledRule} {rest : List Char} (missed : ¬ r.Hits rest)
    (earlier later : List CompiledRule) :
    firstMatch rest (earlier ++ r :: later) = firstMatch rest (earlier ++ later) := by
  induction earlier with
  | nil =>
    rcases firstMatch_cons rest r later with ⟨-, skip⟩ | ⟨m, found, nonempty, -⟩
    · exact skip
    · exact absurd ⟨m, found, nonempty⟩ missed
  | cons q earlier ih => rw [List.cons_append, List.cons_append, firstMatch, firstMatch, ih]

theorem firstMatch_wins {rest : List Char} {rules : List CompiledRule} {r : CompiledRule} {found : Found}
    (chosen : firstMatch rest rules = some (r, found)) :
    ∃ m, Wins rules rest r m ∧ found = ⟨slice rest m.start m.stop, r.captures rest m⟩ := by
  induction rules with
  | nil => cases chosen
  | cons q rules ih =>
    rcases firstMatch_cons rest q rules with ⟨missed, skip⟩ | ⟨m, located, nonempty, take⟩
    · obtain ⟨m, ⟨located, nonempty, before, after, split, others⟩, value⟩ := ih (skip ▸ chosen)
      refine ⟨m, ⟨located, nonempty, q :: before, after, by simp [split], ?_⟩, value⟩
      exact List.forall_mem_cons.mpr ⟨missed, others⟩
    · rw [take] at chosen
      cases chosen
      exact ⟨m, ⟨located, nonempty, [], rules, rfl, by simp⟩, rfl⟩

theorem firstMatch_none {rest : List Char} {rules : List CompiledRule} :
    firstMatch rest rules = none ↔ ¬ Hit rules rest := by
  induction rules with
  | nil => simp [firstMatch, Hit]
  | cons q rules ih =>
    rcases firstMatch_cons rest q rules with ⟨missed, skip⟩ | ⟨m, located, nonempty, take⟩
    · rw [skip, ih]
      simp [Hit, missed]
    · have hit : Hit (q :: rules) rest := ⟨q, by simp, m, located, nonempty⟩
      simp [take, hit]

theorem Wins.firstMatch {rules : List CompiledRule} {rest : List Char} {r : CompiledRule} {m : Match}
    (wins : Wins rules rest r m) :
    firstMatch rest rules = some (r, ⟨slice rest m.start m.stop, r.captures rest m⟩) := by
  cases chosen : BlockMarkup.firstMatch rest rules with
  | none => exact absurd wins.hit (firstMatch_none.mp chosen)
  | some winner =>
    obtain ⟨q, found⟩ := winner
    obtain ⟨n, other, rfl⟩ := firstMatch_wins chosen
    obtain ⟨rfl, rfl⟩ := wins.unique other
    rfl

/-! ### Going on after a match -/

theorem utf8ByteSize_cons (c : Char) (cs : List Char) :
    (String.ofList (c :: cs)).utf8ByteSize = c.utf8Size + (String.ofList cs).utf8ByteSize := by
  rw [← List.singleton_append, String.ofList_append, String.utf8ByteSize_append,
    ← String.singleton_eq_ofList, String.utf8ByteSize_singleton]

/-- Dropping at least as many bytes as some leading characters have drops these characters first. -/
theorem dropBytes_past (a b : List Char) (n : Nat) :
    dropBytes ((String.ofList a).utf8ByteSize + n) (a ++ b) = dropBytes n b := by
  induction a with
  | nil => simp
  | cons c a ih =>
    obtain ⟨k, size⟩ : ∃ k, c.utf8Size + (String.ofList a).utf8ByteSize + n = k + 1 :=
      ⟨_, (Nat.succ_pred_eq_of_pos (by have := c.utf8Size_pos; omega)).symm⟩
    rw [utf8ByteSize_cons, size, List.cons_append, dropBytes, if_pos (by omega),
      show k + 1 - c.utf8Size = (String.ofList a).utf8ByteSize + n by omega]
    exact ih

theorem dropBytes_append (a b : List Char) : dropBytes (String.ofList a).utf8ByteSize (a ++ b) = some b := by
  have past := dropBytes_past a b 0
  rwa [Nat.add_zero, dropBytes] at past

theorem dropBytes_take (n : Nat) (cs : List Char) :
    dropBytes (String.ofList (cs.take n)).utf8ByteSize cs = some (cs.drop n) := by
  have split := dropBytes_append (cs.take n) (cs.drop n)
  rwa [List.take_append_drop] at split

end BlockMarkup
