import BlockMarkup.Rule.Compiled

/-!
# Where matches lie

A match lies in the text that was searched. A program that starts with a test for the start of the
text matches there only, and so does every rule that was compiled to such a program.
-/

namespace BlockMarkup.Pattern

/-! ### Threads keep their start -/

theorem settle_starts {P : Nat → Prop} {here : Place} {fuel seen : Nat} {threads done : List Thread}
    (waiting : ∀ t ∈ threads, P t.start) (settled : ∀ t ∈ done, P t.start) :
    ∀ t ∈ settle here fuel threads seen done, P t.start := by
  fun_induction settle here fuel threads seen done with
  | case1 => simpa using settled
  | case2 => simpa using settled
  | case3 =>
    rw [List.forall_mem_cons] at waiting
    simpa [or_imp, forall_and] using ⟨settled, waiting.1⟩
  | case4 fuel seen done t rest c todo next ih | case5 fuel seen done t rest s todo next ih =>
    rw [List.forall_mem_cons] at waiting
    exact ih waiting.2 (List.forall_mem_cons.mpr ⟨waiting.1, settled⟩)
  | case6 fuel seen done t rest l todo next holds ih | case8 fuel seen done t rest slot todo next ih =>
    rw [List.forall_mem_cons] at waiting
    exact ih (List.forall_mem_cons.mpr waiting) settled
  | case7 fuel seen done t rest l todo next fails ih
  | case9 fuel seen done t rest id branches todo next known ih
  | case11 fuel seen done t rest id greedy body todo next known ih =>
    exact ih (List.forall_mem_cons.mp waiting).2 settled
  | case10 fuel seen done t rest id branches todo next new ways ih =>
    rw [List.forall_mem_cons] at waiting
    refine ih (List.forall_mem_append.mpr ⟨?_, waiting.2⟩) settled
    simp only [ways, List.forall_mem_map]
    exact fun _ _ => waiting.1
  | case12 fuel seen done t rest id greedy body todo next new again past ways ih =>
    rw [List.forall_mem_cons] at waiting
    refine ih (List.forall_mem_append.mpr ⟨?_, waiting.2⟩) settled
    cases greedy <;> simpa [ways, again, past] using waiting.1

theorem consume_start {c : Char} {t u : Thread} (moved : t.consume c = some u) : u.start = t.start := by
  unfold Thread.consume at moved
  split at moved
  · split at moved
    · cases moved; rfl
    · cases moved
  · split at moved
    · cases moved; rfl
    · cases moved
  · cases moved

theorem finished_bounds {index : Nat} {threads : List Thread} {m : Match}
    (finished : finished? index threads = some m) : m.stop = index ∧ ∃ t ∈ threads, t.start = m.start := by
  obtain ⟨t, last, found⟩ := Option.bind_eq_some_iff.mp finished
  split at found
  · cases found
    exact ⟨rfl, t, List.mem_of_getLast? last, rfl⟩
  · cases found

/-! ### Matches -/

-- Relates the start of a thread to the position of the search.
variable {Q : Nat → Nat → Prop}

theorem entering_starts {once : Bool} {index : Nat} {nodes : List Node} {threads : List Thread}
    {best : Option Match} (fresh : once = false → ∀ i, Q i i) (waiting : ∀ t ∈ threads, Q t.start index) :
    ∀ t ∈ if !once && best.isNone then threads ++ [{ todo := nodes, start := index, marks := [] }]
      else threads, Q t.start index := by
  split
  · rename_i searching
    have several : once = false := by simpa using (Bool.and_eq_true_iff.mp searching).1
    refine List.forall_mem_append.mpr ⟨waiting, ?_⟩
    simpa using fresh several index
  · exact waiting

theorem settled_starts {once : Bool} {index fuel seen : Nat} {here : Place} {nodes : List Node}
    {threads : List Thread} {best : Option Match} (fresh : once = false → ∀ i, Q i i)
    (waiting : ∀ t ∈ threads, Q t.start index) :
    ∀ t ∈ settle here fuel
      (if !once && best.isNone then threads ++ [{ todo := nodes, start := index, marks := [] }]
        else threads) seen [], Q t.start index :=
  settle_starts (P := fun start => Q start index) (entering_starts fresh waiting) (by simp)

theorem best_bounds {index limit : Nat} {settled : List Thread}
    {best : Option Match} (inside : index ≤ limit) (starts : ∀ t ∈ settled, Q t.start index)
    (known : ∀ m ∈ best, Q m.start m.stop ∧ m.stop ≤ limit) :
    ∀ m ∈ (finished? index settled).or best, Q m.start m.stop ∧ m.stop ≤ limit := by
  intro m found
  rcases Option.or_eq_some_iff.mp found with finished | ⟨-, old⟩
  · obtain ⟨stop, t, member, start⟩ := finished_bounds finished
    subst stop
    exact ⟨start ▸ starts t member, inside⟩
  · exact known m old

/-- What relates the given threads to the position, relates new ones where there can be any, and stays
true as the search goes on, relates the two ends of a match. -/
theorem scan_bounds {p : Program} {once : Bool} {cs : List Char} {index : Nat}
    {before : Option Char} {threads : List Thread} {best : Option Match}
    (later : ∀ start stop, Q start stop → Q start (stop + 1)) (fresh : once = false → ∀ i, Q i i)
    (waiting : ∀ t ∈ threads, Q t.start index)
    (known : ∀ m ∈ best, Q m.start m.stop ∧ m.stop ≤ index + cs.length) :
    ∀ m ∈ scan p once cs index before threads best, Q m.start m.stop ∧ m.stop ≤ index + cs.length := by
  fun_induction scan p once cs index before threads best with
  | case1 index before threads best entering here settled found =>
    have starts : ∀ t ∈ settled, Q t.start index := settled_starts fresh waiting
    exact best_bounds (by omega) starts known
  | case2 index before threads best entering c rest here settled found moved done =>
    have starts : ∀ t ∈ settled, Q t.start index := settled_starts fresh waiting
    exact best_bounds (by omega) starts known
  | case3 index before threads best entering c rest here settled found moved more ih =>
    have starts : ∀ t ∈ settled, Q t.start index := settled_starts fresh waiting
    have limit : index + (c :: rest).length = index + 1 + rest.length := by simp; omega
    rw [limit] at known ⊢
    refine ih ?_ (best_bounds (by omega) starts known)
    intro u member
    obtain ⟨t, old, consumed⟩ := List.mem_filterMap.mp member
    rw [consume_start consumed]
    exact later _ _ (starts t old)

namespace Program

theorem find_bounds {p : Program} {text : List Char} {m : Match} (found : p.find text = some m) :
    m.start ≤ m.stop ∧ m.stop ≤ text.length := by
  have later : ∀ start stop : Nat, start ≤ stop → start ≤ stop + 1 := fun _ _ h => Nat.le_succ_of_le h
  unfold find at found
  split at found
  · simpa using scan_bounds (Q := (· ≤ ·)) later (by simp) (by simp) (by simp) m found
  · simpa using scan_bounds (Q := (· ≤ ·)) later (by simp) (by simp) (by simp) m found

theorem find_start {p : Program} {text : List Char} {m : Match} (anchored : p.isAnchored = true)
    (found : p.find text = some m) : m.start = 0 := by
  rw [find, if_pos anchored] at found
  exact (scan_bounds (Q := fun start _ => start = 0) (by simp) (by simp) (by simp) (by simp) m found).1

end Program

end BlockMarkup.Pattern

namespace BlockMarkup.CompiledRule

/-- Whatever text the rule is tried on, a match starts where the text does. -/
def Anchored (r : CompiledRule) : Prop := ∀ text m, r.program.find text = some m → m.start = 0

theorem anchored_of_program {r : CompiledRule} (anchored : r.program.isAnchored = true) : r.Anchored :=
  fun _ _ found => Pattern.Program.find_start anchored found

theorem anchored_of_all {rules : List CompiledRule} (all : rules.all (·.program.isAnchored) = true) :
    ∀ r ∈ rules, r.Anchored :=
  fun r member => anchored_of_program (List.all_eq_true.mp all r member)

end BlockMarkup.CompiledRule

namespace BlockMarkup

/-- A pattern that may match nothing, a list of literals, and a character of two bytes. -/
def sampleRules : List (String × Rule) :=
  [("marker", .pattern "x*" ""), ("open", .alternatives ["<", "é"]), ("close", .literal "]")]

theorem sampleRules_compile :
    ∃ rules, compileAll sampleRules = .ok rules ∧ (∀ r ∈ rules, r.Anchored) ∧
      ∀ r ∈ rules, r.name ≠ "text" :=
  ⟨_, rfl, CompiledRule.anchored_of_all rfl, by decide +kernel⟩

end BlockMarkup
