import BlockMarkup.Proofs.Pattern.Settling
import BlockMarkup.Proofs.Pattern.Words

/-!
# Patterns behind a test for the start

A search that tries every position finds a match at the start of the text if there is one, since threads
that start earlier are preferred. So a test for the start of the text in front of an expression keeps the
matches at the start, with their groups, and drops the others (`find_behind_start`).
-/

namespace BlockMarkup.Pattern

variable {here : Place} {fuel seen index : Nat} {t : Thread} {first later : List Thread}

/-! ### Less preferred threads -/

theorem settle_done (threads done : List Thread) :
    settle here fuel threads seen done = done.reverse ++ settle here fuel threads seen [] := by
  induction fuel generalizing threads seen done with
  | zero => simp [settle]
  | succ fuel ih =>
    cases threads with
    | nil => simp [settle]
    | cons t rest =>
      rw [settle_cons, settle_cons]
      split
      · simp
      · split
        · rw [ih rest (t :: done), ih rest [t]]
          simp
        · exact ih _ _

theorem finished?_waiting (waits : t.waits = true) (threads : List Thread) :
    finished? index (t :: threads) = finished? index threads := by
  cases threads with
  | nil =>
    have more : t.todo ≠ [] := by
      intro ended
      simp [Thread.waits, ended] at waits
    simp [finished?, more]
  | cons u threads => simp [finished?]

/-- Threads behind others leave them as they are, and come to nothing when one of these is finished. -/
theorem settle_append (here : Place) (fuel seen index : Nat) (first : List Thread)
    (others : ∀ t ∈ later, t.start ≠ 0) :
    ∃ tail, settle here fuel (first ++ later) seen [] = settle here fuel first seen [] ++ tail ∧
      (∀ t ∈ tail, t.start ≠ 0) ∧
      ((finished? index (settle here fuel first seen [])).isSome → tail = []) := by
  -- Both lists have the same first thread, so they go on alike until there is none left from `first`.
  induction fuel generalizing first seen with
  | zero => exact ⟨[], rfl, nofun, fun _ => rfl⟩
  | succ fuel ih =>
    cases first with
    | nil => exact ⟨_, rfl, settle_starts (P := (· ≠ 0)) others nofun, nofun⟩
    | cons t rest =>
      rw [List.cons_append, settle_cons, settle_cons]
      split
      · exact ⟨[], rfl, nofun, fun _ => rfl⟩
      · split
        · rename_i waits
          obtain ⟨tail, same, behind, cut⟩ := ih seen rest
          refine ⟨tail, ?_, behind, ?_⟩
          · rw [settle_done (rest ++ later), same, settle_done rest [t], List.append_assoc]
          · rw [settle_done rest [t]]
            intro finished
            exact cut ((congrArg Option.isSome (finished?_waiting waits _)).symm.trans finished)
        · rw [← List.append_assoc]
          exact ih _ _

/-- A match at the start is that of a preferred thread. -/
theorem finished?_filter {tail : List Thread} (starts : ∀ t ∈ first, t.start = 0)
    (others : ∀ t ∈ tail, t.start ≠ 0) (cut : (finished? index first).isSome → tail = []) :
    (finished? index (first ++ tail)).filter (·.start = 0) = finished? index first := by
  by_cases alone : tail = []
  · subst alone
    rw [List.append_nil]
    cases found : finished? index first with
    | none => rfl
    | some m =>
      obtain ⟨-, t, member, same⟩ := finished_bounds found
      have start : m.start = 0 := same.symm.trans (starts t member)
      simp [start]
  · have unfinished : finished? index first = none := by
      cases known : finished? index first with
      | none => rfl
      | some m => exact absurd (cut (known ▸ rfl)) alone
    have last : finished? index (first ++ tail) = finished? index tail := by
      rw [finished?, List.getLast?_append_of_ne_nil _ alone]
      rfl
    rw [unfinished, last, Option.filter_eq_none_iff]
    intro m found
    obtain ⟨-, t, member, same⟩ := finished_bounds found
    simpa [← same] using others t member

/-! ### Searches from the start -/

/-- Goes on with all threads at a position, those that start there among them. -/
def carryOn (p : Program) (once : Bool) (cs : List Char) (index : Nat) (before : Option Char)
    (threads : List Thread) (best : Option Match) : Option Match :=
  let settled := settle ⟨index, before, cs.head?⟩ ((threads.length + 1) * p.bound) threads 0 []
  let best := (finished? index settled).or best
  match cs with
  | [] => best
  | c :: rest =>
    let moved := settled.filterMap (Thread.consume c)
    if moved.isEmpty && (once || best.isSome) then best
    else scan p once rest (index + 1) (some c) moved best

theorem scan_eq (p : Program) (once : Bool) (cs : List Char) (index : Nat) (before : Option Char)
    (threads : List Thread) (best : Option Match) :
    scan p once cs index before threads best =
      carryOn p once cs index before
        (if !once && best.isNone then threads ++ [{ todo := p.nodes, start := index, marks := [] }]
          else threads) best := by
  cases cs <;> rfl

theorem scan_idle (p : Program) (cs : List Char) (index : Nat) (before : Option Char)
    (best : Option Match) : scan p true cs index before [] best = best := by
  have nothing : ∀ (here : Place) (fuel : Nat), settle here fuel [] 0 [] = [] := by
    intro here fuel
    cases fuel <;> rfl
  cases cs <;> simp [scan, finished?, nothing]

theorem filter_or {P : Match → Bool} {found best : Option Match}
    (kept : (best.filter P).isSome → found.filter P = found) :
    (found.or best).filter P = (found.filter P).or (best.filter P) := by
  cases found with
  | none => simp
  | some m =>
    cases holds : P m with
    | true => simp [Option.filter_some, holds]
    | false =>
      cases left : best.filter P with
      | none => simp [Option.filter_some, holds]
      | some b => simp [left, holds] at kept

variable {nodes : List Node} {p q : Program} {best : Option Match}

/-- The program allows for steps enough for threads of these nodes. -/
def HasRoom (nodes : List Node) (p : Program) : Prop :=
  (Node.weightOfAll nodes + 2) * (Node.weightOfAll nodes + 2) ≤ p.bound

/-- In a search, `first` are the threads from the start of the text. The others come behind them and are
given up when there is a match from the start. -/
structure Ordered (nodes : List Node) (best : Option Match) (first later : List Thread) : Prop where
  within : ∀ t ∈ first, t.Within nodes
  starts : ∀ t ∈ first, t.start = 0
  others : ∀ t ∈ later, t.start ≠ 0
  cut : (best.filter (·.start = 0)).isSome → later = []

namespace Ordered

theorem enter (ordered : Ordered nodes best first later) (begun : index ≠ 0) (todo : List Node) :
    ∃ later', (if !false && best.isNone then first ++ later ++ [⟨todo, index, []⟩]
      else first ++ later) = first ++ later' ∧ Ordered nodes best first later' := by
  cases best with
  | none =>
    refine ⟨later ++ [⟨todo, index, []⟩], by simp, ordered.within, ordered.starts, ?_, nofun⟩
    exact List.forall_mem_append.mpr ⟨ordered.others, by simpa using begun⟩
  | some m => exact ⟨later, by simp, ordered⟩

theorem consume (ordered : Ordered nodes best first later) (c : Char) :
    Ordered nodes best (first.filterMap (Thread.consume c)) (later.filterMap (Thread.consume c)) where
  within u member := by
    obtain ⟨t, old, moved⟩ := List.mem_filterMap.mp member
    exact (ordered.within t old).consume moved
  starts u member := by
    obtain ⟨t, old, moved⟩ := List.mem_filterMap.mp member
    exact (consume_start moved).trans (ordered.starts t old)
  others u member := by
    obtain ⟨t, old, moved⟩ := List.mem_filterMap.mp member
    exact (consume_start moved).symm ▸ ordered.others t old
  cut found := by rw [ordered.cut found, List.filterMap_nil]

/-- The threads from the start come to the same with and without others behind them. -/
theorem settle (ordered : Ordered nodes best first later) (here : Place) (index : Nat)
    (room : HasRoom nodes p) (room' : HasRoom nodes q) :
    ∃ settled tail,
      Pattern.settle here ((first.length + 1) * q.bound) first 0 [] = settled ∧
      Pattern.settle here (((first ++ later).length + 1) * p.bound) (first ++ later) 0 [] =
        settled ++ tail ∧
      (finished? index settled).or (best.filter (·.start = 0)) =
        ((finished? index (settled ++ tail)).or best).filter (·.start = 0) ∧
      Ordered nodes ((finished? index (settled ++ tail)).or best) settled tail := by
  obtain ⟨tail, same, others, given⟩ := settle_append here (((first ++ later).length + 1) * p.bound) 0
    index first ordered.others
  have longer : first.length + 1 ≤ (first ++ later).length + 1 := by simp
  have alike : Pattern.settle here (((first ++ later).length + 1) * p.bound) first 0 [] =
      Pattern.settle here ((first.length + 1) * q.bound) first 0 [] :=
    settle_alike ordered.within (Nat.mul_le_mul longer room) (Nat.mul_le_mul_left _ room')
  have within : ∀ t ∈ Pattern.settle here ((first.length + 1) * q.bound) first 0 [], t.Within nodes :=
    settle_within ordered.within nofun
  have starts : ∀ t ∈ Pattern.settle here ((first.length + 1) * q.bound) first 0 [], t.start = 0 :=
    settle_starts (P := (· = 0)) ordered.starts nofun
  rw [alike] at same given
  generalize Pattern.settle here ((first.length + 1) * q.bound) first 0 [] = settled at *
  have known : (best.filter (·.start = 0)).isSome → tail = [] := by
    intro found
    rw [ordered.cut found, List.append_nil] at alike same
    simpa using alike.symm.trans same
  have best' : ((finished? index (settled ++ tail)).or best).filter (·.start = 0) =
      (finished? index settled).or (best.filter (·.start = 0)) := by
    rw [filter_or, finished?_filter starts others given]
    intro found
    obtain rfl := known found
    rw [finished?_filter starts others given, List.append_nil]
  refine ⟨settled, tail, rfl, same, best'.symm, within, starts, others, ?_⟩
  rw [best']
  intro found
  rcases Option.or_eq_some_iff.mp (Option.eq_some_of_isSome found) with first | ⟨-, old⟩
  · exact given (first ▸ rfl)
  · exact known (old ▸ rfl)

end Ordered

/-- A search that goes on with threads from the start finds what a search with others behind them finds at
the start. -/
theorem carryOn_filter (room : HasRoom nodes p) (room' : HasRoom nodes q) (cs : List Char) (index : Nat)
    (before : Option Char) (ordered : Ordered nodes best first later) :
    carryOn q true cs index before first (best.filter (·.start = 0)) =
      (carryOn p false cs index before (first ++ later) best).filter (·.start = 0) := by
  induction cs generalizing index before first later best with
  | nil =>
    obtain ⟨settled, tail, alone, together, found, -⟩ := ordered.settle ⟨index, before, none⟩ index room room'
    simp only [carryOn, List.head?_nil, alone, together, found]
  | cons c rest ih =>
    obtain ⟨settled, tail, alone, together, found, ordered⟩ :=
      ordered.settle ⟨index, before, some c⟩ index room room'
    simp only [carryOn, List.head?_cons, alone, together, found]
    generalize (finished? index (settled ++ tail)).or best = best at *
    have moving := ordered.consume c
    rw [List.filterMap_append]
    generalize settled.filterMap (Thread.consume c) = moved at *
    generalize tail.filterMap (Thread.consume c) = behind at *
    have next : scan q true rest (index + 1) (some c) moved (best.filter (·.start = 0)) =
        (scan p false rest (index + 1) (some c) (moved ++ behind) best).filter (·.start = 0) := by
      obtain ⟨later, entered, ordered⟩ := moving.enter index.succ_ne_zero p.nodes
      rw [scan_eq, scan_eq p, entered]
      exact ih _ _ ordered
    -- Where no thread from the start is left, the other search may go on, but finds nothing at the start.
    by_cases still : moved = []
    · subst still
      rw [scan_idle] at next
      simp only [List.isEmpty_nil, Bool.true_or, Bool.and_true, if_true]
      split
      · rfl
      · exact next
    · simp [still, next]

/-! ### Programs -/

theorem ordered_initial (nodes : List Node) : Ordered nodes none ([⟨nodes, 0, []⟩] ++ []) [] where
  within := by simpa using ⟨Nat.le_refl _, List.Subset.refl _⟩
  starts := by simp
  others := nofun
  cut := nofun

/-- What a search finds at the start, threads from the start find alone. -/
theorem find_filter (room : HasRoom p.nodes p) (room' : HasRoom p.nodes q) (text : List Char) :
    carryOn q true text 0 none [⟨p.nodes, 0, []⟩] none = (p.find text).filter (·.start = 0) := by
  refine (carryOn_filter room room' text 0 none (ordered_initial p.nodes)).trans ?_
  by_cases anchored : p.isAnchored = true
  · have same : carryOn p true text 0 none [⟨p.nodes, 0, []⟩] none =
        (carryOn p false text 0 none [⟨p.nodes, 0, []⟩] none).filter (·.start = 0) :=
      carryOn_filter room room text 0 none (ordered_initial p.nodes)
    rw [Program.find, if_pos anchored, scan_eq]
    simp [same, Option.filter_filter]
  · rw [Program.find, if_neg anchored, scan_eq]
    rfl

theorem ofExpr_behind_start (e : Expr) :
    (Program.ofExpr (.concat [.look .textStart, e])).nodes = .look .textStart :: (Program.ofExpr e).nodes :=
  ofExpr_nodes rfl

theorem groups_behind_start (e : Expr) :
    (Program.ofExpr (.concat [.look .textStart, e])).groups = (Program.ofExpr e).groups := by
  change Node.groupsOfAll (Program.ofExpr (.concat [.look .textStart, e])).nodes - 1 =
    Node.groupsOfAll (Program.ofExpr e).nodes - 1
  rw [ofExpr_behind_start]
  simp [Node.groupsOfAll, Node.groups]

theorem room_behind_start (e : Expr) :
    2 * ((Node.weightOfAll (Program.ofExpr e).nodes + 2) * (Node.weightOfAll (Program.ofExpr e).nodes + 2)) <
      2 * (Program.ofExpr (.concat [.look .textStart, e])).bound := by
  change _ < 2 * ((Node.weightOfAll (Program.ofExpr (.concat [.look .textStart, e])).nodes + 2) *
    (Node.weightOfAll (Program.ofExpr (.concat [.look .textStart, e])).nodes + 2))
  rw [ofExpr_behind_start]
  change _ < 2 * ((1 + Node.weightOfAll (Program.ofExpr e).nodes + 2) *
    (1 + Node.weightOfAll (Program.ofExpr e).nodes + 2))
  nlinarith

/-- The test holds where a search starts. -/
theorem settle_behind_start (after : Option Char)
    (enough : 2 * ((Node.weightOfAll nodes + 2) * (Node.weightOfAll nodes + 2)) < fuel) :
    settle ⟨0, none, after⟩ fuel [⟨.look .textStart :: nodes, 0, []⟩] 0 [] =
      settle ⟨0, none, after⟩ fuel [⟨nodes, 0, []⟩] 0 [] := by
  obtain ⟨fuel, rfl⟩ : ∃ k, fuel = k + 1 := ⟨fuel - 1, by omega⟩
  rw [settle_cons]
  exact settle_alike (ordered_initial nodes).within (Nat.le_of_lt_succ enough) (Nat.le_of_lt enough)

/-- A test for the start of the text keeps the matches at the start. -/
theorem find_behind_start (e : Expr) (text : List Char) :
    (Program.ofExpr (.concat [.look .textStart, e])).find text =
      ((Program.ofExpr e).find text).filter (·.start = 0) := by
  have nodes := ofExpr_behind_start e
  have room := room_behind_start e
  generalize Program.ofExpr (.concat [.look .textStart, e]) = q at *
  have anchored : q.isAnchored = true := by rw [Program.isAnchored, nodes]
  have same : carryOn q true text 0 none [⟨q.nodes, 0, []⟩] none =
      carryOn q true text 0 none [⟨(Program.ofExpr e).nodes, 0, []⟩] none := by
    unfold carryOn
    rw [nodes]
    simp only [List.length_singleton]
    rw [settle_behind_start text.head? room]
  have room' : HasRoom (Program.ofExpr e).nodes q := by
    unfold HasRoom
    omega
  have known : HasRoom (Program.ofExpr e).nodes (.ofExpr e) := Nat.le_refl _
  rw [Program.find, if_pos anchored, scan_eq, ← find_filter known room', ← same]
  rfl

end BlockMarkup.Pattern
