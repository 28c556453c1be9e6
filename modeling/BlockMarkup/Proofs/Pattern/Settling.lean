import BlockMarkup.Proofs.Pattern.Bounds
import Mathlib.Algebra.Order.BigOperators.Group.List
import Mathlib.Tactic.Linarith

/-!
# Threads settle

A thread that has not got to a character goes on as other threads. A choice that has been passed is not
passed again, so this comes to an end, and the steps that a search allows for it are enough
(`settle_enough`).
-/

namespace BlockMarkup.Pattern

/-! ### One thread -/

/-- The thread consumes a character next. -/
def Thread.waits (t : Thread) : Bool :=
  match t.todo with
  | .char _ :: _ | .set _ :: _ => true
  | _ => false

/-- The threads as which a thread goes on from a test, a mark or a choice, and the places that have been
passed then. -/
def Thread.expand (here : Place) (seen : Nat) (t : Thread) : List Thread × Nat :=
  match t.todo with
  | .look l :: todo => (if l.holds here then [{ t with todo }] else [], seen)
  | .mark slot :: todo => ([{ t with todo, marks := (slot, here.index) :: t.marks }], seen)
  | .fork id branches :: todo =>
    if seen.testBit id then ([], seen)
    else (branches.map fun way => { t with todo := way ++ todo }, seen ||| 1 <<< id)
  | .loop id greedy body :: todo =>
    if seen.testBit id then ([], seen)
    else
      let again := { t with todo := body ++ .loop id greedy body :: todo }
      let past := { t with todo }
      (if greedy then [again, past] else [past, again], seen ||| 1 <<< id)
  | _ => ([], seen)

variable {here : Place} {fuel seen : Nat} {t : Thread} {threads rest done : List Thread}

theorem settle_cons :
    settle here (fuel + 1) (t :: rest) seen done =
      if t.todo = [] then (t :: done).reverse
      else if t.waits then settle here fuel rest seen (t :: done)
      else settle here fuel ((t.expand here seen).1 ++ rest) (t.expand here seen).2 done := by
  obtain ⟨todo, start, marks⟩ := t
  unfold Thread.waits Thread.expand
  match todo with
  | [] => rfl
  | .char _ :: _ | .set _ :: _ | .mark _ :: _ => rfl
  | .look l :: todo =>
    cases holds : l.holds here <;> simp [settle, holds]
  | .fork id branches :: todo =>
    cases known : seen.testBit id <;> simp [settle, known]
  | .loop id greedy body :: todo =>
    cases known : seen.testBit id <;> simp [settle, known]

/-! ### Parts of a program -/

mutual

/-- How many nodes can stand in place of a node before the first of them is worked off. -/
def Node.span : Node → Nat
  | .fork _ branches => max 1 (Node.spanOfWays branches)
  | .loop _ _ body => Node.spanOfAll body + 1
  | _ => 1

def Node.spanOfAll : List Node → Nat
  | [] => 0
  | n :: rest => max (n.span + rest.length) (Node.spanOfAll rest)

def Node.spanOfWays : List (List Node) → Nat
  | [] => 0
  | way :: rest => max (Node.spanOfAll way) (Node.spanOfWays rest)

end

mutual

/-- The choices in a node by number, each one with how many ways it has. -/
def Node.choices : Node → List (Nat × Nat)
  | .fork id branches => (id, branches.length) :: Node.choicesOfWays branches
  | .loop id _ body => (id, 2) :: Node.choicesOfAll body
  | _ => []

def Node.choicesOfAll : List Node → List (Nat × Nat)
  | [] => []
  | n :: rest => n.choices ++ Node.choicesOfAll rest

def Node.choicesOfWays : List (List Node) → List (Nat × Nat)
  | [] => []
  | way :: rest => Node.choicesOfAll way ++ Node.choicesOfWays rest

end

namespace Node

theorem span_pos (n : Node) : 0 < n.span := by
  cases n <;> simp only [span] <;> omega

theorem length_le_span (nodes : List Node) : nodes.length ≤ spanOfAll nodes := by
  cases nodes with
  | nil => exact Nat.zero_le _
  | cons n rest =>
    have := n.span_pos
    simp only [List.length_cons, spanOfAll]
    omega

theorem spanOfAll_append_le (a b : List Node) :
    spanOfAll (a ++ b) ≤ max (spanOfAll a + b.length) (spanOfAll b) := by
  induction a with
  | nil => exact Nat.le_max_right ..
  | cons n a ih =>
    simp only [List.cons_append, spanOfAll, List.length_append]
    omega

theorem spanOfAll_le_spanOfWays {way : List Node} {ways : List (List Node)} (member : way ∈ ways) :
    spanOfAll way ≤ spanOfWays ways := by
  induction ways with
  | nil => cases member
  | cons first ways ih =>
    rw [spanOfWays]
    rcases List.mem_cons.mp member with rfl | later
    · exact Nat.le_max_left ..
    · exact Nat.le_trans (ih later) (Nat.le_max_right ..)

theorem choicesOfAll_append (a b : List Node) :
    choicesOfAll (a ++ b) = choicesOfAll a ++ choicesOfAll b := by
  induction a with
  | nil => rfl
  | cons n a ih => simp [choicesOfAll, ih]

theorem choicesOfAll_subset_choicesOfWays {way : List Node} {ways : List (List Node)}
    (member : way ∈ ways) : choicesOfAll way ⊆ choicesOfWays ways := by
  induction ways with
  | nil => cases member
  | cons first ways ih =>
    rw [choicesOfWays]
    rcases List.mem_cons.mp member with rfl | later
    · exact List.subset_append_left ..
    · exact List.Subset.trans (ih later) (List.subset_append_right ..)

mutual

theorem span_le_weight : ∀ n : Node, n.span ≤ n.weight
  | .fork _ branches => by
    have := spanOfWays_le_weight branches
    simp only [span, weight]
    omega
  | .loop _ _ body => by
    have := spanOfAll_le_weight body
    simp only [span, weight]
    omega
  | .char _ | .set _ | .look _ | .mark _ => Nat.le_refl 1

theorem spanOfAll_le_weight : ∀ nodes : List Node, spanOfAll nodes ≤ weightOfAll nodes
  | [] => Nat.le_refl 0
  | n :: rest => by
    have := span_le_weight n
    have := spanOfAll_le_weight rest
    have := length_le_span rest
    simp only [spanOfAll, weightOfAll]
    omega

theorem spanOfWays_le_weight : ∀ ways : List (List Node), spanOfWays ways ≤ weightOfWays ways
  | [] => Nat.le_refl 0
  | way :: rest => by
    have := spanOfAll_le_weight way
    have := spanOfWays_le_weight rest
    simp only [spanOfWays, weightOfWays]
    omega

end

/-- How many ways these choices have together. -/
def waysOf (choices : List (Nat × Nat)) : Nat := (choices.map (·.2)).sum

theorem waysOf_cons (id ways : Nat) (choices : List (Nat × Nat)) :
    waysOf ((id, ways) :: choices) = ways + waysOf choices := by
  simp [waysOf]

theorem waysOf_append (a b : List (Nat × Nat)) : waysOf (a ++ b) = waysOf a + waysOf b := by
  simp [waysOf]

mutual

theorem waysOf_choices_le : ∀ n : Node, waysOf n.choices ≤ 2 * n.weight
  | .fork _ branches => by
    have := waysOf_choicesOfWays_le branches
    rw [choices, waysOf_cons, weight]
    omega
  | .loop _ _ body => by
    have := waysOf_choicesOfAll_le body
    rw [choices, waysOf_cons, weight]
    omega
  | .char _ | .set _ | .look _ | .mark _ => Nat.zero_le _

theorem waysOf_choicesOfAll_le : ∀ nodes : List Node,
    waysOf (choicesOfAll nodes) ≤ 2 * weightOfAll nodes
  | [] => Nat.zero_le _
  | n :: rest => by
    have := waysOf_choices_le n
    have := waysOf_choicesOfAll_le rest
    rw [choicesOfAll, waysOf_append, weightOfAll]
    omega

/-- Each way is counted by the choice that it belongs to. -/
theorem waysOf_choicesOfWays_le : ∀ ways : List (List Node),
    ways.length + waysOf (choicesOfWays ways) ≤ 2 * weightOfWays ways
  | [] => Nat.zero_le _
  | way :: rest => by
    have := waysOf_choicesOfAll_le way
    have := waysOf_choicesOfWays_le rest
    rw [choicesOfWays, waysOf_append, weightOfWays, List.length_cons]
    omega

end

end Node

/-! ### The cost of settling -/

/-- The ways of the choices that have not been passed. -/
def unpassed (seen : Nat) (choices : List (Nat × Nat)) : Nat :=
  Node.waysOf (choices.filter fun choice => !seen.testBit choice.1)

theorem testBit_pass (seen id i : Nat) :
    (seen ||| 1 <<< id).testBit i = (seen.testBit i || id = i) := by
  rw [Nat.testBit_or, Nat.one_shiftLeft, Nat.testBit_two_pow]

theorem unpassed_cons (choice : Nat × Nat) (choices : List (Nat × Nat)) :
    unpassed seen (choice :: choices) =
      (if seen.testBit choice.1 then 0 else choice.2) + unpassed seen choices := by
  unfold unpassed
  cases passed : seen.testBit choice.1 <;> simp [passed, Node.waysOf]

theorem unpassed_pass_le (seen id : Nat) (choices : List (Nat × Nat)) :
    unpassed (seen ||| 1 <<< id) choices ≤ unpassed seen choices := by
  induction choices with
  | nil => exact Nat.le_refl _
  | cons choice choices ih =>
    rw [unpassed_cons, unpassed_cons, testBit_pass]
    cases seen.testBit choice.1 with
    | true => simpa using ih
    | false =>
      simp
      split <;> omega

/-- To pass a choice uses up its ways. -/
theorem unpassed_pass {choices : List (Nat × Nat)} {id ways : Nat} (member : (id, ways) ∈ choices)
    (fresh : seen.testBit id = false) :
    unpassed (seen ||| 1 <<< id) choices + ways ≤ unpassed seen choices := by
  induction choices with
  | nil => cases member
  | cons choice choices ih =>
    rw [unpassed_cons, unpassed_cons, testBit_pass]
    rcases List.mem_cons.mp member with rfl | later
    · have rest := unpassed_pass_le seen id choices
      simp [fresh]
      omega
    · have rest := ih later
      cases seen.testBit choice.1 with
      | true => simpa using rest
      | false =>
        simp
        split <;> omega

/-- What the thread has to do is made of parts of these nodes. -/
structure Thread.Within (nodes : List Node) (t : Thread) : Prop where
  short : Node.spanOfAll t.todo ≤ Node.spanOfAll nodes
  choices : Node.choicesOfAll t.todo ⊆ Node.choicesOfAll nodes

/-- The steps that threads of these nodes can take: those up to the next choice, and for each way of a
choice as many as a thread can take at all. -/
def settleCost (nodes : List Node) (threads : List Thread) (seen : Nat) : Nat :=
  (threads.map (·.todo.length + 1)).sum +
    unpassed seen (Node.choicesOfAll nodes) * (Node.spanOfAll nodes + 1)

variable {nodes : List Node}

namespace Thread

theorem Within.length_le (within : t.Within nodes) : t.todo.length ≤ Node.spanOfAll nodes :=
  Nat.le_trans (Node.length_le_span _) within.short

/-- What is left after the first node. -/
theorem Within.tail {n : Node} {todo : List Node} {start : Nat} {marks marks' : List (Nat × Nat)}
    (within : Within nodes ⟨n :: todo, start, marks⟩) : Within nodes ⟨todo, start, marks'⟩ where
  short := Nat.le_trans (Nat.le_max_right ..) within.short
  choices := List.Subset.trans (List.subset_append_right ..) within.choices

theorem Within.way {id : Nat} {branches : List (List Node)} {way todo : List Node} {start : Nat}
    {marks : List (Nat × Nat)} (within : Within nodes ⟨.fork id branches :: todo, start, marks⟩)
    (member : way ∈ branches) : Within nodes ⟨way ++ todo, start, marks⟩ where
  short := by
    have split := Node.spanOfAll_append_le way todo
    have part := Node.spanOfAll_le_spanOfWays member
    have whole := within.short
    simp only [Node.spanOfAll, Node.span] at whole ⊢
    omega
  choices := by
    have part := Node.choicesOfAll_subset_choicesOfWays member
    have whole := within.choices
    simp only [Node.choicesOfAll, Node.choices] at whole
    rw [Node.choicesOfAll_append]
    intro choice inside
    refine whole ?_
    rcases List.mem_append.mp inside with first | later
    · simp [part first]
    · simp [later]

theorem Within.again {id : Nat} {greedy : Bool} {body todo : List Node} {start : Nat}
    {marks : List (Nat × Nat)} (within : Within nodes ⟨.loop id greedy body :: todo, start, marks⟩) :
    Within nodes ⟨body ++ .loop id greedy body :: todo, start, marks⟩ where
  short := by
    have split := Node.spanOfAll_append_le body (.loop id greedy body :: todo)
    have whole := within.short
    simp only [Node.spanOfAll, Node.span, List.length_cons] at whole split ⊢
    omega
  choices := by
    have whole := within.choices
    simp only [Node.choicesOfAll, Node.choices] at whole
    rw [Node.choicesOfAll_append]
    intro choice inside
    refine whole ?_
    rcases List.mem_append.mp inside with first | later
    · simp [first]
    · exact later

theorem Within.expand (within : t.Within nodes) : ∀ u ∈ (t.expand here seen).1, u.Within nodes := by
  obtain ⟨todo, start, marks⟩ := t
  unfold Thread.expand
  match todo with
  | [] | .char _ :: _ | .set _ :: _ => exact nofun
  | .mark _ :: _ => simpa using within.tail
  | .look l :: todo =>
    cases holds : l.holds here with
    | true => simpa [holds] using within.tail
    | false => simp [holds]
  | .fork id branches :: todo =>
    cases known : seen.testBit id with
    | true => simp [known]
    | false =>
      simp only [known, Bool.false_eq_true, if_false, List.forall_mem_map]
      exact fun way member => within.way member
  | .loop id greedy body :: todo =>
    cases known : seen.testBit id with
    | true => simp [known]
    | false => cases greedy <;> simp [known, within.again, within.tail]

end Thread

theorem settle_within (waiting : ∀ t ∈ threads, t.Within nodes) (settled : ∀ t ∈ done, t.Within nodes) :
    ∀ t ∈ settle here fuel threads seen done, t.Within nodes := by
  induction fuel generalizing threads seen done with
  | zero => simpa [settle] using settled
  | succ fuel ih =>
    cases threads with
    | nil => simpa [settle] using settled
    | cons t rest =>
      rw [List.forall_mem_cons] at waiting
      rw [settle_cons]
      split
      · simpa [or_imp, forall_and] using ⟨settled, waiting.1⟩
      · split
        · exact ih waiting.2 (List.forall_mem_cons.mpr ⟨waiting.1, settled⟩)
        · exact ih (List.forall_mem_append.mpr ⟨waiting.1.expand, waiting.2⟩) settled

theorem Thread.Within.consume {u : Thread} {c : Char} (within : t.Within nodes)
    (moved : t.consume c = some u) : u.Within nodes := by
  obtain ⟨todo, start, marks⟩ := t
  unfold Thread.consume at moved
  split at moved
  all_goals try cases moved
  all_goals
    rename_i same
    obtain rfl := same
    split at moved
    · cases moved
      exact within.tail
    · cases moved

/-! ### Steps enough -/

theorem sum_length_le (within : ∀ t ∈ threads, t.Within nodes) :
    (threads.map (·.todo.length + 1)).sum ≤ threads.length * (Node.spanOfAll nodes + 1) := by
  have each : ∀ n ∈ threads.map (·.todo.length + 1), n ≤ Node.spanOfAll nodes + 1 := by
    simpa using fun t member => (within t member).length_le
  simpa using List.sum_le_card_nsmul _ _ each

theorem settleCost_append (a b : List Thread) :
    settleCost nodes (a ++ b) seen = (b.map (·.todo.length + 1)).sum + settleCost nodes a seen := by
  simp only [settleCost, List.map_append, List.sum_append]
  omega

/-- A choice costs what it has ways. -/
theorem settleCost_ways {id ways : Nat} {others : List Thread} (within : ∀ u ∈ others, u.Within nodes)
    (member : (id, ways) ∈ Node.choicesOfAll nodes) (fresh : seen.testBit id = false)
    (count : others.length = ways) :
    settleCost nodes others (seen ||| 1 <<< id) ≤
      unpassed seen (Node.choicesOfAll nodes) * (Node.spanOfAll nodes + 1) := by
  have sum := sum_length_le within
  have used := Nat.mul_le_mul_right (Node.spanOfAll nodes + 1) (unpassed_pass member fresh)
  rw [Nat.add_mul] at used
  rw [settleCost]
  rw [count] at sum
  omega

theorem expand_cost (within : t.Within nodes) (more : t.todo ≠ []) (moves : t.waits = false) :
    settleCost nodes (t.expand here seen).1 (t.expand here seen).2 < settleCost nodes [t] seen := by
  have inside : ∀ u ∈ (t.expand here seen).1, u.Within nodes := within.expand
  obtain ⟨todo, start, marks⟩ := t
  unfold Thread.expand at inside ⊢
  match todo with
  | [] => exact absurd rfl more
  | .char _ :: _ | .set _ :: _ => cases moves
  | .mark _ :: _ => simp [settleCost]
  | .look l :: todo =>
    cases holds : l.holds here <;> simp [settleCost, holds]
  | .fork id branches :: todo =>
    cases known : seen.testBit id with
    | true => simp [settleCost, known]
    | false =>
      simp only [known, Bool.false_eq_true, if_false] at inside ⊢
      have member := within.choices List.mem_cons_self
      have cost := settleCost_ways inside member known (by simp)
      simp only [settleCost, List.map_cons, List.map_nil, List.sum_cons, List.sum_nil] at cost ⊢
      omega
  | .loop id greedy body :: todo =>
    cases known : seen.testBit id with
    | true => simp [settleCost, known]
    | false =>
      simp only [known, Bool.false_eq_true, if_false] at inside ⊢
      have member := within.choices List.mem_cons_self
      have cost := settleCost_ways inside member known (by cases greedy <;> rfl)
      simp only [settleCost, List.map_cons, List.map_nil, List.sum_cons, List.sum_nil] at cost ⊢
      omega

/-- Steps beyond what the threads can take change nothing. -/
theorem settle_enough {fuel' : Nat} (within : ∀ t ∈ threads, t.Within nodes)
    (enough : settleCost nodes threads seen ≤ fuel) (enough' : settleCost nodes threads seen ≤ fuel') :
    settle here fuel threads seen done = settle here fuel' threads seen done := by
  -- Both take the same step, and what is left costs less: a thread that is done with drops out of the sum,
  -- and a thread that goes on does so as threads that cost less (`expand_cost`).
  induction fuel generalizing threads seen done fuel' with
  | zero =>
    cases threads with
    | nil => cases fuel' <;> rfl
    | cons t rest => simp [settleCost] at enough
  | succ fuel ih =>
    cases threads with
    | nil => cases fuel' <;> rfl
    | cons t rest =>
      rw [List.forall_mem_cons] at within
      have cost : settleCost nodes (t :: rest) seen =
          (rest.map (·.todo.length + 1)).sum + settleCost nodes [t] seen := settleCost_append [t] rest
      have first : 0 < settleCost nodes [t] seen := by simp [settleCost]
      obtain ⟨fuel', rfl⟩ : ∃ k, fuel' = k + 1 := ⟨fuel' - 1, by omega⟩
      rw [settle_cons, settle_cons]
      split
      · rfl
      · rename_i more
        split
        · refine ih within.2 ?_ ?_
          all_goals
            simp only [settleCost, List.map_cons, List.map_nil, List.sum_cons, List.sum_nil]
              at cost enough enough' ⊢
            omega
        · rename_i moves
          have drop : settleCost nodes (t.expand here seen).1 (t.expand here seen).2 <
              settleCost nodes [t] seen := expand_cost within.1 more (by simpa using moves)
          refine ih (List.forall_mem_append.mpr ⟨within.1.expand, within.2⟩) ?_ ?_
          all_goals
            rw [settleCost_append]
            omega

/-- The steps that a search allows for are enough. -/
theorem settleCost_le (within : ∀ t ∈ threads, t.Within nodes) (some : threads ≠ []) :
    settleCost nodes threads 0 ≤
      (threads.length + 1) * ((Node.weightOfAll nodes + 2) * (Node.weightOfAll nodes + 2)) := by
  have sum := sum_length_le within
  have span := Node.spanOfAll_le_weight nodes
  have ways := Node.waysOf_choicesOfAll_le nodes
  have all : unpassed 0 (Node.choicesOfAll nodes) = Node.waysOf (Node.choicesOfAll nodes) := by
    simp [unpassed]
  have several : 0 < threads.length := List.length_pos_iff.mpr some
  rw [settleCost, all]
  generalize Node.weightOfAll nodes = weight at *
  obtain ⟨count, same⟩ := Nat.exists_eq_add_of_lt several
  rw [Nat.zero_add] at same
  rw [same] at sum ⊢
  calc _ ≤ (count + 1) * (weight + 1) + 2 * weight * (weight + 1) := by gcongr; nlinarith
    _ ≤ _ := by nlinarith [Nat.zero_le (count * weight), Nat.zero_le (count * weight * weight)]

/-- Two searches that allow for these steps settle their threads alike. -/
theorem settle_alike {fuel' : Nat} (within : ∀ t ∈ threads, t.Within nodes)
    (enough : (threads.length + 1) * ((Node.weightOfAll nodes + 2) * (Node.weightOfAll nodes + 2)) ≤ fuel)
    (enough' : (threads.length + 1) * ((Node.weightOfAll nodes + 2) * (Node.weightOfAll nodes + 2)) ≤ fuel') :
    settle here fuel threads 0 done = settle here fuel' threads 0 done := by
  by_cases some : threads = []
  · subst some
    cases fuel <;> cases fuel' <;> rfl
  · have cost := settleCost_le within some
    exact settle_enough within (Nat.le_trans cost enough) (Nat.le_trans cost enough')

end BlockMarkup.Pattern
