import BlockMarkup.Proofs.Pattern.Texts

/-!
# Patterns that list texts

Behind a test for the start of the text stands one text (`Expr.verbatim`) or a group of several
(`Expr.listed`). The pattern finds the first of these that comes next, and nothing else
(`find_verbatim`, `find_listed`).
-/

namespace BlockMarkup.Pattern

namespace Expr

/-- Characters that follow one another. -/
def word : List Char → Expr
  | [] => .empty
  | [c] => .char c
  | chars => .concat (chars.map .char)

/-- A choice between words, the first ones preferred. -/
def anyWord : List (List Char) → Expr
  | [] => .empty
  | [text] => word text
  | texts => .choice (texts.map word)

/-- A word behind a test for the start of the text. -/
def verbatim (text : List Char) : Expr := .concat [.look .textStart, word text]

/-- A group of words behind a test for the start of the text. -/
def listed (texts : List (List Char)) : Expr :=
  .concat [.look .textStart, .group 1 (anyWord texts)]

end Expr

/-! ### Programs -/

variable {e : Expr} {rest : List Expr} {n m k : Nat} {first others : List Node} {ways : List (List Node)}

theorem nodesOfAll_cons (head : e.nodes.run n = (first, m))
    (tail : (Expr.nodesOfAll rest).run m = (others, k)) :
    (Expr.nodesOfAll (e :: rest)).run n = (first ++ others, k) := by
  rw [Expr.nodesOfAll, StateT.run_bind, head]
  change StateT.run (_ >>= _) m = _
  rw [StateT.run_bind, tail]
  rfl

theorem waysOfAll_cons (head : e.nodes.run n = (first, m))
    (tail : (Expr.waysOfAll rest).run m = (ways, k)) :
    (Expr.waysOfAll (e :: rest)).run n = (first :: ways, k) := by
  rw [Expr.waysOfAll, StateT.run_bind, head]
  change StateT.run (_ >>= _) m = _
  rw [StateT.run_bind, tail]
  rfl

theorem nodes_group {body : Expr} (inner : body.nodes.run n = (first, m)) (index : Nat) :
    (Expr.group index body).nodes.run n =
      (.mark (2 * index) :: first ++ [.mark (2 * index + 1)], m) := by
  rw [Expr.nodes, StateT.run_bind, inner]
  rfl

theorem nodesOfAll_chars (text : List Char) (n : Nat) :
    (Expr.nodesOfAll (text.map .char)).run n = (text.map .char, n) := by
  induction text with
  | nil => rfl
  | cons c text ih => exact nodesOfAll_cons rfl ih

theorem nodes_word (text : List Char) (n : Nat) :
    (Expr.word text).nodes.run n = (text.map .char, n) := by
  rcases text with _ | ⟨c, _ | ⟨d, text⟩⟩
  · rfl
  · rfl
  · exact nodesOfAll_chars (c :: d :: text) n

theorem waysOfAll_words (texts : List (List Char)) (n : Nat) :
    (Expr.waysOfAll (texts.map .word)).run n = (texts.map (·.map .char), n) := by
  induction texts with
  | nil => rfl
  | cons text texts ih => exact waysOfAll_cons (nodes_word text n) ih

/-- The program of an expression behind a test for the start of the text. -/
theorem ofExpr_nodes {body : List Node} (runs : e.nodes.run 0 = (body, n)) :
    (Program.ofExpr (.concat [.look .textStart, e])).nodes = .look .textStart :: body := by
  have inner : (Expr.nodesOfAll [e]).run 0 = (body ++ [], n) := nodesOfAll_cons runs rfl
  have all : (Expr.nodesOfAll [.look .textStart, e]).run 0 = ([.look .textStart] ++ (body ++ []), n) :=
    nodesOfAll_cons rfl inner
  change ((Expr.nodesOfAll [.look .textStart, e]).run 0).1 = _
  rw [all]
  simp

theorem verbatim_nodes (text : List Char) :
    (Program.ofExpr (.verbatim text)).nodes = .look .textStart :: text.map .char :=
  ofExpr_nodes (nodes_word text 0)

/-- The ways through a group of words. Only several words need a choice. -/
def waysIn : List (List Char) → List Node
  | [] => []
  | [text] => text.map .char
  | texts => [.fork 0 (texts.map (·.map .char))]

theorem nodes_anyWord (texts : List (List Char)) :
    ∃ n, (Expr.anyWord texts).nodes.run 0 = (waysIn texts, n) := by
  rcases texts with _ | ⟨text, _ | ⟨next, texts⟩⟩
  · exact ⟨0, rfl⟩
  · exact ⟨0, nodes_word text 0⟩
  · refine ⟨1, ?_⟩
    change StateT.run (_ >>= _) 0 = _
    rw [StateT.run_bind]
    change StateT.run (_ >>= _) 1 = _
    rw [StateT.run_bind, waysOfAll_words]
    rfl

theorem listed_nodes (texts : List (List Char)) :
    (Program.ofExpr (.listed texts)).nodes =
      .look .textStart :: .mark 2 :: waysIn texts ++ [.mark 3] := by
  obtain ⟨n, runs⟩ := nodes_anyWord texts
  exact ofExpr_nodes (nodes_group runs 1)

/-! ### Groups -/

theorem groups_chars (text : List Char) : Node.groupsOfAll (text.map .char) = 0 := by
  induction text with
  | nil => rfl
  | cons c text ih => simp [Node.groupsOfAll, Node.groups, ih]

theorem groupsOfWays_words (texts : List (List Char)) :
    Node.groupsOfWays (texts.map (·.map .char)) = 0 := by
  induction texts with
  | nil => rfl
  | cons text texts ih => rw [List.map_cons, Node.groupsOfWays, ih, groups_chars, Nat.max_self]

theorem groupsOfAll_append (nodes others : List Node) :
    Node.groupsOfAll (nodes ++ others) = max (Node.groupsOfAll nodes) (Node.groupsOfAll others) := by
  induction nodes with
  | nil => simp [Node.groupsOfAll]
  | cons node nodes ih => rw [List.cons_append, Node.groupsOfAll, ih, Node.groupsOfAll, Nat.max_assoc]

theorem groups_waysIn (texts : List (List Char)) : Node.groupsOfAll (waysIn texts) = 0 := by
  rcases texts with _ | ⟨text, _ | ⟨next, texts⟩⟩
  · rfl
  · exact groups_chars text
  · have none := groupsOfWays_words (text :: next :: texts)
    simpa [waysIn, Node.groupsOfAll, Node.groups] using none

theorem groups_verbatim (text : List Char) : (Program.ofExpr (.verbatim text)).groups = 0 := by
  change Node.groupsOfAll (Program.ofExpr (.verbatim text)).nodes - 1 = 0
  rw [verbatim_nodes, Node.groupsOfAll, groups_chars]
  rfl

theorem groups_listed (texts : List (List Char)) : (Program.ofExpr (.listed texts)).groups = 1 := by
  change Node.groupsOfAll (Program.ofExpr (.listed texts)).nodes - 1 = 1
  rw [listed_nodes, groupsOfAll_append, Node.groupsOfAll, Node.groupsOfAll, groups_waysIn]
  rfl

/-! ### What they find -/

theorem le_bound (e : Expr) : Node.weightOfAll (Program.ofExpr e).nodes + 4 ≤ (Program.ofExpr e).bound := by
  change Node.weightOfAll (Program.ofExpr e).nodes + 4 ≤
    (Node.weightOfAll (Program.ofExpr e).nodes + 2) * (Node.weightOfAll (Program.ofExpr e).nodes + 2)
  rw [Nat.add_mul]
  omega

/-- The pattern of a text finds it where it comes next, and nothing else. -/
theorem find_verbatim (text cs : List Char) :
    (Program.ofExpr (.verbatim text)).find cs =
      if text <+: cs then some { start := 0, stop := text.length } else none := by
  have enough := le_bound (.verbatim text)
  have starts : ∀ after, settle ⟨0, none, after⟩ (2 * (Program.ofExpr (.verbatim text)).bound)
      [{ todo := (Program.ofExpr (.verbatim text)).nodes, start := 0, marks := [] }] 0 [] =
        settled [] [] 0 [text] := by
    intro after
    have several : 3 ≤ 2 * (Program.ofExpr (.verbatim text)).bound := by omega
    obtain ⟨fuel, same⟩ := Nat.exists_eq_add_of_le' several
    -- Behind the test for the start the program is a thread that spells the text.
    have behind : settle ⟨0, none, after⟩ (fuel + 2) ([text].map (spelling [] [])) 0 [] =
        settled [] [] 0 [text] := settle_spelling (by simp)
    rw [same, verbatim_nodes, ← behind]
    simp [settle.eq_def _ (fuel + 3), Look.holds, spelling]
  rw [Program.find_texts rfl (by simp; omega) starts]
  by_cases fits : text <+: cs <;> simp [firstFit?, fits, spelled, noted]

/-- The texts that a group tries. A group of nothing matches the empty text. -/
def tried : List (List Char) → List (List Char)
  | [] => [[]]
  | texts => texts

theorem settle_waysIn {texts : List (List Char)} {slots : List Nat} {marks : List (Nat × Nat)}
    {here : Place} {fuel : Nat} (enough : texts.length + slots.length + 2 < fuel) :
    settle here fuel [{ todo := waysIn texts ++ slots.map .mark, start := 0, marks }] 0 [] =
      settled slots marks here.index (tried texts) := by
  rcases texts with _ | ⟨text, _ | ⟨next, texts⟩⟩
  · have nothing : settle here fuel ([[]].map (spelling slots marks)) 0 [] =
        settled slots marks here.index [[]] := settle_spelling (by simp at enough ⊢; omega)
    exact nothing
  · have single : settle here fuel ([text].map (spelling slots marks)) 0 [] =
        settled slots marks here.index [text] := settle_spelling (by simp at enough ⊢; omega)
    exact single
  · obtain ⟨fuel, rfl⟩ := Nat.exists_eq_succ_of_ne_zero (Nat.ne_of_gt (Nat.zero_lt_of_lt enough))
    have several : settle here fuel ((text :: next :: texts).map (spelling slots marks))
        (0 ||| 1 <<< 0) [] = settled slots marks here.index (text :: next :: texts) :=
      settle_spelling (by omega)
    refine Eq.trans ?_ several
    simp [waysIn, settle.eq_def _ (fuel + 1)]
    rfl

theorem length_le_weightOfWays (ways : List (List Node)) : ways.length ≤ Node.weightOfWays ways := by
  induction ways with
  | nil => exact Nat.zero_le _
  | cons way ways ih =>
    rw [Node.weightOfWays, List.length_cons]
    omega

theorem weightOfAll_append (nodes others : List Node) :
    Node.weightOfAll (nodes ++ others) = Node.weightOfAll nodes + Node.weightOfAll others := by
  induction nodes with
  | nil => simp [Node.weightOfAll]
  | cons node nodes ih => rw [List.cons_append, Node.weightOfAll, ih, Node.weightOfAll, Nat.add_assoc]

theorem length_le_weight (texts : List (List Char)) :
    texts.length ≤ Node.weightOfAll (waysIn texts) + 1 := by
  rcases texts with _ | ⟨text, _ | ⟨next, texts⟩⟩
  · exact Nat.zero_le _
  · exact Nat.le_add_left ..
  · have ways := length_le_weightOfWays ((text :: next :: texts).map (·.map .char))
    rw [List.length_map] at ways
    simp only [waysIn, Node.weightOfAll, Node.weight]
    omega

/-- The pattern of a list finds the first of its texts that comes next, and nothing else. -/
theorem find_listed (texts : List (List Char)) (cs : List Char) :
    (Program.ofExpr (.listed texts)).find cs =
      (firstFit? (tried texts) cs).map fun length =>
        { start := 0, stop := length, marks := [(3, length), (2, 0)] } := by
  have room : texts.length + 5 ≤ (Program.ofExpr (.listed texts)).bound := by
    have enough := le_bound (.listed texts)
    have weight := length_le_weight texts
    simp only [listed_nodes, List.cons_append, Node.weightOfAll, Node.weight, weightOfAll_append] at enough
    omega
  have starts : ∀ after, settle ⟨0, none, after⟩ (2 * (Program.ofExpr (.listed texts)).bound)
      [{ todo := (Program.ofExpr (.listed texts)).nodes, start := 0, marks := [] }] 0 [] =
        settled [3] [(2, 0)] 0 (tried texts) := by
    intro after
    have several : 2 ≤ 2 * (Program.ofExpr (.listed texts)).bound := by omega
    obtain ⟨fuel, same⟩ := Nat.exists_eq_add_of_le' several
    have inside : texts.length + [3].length + 2 < fuel := by
      rw [List.length_singleton]
      omega
    rw [same, listed_nodes]
    exact settle_waysIn inside
  rw [Program.find_texts rfl (by simp; omega) starts]
  exact congrArg (Option.map · _) (funext fun length => by simp [spelled, noted])

end BlockMarkup.Pattern
