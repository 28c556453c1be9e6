import BlockMarkup.Proofs.Tree.Flatten
import BlockMarkup.Proofs.Tree.Layout

/-!
# Where blocks start and end

A block starts where its opening token ends. Which child or token its end is taken from depends on the
policy; `build_block_form` says which one it is for every block of a document.
-/

namespace BlockMarkup

/-! ### Places of nodes -/

/-- A walk through these nodes meets `n` after `i` entries. -/
inductive StandsAt (n : Node) : Nat → List Node → Prop where
  | here {rest : List Node} : StandsAt n 0 (n :: rest)
  | inside {i : Nat} {m : Node} {rest : List Node} (deeper : StandsAt n i m.children) :
      StandsAt n (i + 1) (m :: rest)
  | later {i : Nat} {m : Node} {rest : List Node} (behind : StandsAt n i rest) :
      StandsAt n (m.flatten.length + i) (m :: rest)

theorem occurs_iff_standsAt {n : Node} {nodes : List Node} :
    Occurs n nodes ↔ ∃ i, StandsAt n i nodes := by
  have among : ∀ {m : Node} {nodes : List Node}, m ∈ nodes →
      (m = n ∨ ∃ i, StandsAt n i m.children) → ∃ i, StandsAt n i nodes := by
    intro m nodes member found
    induction nodes with
    | nil => cases member
    | cons first rest ih =>
      rcases List.mem_cons.mp member with rfl | old
      · rcases found with rfl | ⟨i, deeper⟩
        · exact ⟨0, .here⟩
        · exact ⟨i + 1, .inside deeper⟩
      · obtain ⟨i, behind⟩ := ih old
        exact ⟨_, .later behind⟩
  constructor
  · intro occurs
    induction occurs with
    | among member => exact among member (.inl rfl)
    | inside member deeper ih => exact among member (.inr ih)
  · rintro ⟨i, stands⟩
    induction stands with
    | here => exact .among (List.mem_cons_self ..)
    | inside deeper ih => exact .inside (List.mem_cons_self ..) ih
    | later behind ih => exact occurs_cons.mpr (.inr (.inr ih))

/-! ### The tokens of a block -/

/-- Of the tokens after the one that opens a block, the first that belongs to none of its children. -/
def closer? (later : List Token) (children : List Node) : Option Token :=
  later[(Node.flattenAll children).length]?

variable {o : BuildOptions} {source : List Char} {p : Nat} {t opening : Token}
  {tokens before : List Token} {n : Node} {nodes : List Node} {loc : Location}

theorem closer?_cons (child : Node) (children : List Node) :
    closer? tokens (child :: children) = closer? (tokens.drop child.flatten.length) children := by
  rw [closer?, closer?, List.getElem?_drop, Node.flattenAll, List.length_append]

/-- What was read of a block is the walk through its children and the token that closes it. -/
structure Body.Walked (body : Body tokens) : Prop where
  rest : body.rest = tokens.drop ((Node.flattenAll body.children).length + 1)
  closing : body.closing = (closer? tokens body.children).bind (·.params)
  closes : ∀ t ∈ closer? tokens body.children, t.role = .closing

theorem Body.Walked.after {others : Body tokens} (walked : others.Walked)
    (passed : tokens = before.drop n.flatten.length) (fewer : tokens.length ≤ before.length) :
    (others.after n fewer).Walked := by
  have closer : closer? before (n :: others.children) = closer? tokens others.children := by
    rw [closer?_cons, ← passed]
  refine ⟨?_, ?_, ?_⟩
  · change others.rest = before.drop ((Node.flattenAll (n :: others.children)).length + 1)
    rw [Node.flattenAll, List.length_append, Nat.add_assoc, ← List.drop_drop, ← passed]
    exact walked.rest
  · change others.closing = (closer? before (n :: others.children)).bind (·.params)
    rw [closer]
    exact walked.closing
  · exact fun t found => walked.closes t (closer ▸ found)

theorem Body.length_node (body : Body tokens) (t : Token) :
    (body.node t).flatten.length = (Node.flattenAll body.children).length + 2 := by
  simp [Body.node, Node.flatten]

theorem readBlock_walked {body : Body tokens} (read : readBlock o opening loc tokens = .ok body) :
    body.Walked := by
  fun_induction readBlock o opening loc tokens with
  | case1 => cases read; exact ⟨rfl, rfl, by simp [closer?]⟩
  | case2 opening loc t rest text ih | case3 opening loc t rest marker ih =>
    obtain ⟨others, readOthers, rfl⟩ := map_eq_ok read
    exact (ih readOthers).after rfl _
  | case4 => cases read
  | case5 opening loc t rest opens inner readInner ihInner ih =>
    obtain ⟨others, readOthers, rfl⟩ := map_eq_ok read
    refine (ih readOthers).after ?_ _
    rw [inner.length_node, (ihInner readInner).rest]
    rfl
  | case6 => cases read
  | case7 opening loc t rest closes fits =>
    cases read
    exact ⟨rfl, rfl, by simpa [closer?, Node.flattenAll] using closes⟩
  | case8 => cases read

theorem readBlock_passed {body : Body tokens} (read : readBlock o opening loc tokens = .ok body) :
    (t :: tokens).drop (body.node t).flatten.length = body.rest := by
  rw [body.length_node, (readBlock_walked read).rest]
  rfl

/-! ### What nodes are read from -/

/-- These tokens begin with those that the node was read from. -/
inductive ReadAs (o : BuildOptions) : Node → List Token → Prop where
  | leaf {t : Token} {later : List Token} : ReadAs o (.leaf t) (t :: later)
  | block {t : Token} {later : List Token} {body : Body later} (opens : t.role = .opening)
      (read : readBlock o t (blockStart t later.head?) later = .ok body) :
      ReadAs o (body.node t) (t :: later)

/-- Every node was read from the tokens at its place. -/
def ReadFrom (o : BuildOptions) (tokens : List Token) (nodes : List Node) : Prop :=
  ∀ i n, StandsAt n i nodes → ReadAs o n (tokens.drop i)

theorem readFrom_nil : ReadFrom o tokens [] := by
  intro i n stands
  cases stands

theorem readFrom_cons {rest : List Token} (first : ReadAs o n (t :: rest))
    (inside : ReadFrom o rest n.children)
    (later : ReadFrom o ((t :: rest).drop n.flatten.length) nodes) : ReadFrom o (t :: rest) (n :: nodes) := by
  intro i m stands
  cases stands with
  | here => exact first
  | inside deeper => exact inside _ m deeper
  | later behind =>
    rw [← List.drop_drop]
    exact later _ m behind

theorem readBlock_readFrom {body : Body tokens} (read : readBlock o opening loc tokens = .ok body) :
    ReadFrom o tokens body.children := by
  fun_induction readBlock o opening loc tokens with
  | case1 => cases read; exact readFrom_nil
  | case2 opening loc t rest text ih | case3 opening loc t rest marker ih =>
    obtain ⟨others, readOthers, rfl⟩ := map_eq_ok read
    exact readFrom_cons .leaf readFrom_nil (ih readOthers)
  | case4 => cases read
  | case5 opening loc t rest opens inner readInner ihInner ih =>
    obtain ⟨others, readOthers, rfl⟩ := map_eq_ok read
    refine readFrom_cons (.block opens readInner) (ihInner readInner) ?_
    rw [readBlock_passed readInner]
    exact ih readOthers
  | case6 => cases read
  | case7 => cases read; exact readFrom_nil
  | case8 => cases read

theorem readDocument_readFrom (read : readDocument o tokens = .ok nodes) : ReadFrom o tokens nodes := by
  fun_induction readDocument o tokens generalizing nodes with
  | case1 => cases read; exact readFrom_nil
  | case2 t rest text ih | case3 t rest marker ih =>
    obtain ⟨others, readOthers, rfl⟩ := map_eq_ok read
    exact readFrom_cons .leaf readFrom_nil (ih readOthers)
  | case4 => cases read
  | case5 t rest opens body readBody ih =>
    obtain ⟨others, readOthers, rfl⟩ := map_eq_ok read
    refine readFrom_cons (.block opens readBody) (readBlock_readFrom readBody) ?_
    rw [readBlock_passed readBody]
    exact ih readOthers
  | case6 => cases read
  | case7 => cases read

/-! ### The end of a block -/

theorem getLast?_cons_elim {α β : Type} (a : α) (rest : List α) (none : β) (some : α → β) :
    (a :: rest).getLast?.elim none some = rest.getLast?.elim (some a) some := by
  rw [List.getLast?_cons]
  cases rest.getLast? <;> rfl

/-- Only children of type `text` move the end, if nothing else does. -/
theorem readBlock_lastText (ends : o.endOffset = .lastText) {body : Body tokens}
    (read : readBlock o opening loc tokens = .ok body) :
    body.loc.stop =
      (body.children.filter (·.type = "text")).getLast?.elim loc.stop (·.loc.stop) := by
  have kept : ∀ (loc : Location) (n : Node), loc.withChild o n = loc := by
    simp [Location.withChild, ends]
  fun_induction readBlock o opening loc tokens with
  | case1 => cases read; rfl
  | case2 opening loc t rest text ih =>
    obtain ⟨others, readOthers, rfl⟩ := map_eq_ok read
    have type : (Node.leaf t).type = "text" := (Token.role_eq_iff (by decide)).mp text
    have stop := ih readOthers
    rw [kept] at stop
    rw [Body.after, List.filter_cons_of_pos (by simpa using type), getLast?_cons_elim]
    exact stop
  | case3 opening loc t rest marker ih =>
    obtain ⟨others, readOthers, rfl⟩ := map_eq_ok read
    have type : (Node.leaf t).type = "marker" := (Token.role_eq_iff (by decide)).mp marker
    have stop := ih readOthers
    rw [kept] at stop
    rw [Body.after, List.filter_cons_of_neg (by simp [type])]
    exact stop
  | case4 => cases read
  | case5 opening loc t rest opens inner readInner ihInner ih =>
    obtain ⟨others, readOthers, rfl⟩ := map_eq_ok read
    have stop := ih readOthers
    rw [kept] at stop
    rw [Body.after, List.filter_cons_of_neg (by simp [Body.node, Node.type])]
    exact stop
  | case6 => cases read
  | case7 => cases read; rfl
  | case8 => cases read

theorem Location.withChild_stop_eq (loc : Location) (n : Node) :
    (loc.withChild o n).stop = loc.stop ∨ (loc.withChild o n).stop = n.loc.stop := by
  unfold withChild
  split
  · exact .inl rfl
  · exact (Nat.le_total n.loc.stop loc.stop).imp Nat.max_eq_left Nat.max_eq_right

theorem Body.stop_after {others : Body tokens} {moved : Location}
    (stop : others.loc.stop = moved.stop ∨ ∃ m ∈ others.children, others.loc.stop = m.loc.stop)
    (move : moved.stop = loc.stop ∨ moved.stop = n.loc.stop) (fewer : tokens.length ≤ before.length) :
    (others.after n fewer).loc.stop = loc.stop ∨
      ∃ m ∈ (others.after n fewer).children, (others.after n fewer).loc.stop = m.loc.stop := by
  rcases stop with same | ⟨m, member, same⟩
  · exact move.imp same.trans fun child => ⟨n, List.mem_cons_self, same.trans child⟩
  · exact .inr ⟨m, List.mem_cons_of_mem _ member, same⟩

/-- Nothing but the children moves the end of a block. -/
theorem readBlock_stop {body : Body tokens} (read : readBlock o opening loc tokens = .ok body) :
    body.loc.stop = loc.stop ∨ ∃ n ∈ body.children, body.loc.stop = n.loc.stop := by
  fun_induction readBlock o opening loc tokens with
  | case1 => cases read; exact .inl rfl
  | case2 opening loc t rest text ih =>
    obtain ⟨others, readOthers, rfl⟩ := map_eq_ok read
    have move := Location.withChild_stop_eq (o := o) { loc with stop := t.loc.stop } (.leaf t)
    exact Body.stop_after (ih readOthers) (.inr (move.elim id id)) _
  | case3 opening loc t rest marker ih =>
    obtain ⟨others, readOthers, rfl⟩ := map_eq_ok read
    exact Body.stop_after (ih readOthers) (loc.withChild_stop_eq (.leaf t)) _
  | case4 => cases read
  | case5 opening loc t rest opens inner readInner ihInner ih =>
    obtain ⟨others, readOthers, rfl⟩ := map_eq_ok read
    exact Body.stop_after (ih readOthers) (loc.withChild_stop_eq (inner.node t)) _
  | case6 => cases read
  | case7 => cases read; exact .inl rfl
  | case8 => cases read

theorem Arranged.stops {q : Nat} (arranged : Arranged o p nodes q) :
    nodes.Pairwise fun a b => a.loc.stop ≤ b.loc.stop := by
  induction arranged with
  | done => exact .nil
  | leaf low filled later ih =>
    refine List.pairwise_cons.mpr ⟨fun n member => ?_, ih⟩
    obtain ⟨start, wide, -⟩ := later.bounds n (.among member)
    exact Nat.le_trans start wide
  | block low filled high inside ended held later inner outer =>
    refine List.pairwise_cons.mpr ⟨fun n member => ?_, outer⟩
    obtain ⟨start, wide, -⟩ := later.bounds n (.among member)
    exact Nat.le_trans high (Nat.le_trans start wide)

theorem stop_le_last (stops : nodes.Pairwise fun a b => a.loc.stop ≤ b.loc.stop)
    (last : nodes.getLast? = some n) : ∀ m ∈ nodes, m.loc.stop ≤ n.loc.stop := by
  obtain ⟨front, rfl⟩ := List.getLast?_eq_some_iff.mp last
  intro m member
  rcases List.mem_append.mp member with old | same
  · exact (List.pairwise_append.mp stops).2.2 m old n (List.mem_singleton_self n)
  · rw [List.mem_singleton.mp same]

theorem firstStop_eq (p : Nat) (tokens : List Token) :
    firstStop p tokens = tokens.head?.elim p (·.loc.stop) := by
  cases tokens <;> rfl

theorem Tiles.drop (tiles : Tiles source p tokens) (i : Nat) : ∃ q, Tiles source q (tokens.drop i) := by
  induction i generalizing p tokens with
  | zero => exact ⟨p, tiles⟩
  | succ i ih =>
    cases tiles with
    | done => exact ⟨_, .done⟩
    | token loc filled inside value later => exact ih later

theorem Tiles.tail {later : List Token} (tiles : Tiles source p (t :: later)) :
    Tiles source t.loc.stop later := by
  cases tiles with
  | token place wide inside value behind =>
    obtain rfl := congrArg Location.stop place
    exact behind

/-- The body of a block that is read after its opening token. -/
theorem readBlock_opened {later : List Token} {body : Body later} (tiles : Tiles source p (t :: later))
    (read : readBlock o t (blockStart t later.head?) later = .ok body) :
    ∃ q, body.Fits o source t.loc.stop ⟨t.loc.stop, firstStop t.loc.stop later⟩ q := by
  have behind := tiles.tail
  rw [behind.blockStart rfl] at read
  exact readBlock_fits behind ⟨Nat.le_refl _, behind.le_firstStop, Nat.le_refl _⟩ read

theorem ReadAs.firstStop_le (read : ReadAs o n tokens) (tiles : Tiles source p tokens) :
    firstStop p tokens ≤ n.loc.stop := by
  cases read with
  | leaf => exact Nat.le_refl _
  | block opens read =>
    obtain ⟨q, fits⟩ := readBlock_opened tiles read
    exact Nat.le_trans tiles.tail.le_firstStop fits.grown

/-- If every child moves the end of its block, it is where the last child ends. -/
theorem readBlock_lastChild (ends : o.endOffset = .lastChild) {later : List Token} {body : Body later}
    (tiles : Tiles source p (t :: later))
    (read : readBlock o t (blockStart t later.head?) later = .ok body) :
    body.loc.stop = body.children.getLast?.elim (firstStop t.loc.stop later) (·.loc.stop) := by
  have seed : (blockStart t later.head?).stop = firstStop t.loc.stop later :=
    congrArg Location.stop (tiles.tail.blockStart rfl)
  cases last : body.children.getLast? with
  | none =>
    have childless := List.getLast?_eq_none_iff.mp last
    rcases readBlock_stop read with same | ⟨n, member, -⟩
    · exact same.trans seed
    · rw [childless] at member
      cases member
  | some n =>
    obtain ⟨q, fits⟩ := readBlock_opened tiles read
    obtain ⟨r, arranged, -⟩ := fits.children
    have below := stop_le_last arranged.stops last
    refine Nat.le_antisymm ?_ (fits.held ends n (List.mem_of_getLast? last))
    rcases readBlock_stop read with same | ⟨m, member, same⟩
    · -- No child moved the end, so the first one ends no further on than the first token does.
      rw [same, seed]
      obtain ⟨first, rest, children⟩ := List.exists_cons_of_ne_nil
        (List.ne_nil_of_mem (List.mem_of_getLast? last))
      have start : StandsAt first 0 body.children := children ▸ .here
      have low := (readBlock_readFrom read 0 first start).firstStop_le tiles.tail
      exact Nat.le_trans low (below first (children ▸ List.mem_cons_self))
    · rw [same]
      exact below m member

/-! ### Documents -/

/-- The block that `opening` opens, with the tokens after it. It has a closing token, unless the tokens
end before one. -/
structure BlockForm (o : BuildOptions) (opening : Token) (later : List Token) (n : Node) : Prop where
  opens : opening.role = .opening
  closes : ∀ t ∈ closer? later n.children, t.role = .closing
  params : n = .block n.loc opening.params ((closer? later n.children).bind (·.params)) n.children
  start : n.loc.start = opening.loc.stop
  lastText : o.endOffset = .lastText →
    n.loc.stop = (n.children.filter (·.type = "text")).getLast?.elim
      (later.head?.elim opening.loc.stop (·.loc.stop)) (·.loc.stop)
  lastChild : o.endOffset = .lastChild →
    n.loc.stop = n.children.getLast?.elim
      ((closer? later n.children).elim opening.loc.stop (·.loc.stop)) (·.loc.stop)

theorem ReadAs.form (read : ReadAs o n tokens) (block : n.isBlock) (tiles : Tiles source p tokens) :
    ∃ opening later, tokens = opening :: later ∧ BlockForm o opening later n := by
  cases read with
  | leaf => cases block
  | @block t later body opens read =>
    have walked := readBlock_walked read
    obtain ⟨q, fits⟩ := readBlock_opened tiles read
    have seed : (blockStart t later.head?).stop = firstStop t.loc.stop later :=
      congrArg Location.stop (tiles.tail.blockStart rfl)
    refine ⟨t, later, rfl, opens, walked.closes, ?_, fits.start, ?_, ?_⟩
    · rw [Body.node, walked.closing]
      rfl
    · intro ends
      rw [← firstStop_eq, ← seed]
      exact readBlock_lastText ends read
    · intro ends
      refine (readBlock_lastChild ends tiles read).trans ?_
      change _ = body.children.getLast?.elim _ _
      cases last : body.children.getLast? with
      | none =>
        change _ = (closer? later body.children).elim _ _
        rw [List.getLast?_eq_none_iff.mp last, firstStop_eq, List.head?_eq_getElem?]
        rfl
      | some n => rfl

/-- Every block of a document has its location from the tokens around it and from its children: it
starts where its opening token ends, and ends where its last text or its last child does. The tokens
are those from the place of the block on. -/
theorem build_block_form {rules : RuleSet} {compiled : List CompiledRule} {source : String}
    {d : Document} (compiles : rules.compile = .ok compiled) (anchored : ∀ r ∈ compiled, r.Anchored)
    (built : build o rules source = .ok d) :
    ∃ tokens, tokenize compiled source = some tokens ∧
      ∀ n, Occurs n d.children → n.isBlock →
        (∃ i, StandsAt n i d.children) ∧
        ∀ i, StandsAt n i d.children →
          ∃ opening later, tokens.drop i = opening :: later ∧ BlockForm o opening later n := by
  obtain ⟨tokens, found, read, -⟩ := build_steps compiles built
  have tiles := tokenize_tiles anchored found
  have places := readDocument_readFrom (readDocument_of_buildNodes read)
  refine ⟨tokens, found, fun n occurs block => ⟨occurs_iff_standsAt.mp occurs, fun i stands => ?_⟩⟩
  obtain ⟨p, behind⟩ := tiles.drop i
  exact (places i n stands).form block behind

theorem build_block_form_nested :
    ∃ compiled d, RuleSet.compile ⟨sampleRules⟩ = .ok compiled ∧ (∀ r ∈ compiled, r.Anchored) ∧
      build { endOffset := .lastChild } ⟨sampleRules⟩ "a<xébc" = .ok d ∧ d.children = nestedNodes ∧
      ∃ tokens, tokenize compiled "a<xébc" = some tokens ∧
        ∀ n, Occurs n d.children → n.isBlock →
          (∃ i, StandsAt n i d.children) ∧
          ∀ i, StandsAt n i d.children → ∃ opening later, tokens.drop i = opening :: later ∧
            BlockForm { endOffset := .lastChild } opening later n := by
  obtain ⟨compiled, compiles, anchored, -⟩ := sampleRules_compile
  exact ⟨compiled, _, compiles, anchored, build_nested, rfl,
    build_block_form compiles anchored build_nested⟩

end BlockMarkup
