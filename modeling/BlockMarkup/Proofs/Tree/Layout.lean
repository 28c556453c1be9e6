import Mathlib.Control.Monad.Basic
import BlockMarkup.Document
import BlockMarkup.Proofs.Token.Partition
import BlockMarkup.Proofs.Tree.Descent

/-!
# Where nodes lie

The nodes of a document lie in the source one after the other, and so do the nodes inside a block.
When every child moves the end of its block, blocks hold their children (`build_layout`).
-/

namespace BlockMarkup

def Location.Within (inner outer : Location) : Prop :=
  outer.start ≤ inner.start ∧ inner.stop ≤ outer.stop

/-- The node is one of these nodes, or inside one of them. -/
inductive Occurs (n : Node) : List Node → Prop where
  | among {nodes : List Node} (member : n ∈ nodes) : Occurs n nodes
  | inside {nodes : List Node} {outer : Node} (member : outer ∈ nodes)
      (deeper : Occurs n outer.children) : Occurs n nodes

/-- Each node ends before the next one starts. -/
def InOrder (nodes : List Node) : Prop := nodes.IsChain fun a b => a.loc.stop ≤ b.loc.start

structure Layout (o : BuildOptions) (source : String) (d : Document) : Prop where
  bounds : ∀ n, Occurs n d.children → n.loc.start ≤ n.loc.stop ∧ n.loc.stop ≤ source.length
  order : InOrder d.children
  orderInside : ∀ outer, Occurs outer d.children → InOrder outer.children
  within : o.endOffset = .lastChild → ∀ n ∈ d.children, n.loc.Within d.loc
  withinInside : o.endOffset = .lastChild →
    ∀ outer, Occurs outer d.children → ∀ n ∈ outer.children, n.loc.Within outer.loc

theorem occurs_nil {n : Node} : ¬ Occurs n [] := by
  rintro (member | ⟨member, -⟩) <;> cases member

theorem occurs_cons {n a : Node} {rest : List Node} :
    Occurs n (a :: rest) ↔ n = a ∨ Occurs n a.children ∨ Occurs n rest := by
  constructor
  · rintro (member | ⟨member, deeper⟩)
    · exact (List.mem_cons.mp member).imp_right fun old => .inr (.among old)
    · rcases List.mem_cons.mp member with rfl | old
      · exact .inr (.inl deeper)
      · exact .inr (.inr (.inside old deeper))
  · rintro (rfl | deeper | old | ⟨old, deeper⟩)
    · exact .among (List.mem_cons_self ..)
    · exact .inside (List.mem_cons_self ..) deeper
    · exact .among (List.mem_cons_of_mem _ old)
    · exact .inside (List.mem_cons_of_mem _ old) deeper

/-! ### Arrangements -/

/-- Nodes that were read from the characters between two offsets. A block can end before the
characters that it was read from do. -/
inductive Arranged (o : BuildOptions) : Nat → List Node → Nat → Prop where
  | done {p : Nat} : Arranged o p [] p
  | leaf {p q : Nat} {t : Token} {nodes : List Node} (low : p ≤ t.loc.start)
      (filled : t.loc.start ≤ t.loc.stop) (later : Arranged o t.loc.stop nodes q) :
      Arranged o p (.leaf t :: nodes) q
  | block {p q r s : Nat} {loc : Location} {opening closing : Option Params}
      {children nodes : List Node} (low : p ≤ loc.start) (filled : loc.start ≤ loc.stop)
      (high : loc.stop ≤ s) (inside : Arranged o loc.start children r) (ended : r ≤ s)
      (held : o.endOffset = .lastChild → ∀ n ∈ children, n.loc.stop ≤ loc.stop)
      (later : Arranged o s nodes q) :
      Arranged o p (.block loc opening closing children :: nodes) q

namespace Arranged

variable {o : BuildOptions} {p q : Nat} {nodes : List Node}

theorem low_le_high (arranged : Arranged o p nodes q) : p ≤ q := by
  induction arranged with
  | done => exact Nat.le_refl _
  | leaf low filled later ih => omega
  | block low filled high inside ended held later inner outer => omega

theorem bounds (arranged : Arranged o p nodes q) :
    ∀ n, Occurs n nodes → p ≤ n.loc.start ∧ n.loc.start ≤ n.loc.stop ∧ n.loc.stop ≤ q := by
  induction arranged with
  | done => exact fun n nowhere => absurd nowhere occurs_nil
  | leaf low filled later ih =>
    have behind := later.low_le_high
    intro n occurs
    rcases occurs_cons.mp occurs with rfl | deeper | old
    · exact ⟨low, filled, behind⟩
    · exact absurd deeper occurs_nil
    · obtain ⟨start, rest⟩ := ih n old
      exact ⟨by omega, rest⟩
  | block low filled high inside ended held later inner outer =>
    have behind := later.low_le_high
    intro n occurs
    rcases occurs_cons.mp occurs with rfl | deeper | old
    · exact ⟨low, filled, Nat.le_trans high behind⟩
    · obtain ⟨start, rest, stop⟩ := inner n deeper
      exact ⟨by omega, rest, by omega⟩
    · obtain ⟨start, rest⟩ := outer n old
      exact ⟨by omega, rest⟩

theorem head_start (arranged : Arranged o p nodes q) : ∀ n ∈ nodes.head?, p ≤ n.loc.start :=
  fun n head => (arranged.bounds n (.among (List.mem_of_mem_head? head))).1

theorem inOrder (arranged : Arranged o p nodes q) : InOrder nodes := by
  induction arranged with
  | done => exact .nil
  | leaf low filled later ih => exact List.isChain_cons.mpr ⟨later.head_start, ih⟩
  | block low filled high inside ended held later inner outer =>
    exact List.isChain_cons.mpr
      ⟨fun n head => Nat.le_trans high (later.head_start n head), outer⟩

theorem inOrder_inside (arranged : Arranged o p nodes q) :
    ∀ outer, Occurs outer nodes → InOrder outer.children := by
  induction arranged with
  | done => exact fun outer nowhere => absurd nowhere occurs_nil
  | leaf low filled later ih =>
    intro outer occurs
    rcases occurs_cons.mp occurs with rfl | deeper | old
    · exact .nil
    · exact absurd deeper occurs_nil
    · exact ih outer old
  | block low filled high inside ended held later inner others =>
    intro outer occurs
    rcases occurs_cons.mp occurs with rfl | deeper | old
    · exact inside.inOrder
    · exact inner outer deeper
    · exact others outer old

theorem within_inside (arranged : Arranged o p nodes q) (ends : o.endOffset = .lastChild) :
    ∀ outer, Occurs outer nodes → ∀ n ∈ outer.children, n.loc.Within outer.loc := by
  induction arranged with
  | done => exact fun outer nowhere => absurd nowhere occurs_nil
  | leaf low filled later ih =>
    intro outer occurs n member
    rcases occurs_cons.mp occurs with rfl | deeper | old
    · cases member
    · exact absurd deeper occurs_nil
    · exact ih outer old n member
  | block low filled high inside ended held later inner others =>
    intro outer occurs n member
    rcases occurs_cons.mp occurs with rfl | deeper | old
    · exact ⟨(inside.bounds n (.among member)).1, held ends n member⟩
    · exact inner outer deeper n member
    · exact others outer old n member

end Arranged

/-! ### Reading -/

/-- Where the first of the tokens from `p` on ends. -/
def firstStop (p : Nat) (tokens : List Token) : Nat := (tokens.head?.map (·.loc.stop)).getD p

variable {o : BuildOptions} {source : List Char} {p : Nat} {tokens : List Token}

theorem Tiles.le_firstStop (tiles : Tiles source p tokens) : p ≤ firstStop p tokens := by
  cases tiles with
  | done => exact Nat.le_refl _
  | token loc filled => simpa [firstStop, loc] using Nat.le_of_lt filled

theorem Tiles.blockStart {t : Token} {q : Nat} (tiles : Tiles source q tokens)
    (stop : t.loc.stop = q) : blockStart t tokens.head? = ⟨q, firstStop q tokens⟩ := by
  cases tiles with
  | done => simp [BlockMarkup.blockStart, firstStop, Location.emptyAt, stop]
  | token loc => simp [BlockMarkup.blockStart, firstStop, loc]

namespace Location

variable (loc : Location) (n : Node)

@[simp] theorem withChild_start : (loc.withChild o n).start = loc.start := by
  unfold withChild
  split <;> rfl

theorem le_withChild_stop : loc.stop ≤ (loc.withChild o n).stop := by
  unfold withChild
  split
  · exact Nat.le_refl _
  · exact Nat.le_max_left ..

theorem withChild_stop_le {q : Nat} (here : loc.stop ≤ q) (there : n.loc.stop ≤ q) :
    (loc.withChild o n).stop ≤ q := by
  unfold withChild
  split
  · exact here
  · exact Nat.max_le.mpr ⟨here, there⟩

theorem child_le_withChild_stop (ends : o.endOffset = .lastChild) :
    n.loc.stop ≤ (loc.withChild o n).stop := by
  simp only [withChild, ends]
  exact Nat.le_max_right ..

end Location

/-- What the characters of a block say of its body. `loc` is where the block lies so far. -/
structure Body.Fits (o : BuildOptions) (source : List Char) (p : Nat) (loc : Location)
    {tokens : List Token} (body : Body tokens) (q : Nat) : Prop where
  tiles : Tiles source q body.rest
  start : body.loc.start = loc.start
  grown : loc.stop ≤ body.loc.stop
  high : body.loc.stop ≤ q
  children : ∃ r, Arranged o p body.children r ∧ r ≤ q
  held : o.endOffset = .lastChild → ∀ n ∈ body.children, n.loc.stop ≤ body.loc.stop

theorem Body.Fits.node {t : Token} {q r s : Nat} {body : Body tokens} {loc : Location}
    {rest : List Node} (fits : body.Fits o source q loc r) (start : loc.start = q)
    (filled : q ≤ loc.stop) (low : p ≤ q) (later : Arranged o r rest s) :
    Arranged o p (body.node t :: rest) s := by
  subst start
  obtain ⟨e, inside, ended⟩ := fits.children
  have start := fits.start
  have grown := fits.grown
  exact .block (by omega) (by omega) fits.high (start ▸ inside) ended fits.held later

theorem Body.Fits.after {q r : Nat} {before : List Token} {body : Body tokens} {loc : Location}
    {child : Node} (fewer : tokens.length ≤ before.length)
    (fits : body.Fits o source q (loc.withChild o child) r)
    (arranged : ∀ {rest s}, Arranged o q rest s → Arranged o p (child :: rest) s) :
    (body.after child fewer).Fits o source p loc r := by
  obtain ⟨s, inside, ended⟩ := fits.children
  refine ⟨fits.tiles, fits.start.trans (loc.withChild_start child),
    Nat.le_trans (loc.le_withChild_stop child) fits.grown, fits.high, ⟨s, arranged inside, ended⟩, ?_⟩
  intro ends n member
  rcases List.mem_cons.mp member with rfl | old
  · exact Nat.le_trans (loc.child_le_withChild_stop _ ends) fits.grown
  · exact fits.held ends n old

theorem Body.Fits.sooner {q : Nat} {body : Body tokens} {loc : Location} (stop : Nat)
    (fits : body.Fits o source p { loc with stop } q) (sooner : loc.stop ≤ stop) :
    body.Fits o source p loc q :=
  { fits with grown := Nat.le_trans sooner fits.grown }

/-- Where a block can lie so far, if its body goes on at `p`. Its end can be that of the token that
comes next, but is never further on. -/
structure Location.Reaches (loc : Location) (p : Nat) (tokens : List Token) : Prop where
  low : loc.start ≤ p
  filled : loc.start ≤ loc.stop
  high : loc.stop ≤ firstStop p tokens

theorem Location.reaches_withChild {loc : Location} {n : Node} (tiles : Tiles source p tokens)
    (low : loc.start ≤ p) (filled : loc.start ≤ loc.stop) (high : loc.stop ≤ p)
    (child : n.loc.stop ≤ p) : (loc.withChild o n).Reaches p tokens where
  low := by rwa [loc.withChild_start]
  filled := by
    rw [loc.withChild_start]
    exact Nat.le_trans filled (loc.le_withChild_stop n)
  high := Nat.le_trans (loc.withChild_stop_le n high child) tiles.le_firstStop

theorem map_eq_ok {α β ε : Type} {f : α → β} {result : Except ε α} {b : β}
    (mapped : result.map f = .ok b) : ∃ a, result = .ok a ∧ f a = b := by
  cases result with
  | error e => cases mapped
  | ok a => exact ⟨a, rfl, Except.ok.inj mapped⟩

/-- The children of a block come one after the other, up to where its body ends. -/
theorem readBlock_fits {opening : Token} {loc : Location} {body : Body tokens}
    (tiles : Tiles source p tokens) (reaches : loc.Reaches p tokens)
    (read : readBlock o opening loc tokens = .ok body) : ∃ q, body.Fits o source p loc q := by
  obtain ⟨low, filled, high⟩ := reaches
  fun_induction readBlock o opening loc tokens generalizing p with
  | case1 opening loc =>
    cases read
    cases tiles
    exact ⟨_, .done, rfl, Nat.le_refl _, high, ⟨_, .done, Nat.le_refl _⟩, by simp⟩
  | case2 opening loc t rest text ih =>
    obtain ⟨others, readOthers, rfl⟩ := map_eq_ok read
    cases tiles with
    | @token _ q _ _ place wide inside value later =>
      have reach : loc.stop ≤ t.loc.stop := high
      have stop : t.loc.stop = q := congrArg Location.stop place
      have start : t.loc.start = p := congrArg Location.start place
      let moved : Location := { loc with stop := t.loc.stop }
      have reaches : (moved.withChild o (.leaf t)).Reaches q rest :=
        Location.reaches_withChild later (Nat.le_trans low (Nat.le_of_lt wide))
          (Nat.le_trans filled reach) (Nat.le_of_eq stop) (Nat.le_of_eq stop)
      obtain ⟨r, fits⟩ := ih later readOthers reaches.low reaches.filled reaches.high
      refine ⟨r, Body.Fits.sooner t.loc.stop ?_ reach⟩
      exact fits.after _ fun arranged => .leaf (by omega) (by omega) (stop ▸ arranged)
  | case3 opening loc t rest marker ih =>
    obtain ⟨others, readOthers, rfl⟩ := map_eq_ok read
    cases tiles with
    | @token _ q _ _ place wide inside value later =>
      have reach : loc.stop ≤ t.loc.stop := high
      have stop : t.loc.stop = q := congrArg Location.stop place
      have start : t.loc.start = p := congrArg Location.start place
      have reaches : (loc.withChild o (.leaf t)).Reaches q rest :=
        Location.reaches_withChild later (Nat.le_trans low (Nat.le_of_lt wide)) filled
          (by omega) (Nat.le_of_eq stop)
      obtain ⟨r, fits⟩ := ih later readOthers reaches.low reaches.filled reaches.high
      exact ⟨r, fits.after _ fun arranged => .leaf (by omega) (by omega) (stop ▸ arranged)⟩
  | case4 opening loc t rest opens e failed => cases read
  | case5 opening loc t rest opens inner readInner ihInner ih =>
    obtain ⟨others, readOthers, rfl⟩ := map_eq_ok read
    cases tiles with
    | @token _ q _ _ place wide inside value later =>
      have reach : loc.stop ≤ t.loc.stop := high
      have stop : t.loc.stop = q := congrArg Location.stop place
      have first := later.le_firstStop
      rw [later.blockStart stop] at ihInner readInner
      obtain ⟨r, nested⟩ := ihInner later readInner (Nat.le_refl q) first (Nat.le_refl _)
      have passed : q ≤ r := Nat.le_trans first (Nat.le_trans nested.grown nested.high)
      have reaches : (loc.withChild o (inner.node t)).Reaches r inner.rest :=
        Location.reaches_withChild nested.tiles (by omega) filled (by omega) nested.high
      obtain ⟨s, fits⟩ := ih nested.tiles readOthers reaches.low reaches.filled reaches.high
      exact ⟨s, fits.after _ fun arranged => nested.node rfl first (Nat.le_of_lt wide) arranged⟩
  | case6 opening loc t rest closes e refused => cases read
  | case7 opening loc t rest closes fits =>
    cases read
    cases tiles with
    | @token _ q _ _ place wide inside value later =>
      have stop : t.loc.stop = q := congrArg Location.stop place
      exact ⟨q, later, rfl, Nat.le_refl _, stop ▸ high, ⟨p, .done, Nat.le_of_lt wide⟩, by simp⟩
  | case8 opening loc t rest other => cases read

theorem readDocument_arranged {nodes : List Node} (tiles : Tiles source p tokens)
    (read : readDocument o tokens = .ok nodes) :
    ∃ q, Arranged o p nodes q ∧ q ≤ source.length := by
  fun_induction readDocument o tokens generalizing p nodes with
  | case1 =>
    cases read
    cases tiles
    exact ⟨_, .done, Nat.le_refl _⟩
  | case2 t rest leaf ih | case3 t rest leaf ih =>
    obtain ⟨others, readOthers, rfl⟩ := map_eq_ok read
    cases tiles with
    | @token _ q _ _ place wide inside value later =>
      obtain ⟨r, arranged, ended⟩ := ih later readOthers
      have stop : t.loc.stop = q := congrArg Location.stop place
      have start : t.loc.start = p := congrArg Location.start place
      exact ⟨r, .leaf (by omega) (by omega) (stop ▸ arranged), ended⟩
  | case4 t rest opens e failed => cases read
  | case5 t rest opens body readBody ih =>
    obtain ⟨others, readOthers, rfl⟩ := map_eq_ok read
    cases tiles with
    | @token _ q _ _ place wide inside value later =>
      have stop : t.loc.stop = q := congrArg Location.stop place
      have first := later.le_firstStop
      rw [later.blockStart stop] at readBody
      obtain ⟨r, nested⟩ := readBlock_fits later ⟨Nat.le_refl q, first, Nat.le_refl _⟩ readBody
      obtain ⟨s, arranged, ended⟩ := ih nested.tiles readOthers
      exact ⟨s, nested.node rfl first (Nat.le_of_lt wide) arranged, ended⟩
  | case6 t rest closes => cases read
  | case7 t rest other => cases read

/-! ### Documents -/

theorem tokenize_tiles {rules : List CompiledRule} {source : String} {tokens : List Token}
    (anchored : ∀ r ∈ rules, r.Anchored) (found : tokenize rules source = some tokens) :
    Tiles source.toList 0 tokens := by
  obtain ⟨parts, traced, scans⟩ := trace_scans anchored source
  obtain rfl := Option.some.inj (found.symm.trans (tokenize_of_trace traced))
  exact scans.tiles

theorem build_steps {o : BuildOptions} {rules : RuleSet} {compiled : List CompiledRule}
    {source : String} {d : Document} (compiles : rules.compile = .ok compiled)
    (built : build o rules source = .ok d) :
    ∃ tokens, tokenize compiled source = some tokens ∧ buildNodes o tokens = .ok d.children ∧
      d.loc = ⟨0, source.length⟩ := by
  unfold build scanSource at built
  simp only [compiles] at built
  cases found : tokenize compiled source with
  | none => simp [found] at built
  | some tokens =>
    simp only [found] at built
    cases read : buildNodes o tokens with
    | error e => simp [read] at built
    | ok nodes =>
      simp only [read, Except.ok.injEq] at built
      subst built
      exact ⟨tokens, rfl, read, rfl⟩

/-- In a document nodes have their places in order, and under `lastChild` inside one another. -/
theorem build_layout {o : BuildOptions} {rules : RuleSet} {compiled : List CompiledRule}
    {source : String} {d : Document} (compiles : rules.compile = .ok compiled)
    (anchored : ∀ r ∈ compiled, r.Anchored) (built : build o rules source = .ok d) :
    Layout o source d := by
  obtain ⟨tokens, found, read, loc⟩ := build_steps compiles built
  have tiles := tokenize_tiles anchored found
  obtain ⟨q, arranged, ended⟩ := readDocument_arranged tiles (readDocument_of_buildNodes read)
  rw [String.length_toList] at ended
  exact {
    bounds := fun n occurs =>
      let ⟨_, filled, stop⟩ := arranged.bounds n occurs
      ⟨filled, Nat.le_trans stop ended⟩
    order := arranged.inOrder
    orderInside := arranged.inOrder_inside
    within := by
      intro ends n member
      obtain ⟨start, -, stop⟩ := arranged.bounds n (.among member)
      rw [loc]
      exact ⟨start, Nat.le_trans stop ended⟩
    withinInside := arranged.within_inside }

/-- Two blocks that nothing closes, one starting inside the other after a marker. -/
def nestedTokens : List Token :=
  [.text "a" ⟨0, 1⟩,
    { type := "open", value := "<", params := some [some "<"], loc := ⟨1, 2⟩, alternative := some 0 },
    { type := "marker", value := "x", loc := ⟨2, 3⟩ },
    { type := "open", value := "é", params := some [some "é"], loc := ⟨3, 4⟩, alternative := some 1 },
    .text "bc" ⟨4, 6⟩]

def nestedNodes : List Node :=
  [.leaf (.text "a" ⟨0, 1⟩),
    .block ⟨2, 6⟩ (some [some "<"]) none
      [.leaf { type := "marker", value := "x", loc := ⟨2, 3⟩ },
        .block ⟨4, 6⟩ (some [some "é"]) none [.leaf (.text "bc" ⟨4, 6⟩)]]]

theorem scanSource_nested : scanSource ⟨sampleRules⟩ "a<xébc" = .ok nestedTokens := by decide +kernel

theorem buildNodes_nested : buildNodes { endOffset := .lastChild } nestedTokens = .ok nestedNodes := by
  have ran : Builder.empty.run { endOffset := .lastChild } nestedTokens =
      .ok ⟨[.leaf (.text "a" ⟨0, 1⟩)],
        [⟨⟨4, 6⟩, some [some "é"], some ⟨.alternative 1, "é"⟩, [.leaf (.text "bc" ⟨4, 6⟩)]⟩,
          ⟨⟨2, 3⟩, some [some "<"], some ⟨.alternative 0, "<"⟩,
            [.leaf { type := "marker", value := "x", loc := ⟨2, 3⟩ }]⟩]⟩ := rfl
  simp only [buildNodes, ran, Builder.finish_block, Builder.attach_block, Builder.attach_document,
    Builder.finish_document]
  rfl

theorem build_nested : build { endOffset := .lastChild } ⟨sampleRules⟩ "a<xébc" =
    .ok ⟨nestedNodes, ⟨0, "a<xébc".length⟩⟩ := by
  simp only [build, scanSource_nested, buildNodes_nested]

theorem build_layout_nested :
    ∃ compiled d, RuleSet.compile ⟨sampleRules⟩ = .ok compiled ∧ (∀ r ∈ compiled, r.Anchored) ∧
      build { endOffset := .lastChild } ⟨sampleRules⟩ "a<xébc" = .ok d ∧ d.children = nestedNodes ∧
      Layout { endOffset := .lastChild } "a<xébc" d := by
  obtain ⟨compiled, compiles, anchored, -⟩ := sampleRules_compile
  have built : build { endOffset := .lastChild } ⟨sampleRules⟩ "a<xébc" =
      .ok ⟨nestedNodes, ⟨0, "a<xébc".length⟩⟩ := by
    simp only [build, scanSource_nested, buildNodes_nested]
  exact ⟨compiled, _, compiles, anchored, built, rfl, build_layout compiles anchored built⟩

end BlockMarkup
