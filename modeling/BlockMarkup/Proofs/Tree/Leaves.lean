import BlockMarkup.Proofs.Tree.Flatten
import BlockMarkup.Proofs.Tree.Layout

/-!
# The leaves of a document

The leaves of a document are the text and the markers among the tokens of its source. So its text is
the source without the characters of opening and closing tokens (`build_leaves`).
-/

namespace BlockMarkup

/-! ### Leaves -/

def Entry.leaf? : Entry → Option Token
  | leaf t => some t
  | opening _ | closing _ => none

namespace LeafWalk

/-- The leaves that the walk has met and those among the entries that are left. -/
def total (w : LeafWalk) : List Token :=
  w.done.reverse ++ (Node.flattenAll w.levels.flatten).filterMap Entry.leaf?

theorem turn_total {w u : LeafWalk} (turned : w.turn? = some u) : u.total = w.total := by
  obtain ⟨levels, done⟩ := w
  match levels with
  | [] => cases turned
  | [] :: outer => cases turned; rfl
  | (.leaf token :: rest) :: outer =>
    cases turned
    simp [total, Node.flattenAll, Node.flatten, Entry.leaf?]
  | (.block loc opening closing children :: rest) :: outer =>
    cases turned
    simp [total, Node.flattenAll, Node.flatten, Node.flattenAll_append, Entry.leaf?, List.filterMap_cons]

theorem levels_of_stopped {w : LeafWalk} (stopped : w.turn? = none) : w.levels = [] := by
  obtain ⟨levels, done⟩ := w
  match levels with
  | [] => rfl
  | [] :: _ | (.leaf _ :: _) :: _ | (.block _ _ _ _ :: _) :: _ => cases stopped

theorem finish_eq_total (w : LeafWalk) : w.finish = w.total := by
  fun_induction finish w with
  | case1 w stopped => simp [total, levels_of_stopped stopped, Node.flattenAll]
  | case2 w u turned ih => rw [ih, turn_total turned]

end LeafWalk

variable {o : BuildOptions} {tokens : List Token} {nodes : List Node} {t : Token}

theorem buildNodes_run (built : buildNodes o tokens = .ok nodes) :
    ∃ b, Builder.empty.run o tokens = .ok b ∧ nodes = b.finish o := by
  unfold buildNodes at built
  cases ran : Builder.empty.run o tokens with
  | error e => rw [ran] at built; cases built
  | ok b => rw [ran] at built; cases built; exact ⟨b, rfl, rfl⟩

/-- The entries of a tree are those of its tokens, and the ends of blocks that no token closed. -/
theorem buildNodes_entries (built : buildNodes o tokens = .ok nodes) :
    ∃ unclosed, Node.flattenAll nodes =
      tokens.map Entry.ofToken ++ List.replicate unclosed (.closing none) := by
  obtain ⟨b, ran, rfl⟩ := buildNodes_run built
  exact ⟨b.stack.length, by rw [Builder.finish_entries, Builder.run_entries ran]⟩

/-- What the end of a block does not show can be read off the tokens of a tree. -/
theorem buildNodes_filterMap {α : Type} {shown : Entry → Option α} (silent : shown (.closing none) = none)
    (built : buildNodes o tokens = .ok nodes) :
    (Node.flattenAll nodes).filterMap shown = (tokens.map Entry.ofToken).filterMap shown := by
  obtain ⟨unclosed, entries⟩ := buildNodes_entries built
  have implicit : (List.replicate unclosed (Entry.closing none)).filterMap shown = [] :=
    List.filterMap_eq_nil_iff.mpr fun e member => List.eq_of_mem_replicate member ▸ silent
  rw [entries, List.filterMap_append, implicit, List.append_nil]

/-- Every token of a tree means something in it. -/
theorem Builder.run_meant {b : Builder} (ran : empty.run o tokens = .ok b) :
    ∀ t ∈ tokens, t.role ≠ .other := by
  have none : ∀ t ∈ ([] : List Token), t.role ≠ .other := by simp
  refine run_invariant (fun seen _ => ∀ t ∈ seen, t.role ≠ .other) ?_ none ran
  intro seen t next b after takes before
  have meant : t.role ≠ .other := by
    cases takes with
    | text role | marker role | opening role | closing role => simp [role]
  exact List.forall_mem_append.mpr ⟨before, by simpa using meant⟩

/-- The token stays in the tree as it is. -/
def Token.isLeaf (t : Token) : Bool := t.type = "text" || t.type = "marker"

/-- The token is an end of a block. -/
def Token.isDelimiter (t : Token) : Bool := t.type = "open" || t.type = "close"

theorem isDelimiter_eq_not_isLeaf (meant : t.role ≠ .other) : t.isDelimiter = !t.isLeaf := by
  unfold Token.isDelimiter Token.isLeaf
  cases role : t.role with
  | other => exact absurd role meant
  | text | opening | closing | marker =>
    have type := (Token.role_eq_iff (by simp)).mp role
    simp [type, Role.name]

theorem leaf?_ofToken (meant : t.role ≠ .other) :
    (Entry.ofToken t).leaf? = Option.guard Token.isLeaf t := by
  unfold Entry.ofToken Option.guard Token.isLeaf
  cases role : t.role with
  | other => exact absurd role meant
  | text | opening | closing | marker =>
    have type := (Token.role_eq_iff (by simp)).mp role
    simp [type, Role.name, Entry.leaf?]

theorem buildNodes_leaves (built : buildNodes o tokens = .ok nodes) :
    (LeafWalk.start nodes).finish = tokens.filter Token.isLeaf := by
  obtain ⟨b, ran, -⟩ := buildNodes_run built
  have meant := Builder.run_meant ran
  have start : (LeafWalk.start nodes).total = (Node.flattenAll nodes).filterMap Entry.leaf? := by
    simp [LeafWalk.total, LeafWalk.start]
  rw [LeafWalk.finish_eq_total, start, buildNodes_filterMap rfl built, List.filterMap_map,
    ← List.filterMap_eq_filter]
  exact List.filterMap_congr fun t member => leaf?_ofToken (meant t member)

/-! ### Text -/

def Location.holds (loc : Location) (i : Nat) : Bool := loc.start ≤ i && i < loc.stop

/-- The characters at positions that are not cut, if the first of them is at `p`. -/
def uncut (cut : Nat → Bool) : Nat → List Char → List Char
  | _, [] => []
  | p, c :: rest => if cut p then uncut cut (p + 1) rest else c :: uncut cut (p + 1) rest

/-- The source without the characters at these locations. -/
def without (source : String) (locs : List Location) : String :=
  String.ofList (uncut (fun i => locs.any (·.holds i)) 0 source.toList)

variable {cut cut' : Nat → Bool} {p : Nat} {source : List Char}

theorem uncut_append (a b : List Char) :
    uncut cut p (a ++ b) = uncut cut p a ++ uncut cut (p + a.length) b := by
  induction a generalizing p with
  | nil => rfl
  | cons c a ih =>
    have next : p + (c :: a).length = p + 1 + a.length := by simp; omega
    rw [next, List.cons_append, uncut, uncut, ih]
    split <;> rfl

theorem uncut_congr {cs : List Char} (same : ∀ i, p ≤ i → i < p + cs.length → cut i = cut' i) :
    uncut cut p cs = uncut cut' p cs := by
  induction cs generalizing p with
  | nil => rfl
  | cons c cs ih =>
    have here := same p (Nat.le_refl p) (by simp)
    have rest := ih (p := p + 1) fun i low high => same i (by omega) (by simp; omega)
    rw [uncut, uncut, here, rest]

theorem uncut_all {cs : List Char} {b : Bool} (same : ∀ i, p ≤ i → i < p + cs.length → cut i = b) :
    uncut cut p cs = if b then [] else cs := by
  rw [uncut_congr same]
  clear same
  induction cs generalizing p with
  | nil => cases b <;> rfl
  | cons c cs ih => cases b <;> simp_all [uncut]

/-- Whether the character at a position belongs to one of the tokens with a property. -/
def covered (ends : Token → Bool) (tokens : List Token) (i : Nat) : Bool :=
  ((tokens.filter ends).map (·.loc)).any (·.holds i)

variable {ends : Token → Bool}

theorem covered_cons (i : Nat) :
    covered ends (t :: tokens) i = (ends t && t.loc.holds i || covered ends tokens i) := by
  unfold covered
  cases here : ends t <;> simp [here]

theorem Tiles.covered_before (tiles : Tiles source p tokens) {i : Nat} (low : i < p) :
    covered ends tokens i = false := by
  refine List.any_eq_false.mpr fun loc member => ?_
  obtain ⟨t, kept, rfl⟩ := List.mem_map.mp member
  obtain ⟨start, -⟩ := tiles.mem_token (List.mem_filter.mp kept).1
  simp only [Location.holds, Bool.and_eq_true, decide_eq_true_eq, not_and]
  omega

/-- Without the characters of some tokens those of the others are left. -/
theorem Tiles.uncut_covered (tiles : Tiles source p tokens) :
    uncut (covered ends tokens) p (source.drop p) =
      (tokens.filter (!ends ·)).flatMap (·.value.toList) := by
  induction tiles with
  | done => rw [List.drop_length]; rfl
  | @token p q t tokens loc filled inside value later ih =>
    have whole := (Tiles.token loc filled inside value later).joined
    rw [List.flatMap_cons, later.joined] at whole
    have width : p + t.value.toList.length = q := by
      rw [String.length_toList, value, length_slice inside]
      omega
    have first : uncut (covered ends (t :: tokens)) p t.value.toList =
        if ends t then [] else t.value.toList := by
      refine uncut_all fun i low high => ?_
      have within : t.loc.holds i = true := by
        simp only [loc, Location.holds, Bool.and_eq_true, decide_eq_true_eq]
        omega
      rw [covered_cons, within, later.covered_before (by omega)]
      simp
    have others : uncut (covered ends (t :: tokens)) q (source.drop q) =
        uncut (covered ends tokens) q (source.drop q) := by
      refine uncut_congr fun i low high => ?_
      have behind : t.loc.holds i = false := by
        simp only [loc, Location.holds, Bool.and_eq_false_iff, decide_eq_false_iff_not]
        omega
      rw [covered_cons, behind, Bool.and_false, Bool.false_or]
    rw [← whole, uncut_append, width, first, others, ih]
    cases here : ends t <;> simp [here]

/-! ### Documents -/

/-- The leaves of a document are the text and marker tokens of its source, in their order. Its text is
the source without the characters of opening and closing tokens. -/
theorem build_leaves {rules : RuleSet} {compiled : List CompiledRule} {source : String} {d : Document}
    (compiles : rules.compile = .ok compiled) (anchored : ∀ r ∈ compiled, r.Anchored)
    (built : build o rules source = .ok d) :
    ∃ tokens, tokenize compiled source = some tokens ∧
      d.leaves = tokens.filter (fun t => t.type = "text" || t.type = "marker") ∧
      d.text = without source ((tokens.filter fun t => t.type = "open" || t.type = "close").map (·.loc)) ∧
      d.loc = ⟨0, source.length⟩ := by
  obtain ⟨tokens, found, read, loc⟩ := build_steps compiles built
  have tiles := tokenize_tiles anchored found
  have leaves : d.leaves = tokens.filter Token.isLeaf := buildNodes_leaves read
  refine ⟨tokens, found, leaves, ?_, loc⟩
  obtain ⟨b, ran, -⟩ := buildNodes_run read
  have kept : tokens.filter (!Token.isDelimiter ·) = tokens.filter Token.isLeaf := by
    refine List.filter_congr fun t member => ?_
    rw [isDelimiter_eq_not_isLeaf (Builder.run_meant ran t member), Bool.not_not]
  have rest : uncut (covered Token.isDelimiter tokens) 0 (source.toList.drop 0) =
      (tokens.filter (!Token.isDelimiter ·)).flatMap (·.value.toList) := tiles.uncut_covered
  rw [kept, List.drop_zero] at rest
  rw [Document.text, leaves, ← String.toList_inj, toList_detokenize, ← rest, without,
    String.toList_ofList]
  rfl

theorem build_leaves_nested :
    ∃ compiled d, RuleSet.compile ⟨sampleRules⟩ = .ok compiled ∧ (∀ r ∈ compiled, r.Anchored) ∧
      build { endOffset := .lastChild } ⟨sampleRules⟩ "a<xébc" = .ok d ∧ d.text = "axbc" ∧
      ∃ tokens, tokenize compiled "a<xébc" = some tokens ∧
        d.leaves = tokens.filter (fun t => t.type = "text" || t.type = "marker") ∧
        d.text = without "a<xébc"
          ((tokens.filter fun t => t.type = "open" || t.type = "close").map (·.loc)) ∧
        d.loc = ⟨0, "a<xébc".length⟩ := by
  obtain ⟨compiled, compiles, anchored, -⟩ := sampleRules_compile
  exact ⟨compiled, _, compiles, anchored, build_nested, by decide +kernel,
    build_leaves compiles anchored build_nested⟩

end BlockMarkup
