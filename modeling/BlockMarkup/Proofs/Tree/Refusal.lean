import BlockMarkup.Proofs.Tree.Machine

/-!
# Which token is refused

Whether a token can stand where it is depends on the tokens before it alone: on how many of them
open and close blocks, and on the nearest opening token that is not closed yet. Building fails at
the first token that cannot stand where it is, and tells of that one (`buildNodes_error_iff`).
-/

namespace BlockMarkup

/-- Every block that starts in these tokens ends in them, and no other one does. -/
structure Balanced (tokens : List Token) : Prop where
  within : ∀ n, closes (tokens.take n) ≤ opens (tokens.take n)
  even : closes tokens = opens tokens

/-- The nearest opening token that is not closed yet. -/
def Innermost (seen : List Token) (opening : Token) : Prop :=
  ∃ before inside, seen = before ++ opening :: inside ∧ opening.role = .opening ∧ Balanced inside

/-- Keys of one kind with different values. -/
inductive PairKey.Differ : PairKey → PairKey → Prop where
  | alternative {i j : Nat} (differ : i ≠ j) : Differ (.alternative i) (.alternative j)
  | param {a b : String} (differ : a ≠ b) : Differ (.param a) (.param b)

/-- A closing token whose key differs from that of the token it would pair with. -/
structure Mismatched (seen : List Token) (t opening : Token) (a b : PairKey) : Prop where
  role : t.role = .closing
  innermost : Innermost seen opening
  left : PairKey.ofToken? opening = some a
  right : PairKey.ofToken? t = some b
  differ : a.Differ b

/-- The token cannot stand after those that were seen. -/
inductive Refused (o : BuildOptions) (seen : List Token) (t : Token) : Prop where
  | other (role : t.role = .other)
  | stray (role : t.role = .closing) (level : closes seen = opens seen)
  | mismatched {opening : Token} {a b : PairKey} (strict : o.closeMatching = .strict)
      (pair : Mismatched seen t opening a b)

/-- What is told of a token that cannot stand after those that were seen. -/
inductive Complaint (o : BuildOptions) (seen : List Token) (t : Token) : SyntaxError → Prop where
  | other (role : t.role = .other) (level : closes seen = opens seen) :
      Complaint o seen t (.unexpectedToken t.value t.loc)
  | otherInBlock (role : t.role = .other) (level : closes seen < opens seen) :
      Complaint o seen t (.unexpectedTokenInBlock t.value t.loc)
  | stray (role : t.role = .closing) (level : closes seen = opens seen) :
      Complaint o seen t (.unexpectedToken t.value t.loc)
  | mismatched {opening : Token} {a b : PairKey} (strict : o.closeMatching = .strict)
      (pair : Mismatched seen t opening a b) :
      Complaint o seen t (.mismatchedClose t.value (a.label opening) t.loc)

theorem Complaint.refused {o : BuildOptions} {seen : List Token} {t : Token} {e : SyntaxError}
    (complaint : Complaint o seen t e) : Refused o seen t := by
  cases complaint with
  | other role | otherInBlock role => exact .other role
  | stray role level => exact .stray role level
  | mismatched strict pair => exact .mismatched strict pair

/-- Token `k` is the first that cannot stand where it is. -/
structure FirstRefused (o : BuildOptions) (tokens : List Token) (k : Nat) (t : Token) : Prop where
  here : tokens[k]? = some t
  refused : Refused o (tokens.take k) t
  first : ∀ j < k, ∀ u, tokens[j]? = some u → ¬ Refused o (tokens.take j) u

/-! ### Counting -/

theorem opens_append (a b : List Token) : opens (a ++ b) = opens a + opens b := List.countP_append ..

theorem closes_append (a b : List Token) : closes (a ++ b) = closes a + closes b :=
  List.countP_append ..

theorem opens_cons (t : Token) (rest : List Token) :
    opens (t :: rest) = opens rest + if t.role = .opening then 1 else 0 := by
  simp [opens, List.countP_cons]

theorem closes_cons (t : Token) (rest : List Token) :
    closes (t :: rest) = closes rest + if t.role = .closing then 1 else 0 := by
  simp [closes, List.countP_cons]

@[simp] theorem opens_nil : opens [] = 0 := rfl

@[simp] theorem closes_nil : closes [] = 0 := rfl

/-! ### Balanced tokens -/

namespace Balanced

variable {a b : List Token} {t opening closing : Token}

theorem nil : Balanced [] where
  within n := by simp
  even := rfl

theorem append (left : Balanced a) (right : Balanced b) : Balanced (a ++ b) where
  within n := by
    rw [List.take_append, opens_append, closes_append]
    exact Nat.add_le_add (left.within n) (right.within _)
  even := by rw [opens_append, closes_append, left.even, right.even]

/-- A token that opens and closes nothing. -/
theorem single (opens' : t.role ≠ .opening) (closes' : t.role ≠ .closing) : Balanced [t] where
  within n := by cases n <;> simp [closes_cons, closes']
  even := by simp [opens_cons, closes_cons, opens', closes']

/-- A block around balanced tokens. -/
theorem block (opens' : opening.role = .opening) (closes' : closing.role = .closing)
    (inside : Balanced a) : Balanced (opening :: (a ++ [closing])) where
  within n := by
    cases n with
    | zero => simp
    | succ n =>
      have one : closes ([closing].take (n - a.length)) ≤ 1 :=
        Nat.le_trans List.countP_le_length (List.length_take_le' ..)
      have := inside.within n
      rw [List.take_succ_cons, List.take_append, opens_cons, closes_cons, opens_append,
        closes_append, opens']
      simp only [reduceCtorEq, ↓reduceIte]
      omega
  even := by
    have := inside.even
    simp [opens_cons, closes_cons, opens_append, closes_append, opens', closes', this]

end Balanced

namespace Innermost

variable {seen : List Token} {s t : Token}

theorem not_balanced (innermost : Innermost seen t) : ¬ Balanced seen := by
  obtain ⟨before, inside, rfl, role, balanced⟩ := innermost
  intro whole
  have least := whole.within before.length
  have even := whole.even
  rw [List.take_left] at least
  rw [opens_append, closes_append, opens_cons, closes_cons, role, balanced.even] at even
  simp only [reduceCtorEq, ↓reduceIte] at even
  omega

theorem unique (left : Innermost seen s) (right : Innermost seen t) : s = t := by
  obtain ⟨before, inside, rfl, role, balanced⟩ := left
  obtain ⟨before', inside', split, role', balanced'⟩ := right
  -- If the two are apart, the tokens behind the first one hold the second one, unclosed.
  rcases List.append_eq_append_iff.mp split with ⟨gap, longer, shorter⟩ | ⟨gap, longer, shorter⟩
  · cases gap with
    | nil => exact (List.cons.inj shorter).1
    | cons g gap =>
      have nested : Innermost inside t := ⟨gap, inside', (List.cons.inj shorter).2, role', balanced'⟩
      exact absurd balanced nested.not_balanced
  · cases gap with
    | nil => exact (List.cons.inj shorter).1.symm
    | cons g gap =>
      have nested : Innermost inside' s := ⟨gap, inside, (List.cons.inj shorter).2, role, balanced⟩
      exact absurd balanced' nested.not_balanced

end Innermost

/-! ### Tokens that are not closed yet -/

/-- The opening tokens that are not closed yet, innermost first. -/
inductive Unclosed : List Token → List Token → Prop where
  | document {seen : List Token} (balanced : Balanced seen) : Unclosed seen []
  | block {before inside outer : List Token} {opening : Token} (around : Unclosed before outer)
      (role : opening.role = .opening) (balanced : Balanced inside) :
      Unclosed (before ++ opening :: inside) (opening :: outer)

namespace Unclosed

variable {seen outer : List Token} {t opening : Token}

theorem level (unclosed : Unclosed seen outer) : opens seen = closes seen + outer.length := by
  induction unclosed with
  | document balanced => exact balanced.even.symm
  | block around role balanced ih =>
    have := balanced.even
    simp only [opens_append, closes_append, opens_cons, closes_cons, role, ih, reduceCtorEq, ↓reduceIte,
      List.length_cons]
    omega

theorem innermost (unclosed : Unclosed seen (opening :: outer)) : Innermost seen opening := by
  cases unclosed with
  | block around role balanced => exact ⟨_, _, rfl, role, balanced⟩

theorem append {more : List Token} (unclosed : Unclosed seen outer) (balanced : Balanced more) :
    Unclosed (seen ++ more) outer := by
  cases unclosed with
  | document before => exact .document (before.append balanced)
  | block around role inside =>
    rw [List.append_assoc, List.cons_append]
    exact .block around role (inside.append balanced)

theorem close (unclosed : Unclosed seen (opening :: outer)) (role : t.role = .closing) :
    Unclosed (seen ++ [t]) outer := by
  cases unclosed with
  | block around opens balanced =>
    rw [List.append_assoc, List.cons_append]
    exact around.append (.block opens role balanced)

end Unclosed

/-! ### What the machine knows of the tokens before -/

namespace Builder

variable {o : BuildOptions} {seen : List Token} {t : Token} {next : Option Token}
  {b after : Builder}

/-- The open blocks are those of the tokens that are not closed yet. -/
def Follows (b : Builder) (seen : List Token) : Prop :=
  ∃ unclosed, Unclosed seen unclosed ∧ b.stack.map (·.pairing) = unclosed.map Pairing.ofToken?

theorem attach_pairings (b : Builder) (n : Node) :
    (b.attach o n).stack.map (·.pairing) = b.stack.map (·.pairing) := by
  obtain ⟨done, _ | ⟨top, stack⟩⟩ := b
  · rfl
  · rw [attach_block]
    rfl

theorem setStop_pairings (stop : Nat) (b : Builder) :
    (b.setStop stop).stack.map (·.pairing) = b.stack.map (·.pairing) := by
  obtain ⟨done, _ | ⟨top, stack⟩⟩ := b <;> rfl

theorem takes_follows (takes : Takes o t next b after) (follows : b.Follows seen) :
    after.Follows (seen ++ [t]) := by
  obtain ⟨unclosed, tokens, pairings⟩ := follows
  cases takes with
  | text role =>
    refine ⟨unclosed, tokens.append (.single (by simp [role]) (by simp [role])), ?_⟩
    rw [attach_pairings, setStop_pairings, pairings]
  | marker role =>
    refine ⟨unclosed, tokens.append (.single (by simp [role]) (by simp [role])), ?_⟩
    rw [attach_pairings, pairings]
  | opening role =>
    refine ⟨t :: unclosed, .block tokens role .nil, ?_⟩
    simpa [openBlock] using pairings
  | closing role fits =>
    cases unclosed with
    | nil => simp at pairings
    | cons opening outer =>
      refine ⟨outer, tokens.close role, ?_⟩
      rw [attach_pairings]
      exact (List.cons.inj pairings).2

theorem conflicts_iff {a b : PairKey} : a.conflicts b = true ↔ a.Differ b := by
  constructor
  · intro differ
    cases a <;> cases b <;> simp [PairKey.conflicts] at differ <;> constructor <;> exact differ
  · rintro (differ | differ) <;> simpa [PairKey.conflicts] using differ

theorem mismatch?_some {opening : Token} {e : SyntaxError} :
    mismatch? o (Pairing.ofToken? opening) t = some e ↔
      o.closeMatching = .strict ∧ ∃ a b, PairKey.ofToken? opening = some a ∧
        PairKey.ofToken? t = some b ∧ a.Differ b ∧
        e = .mismatchedClose t.value (a.label opening) t.loc := by
  unfold mismatch? Pairing.ofToken?
  cases o.closeMatching with
  | unconditional => simp
  | strict =>
    cases PairKey.ofToken? opening <;> cases PairKey.ofToken? t <;>
      simp [← conflicts_iff, eq_comm (b := e)]

/-- At the level of the document nothing is open, and nothing can be paired. -/
theorem follows_document {done : List Node} (follows : Follows ⟨done, []⟩ seen) : Balanced seen := by
  obtain ⟨unclosed, tokens, pairings⟩ := follows
  cases tokens with
  | document balanced => exact balanced
  | block => simp at pairings

theorem follows_block {done : List Node} {stack : List OpenBlock} {top : OpenBlock}
    (follows : Follows ⟨done, top :: stack⟩ seen) :
    closes seen < opens seen ∧
      ∃ opening, Innermost seen opening ∧ top.pairing = Pairing.ofToken? opening := by
  obtain ⟨unclosed, tokens, pairings⟩ := follows
  have level := tokens.level
  cases unclosed with
  | nil => simp at pairings
  | cons opening outer =>
    rw [List.length_cons] at level
    exact ⟨by omega, opening, tokens.innermost, (List.cons.inj pairings).1⟩

theorem complaint_of_step (follows : b.Follows seen) {e : SyntaxError}
    (refused : b.step o t next = .error e) : Complaint o seen t e := by
  obtain ⟨done, stack⟩ := b
  unfold step at refused
  split at refused
  next => cases refused
  next => cases refused
  next => cases refused
  next role =>
    cases stack with
    | nil =>
      cases refused
      exact .stray role (follows_document follows).even
    | cons top stack =>
      obtain ⟨-, opening, innermost, pair⟩ := follows_block follows
      dsimp only at refused
      split at refused
      next e' mismatch =>
        cases refused
        rw [pair] at mismatch
        obtain ⟨strict, a, b, left, right, differ, rfl⟩ := mismatch?_some.mp mismatch
        exact .mismatched strict ⟨role, innermost, left, right, differ⟩
      next => cases refused
  next role =>
    cases stack with
    | nil =>
      cases refused
      exact .other role (follows_document follows).even
    | cons top stack =>
      cases refused
      exact .otherInBlock role (follows_block follows).1

theorem step_of_complaint (follows : b.Follows seen) {e : SyntaxError}
    (complaint : Complaint o seen t e) : b.step o t next = .error e := by
  obtain ⟨done, _ | ⟨top, stack⟩⟩ := b
  · have even := (follows_document follows).even
    cases complaint with
    | other role | stray role => simp only [step, role, List.isEmpty_nil, if_true]
    | otherInBlock role level => omega
    | mismatched strict pair => exact absurd (follows_document follows) pair.innermost.not_balanced
  · obtain ⟨level, opening, innermost, paired⟩ := follows_block follows
    cases complaint with
    | other role even | stray role even => omega
    | otherInBlock role => simp [step, role]
    | mismatched strict pair =>
      obtain rfl := innermost.unique pair.innermost
      have mismatch := mismatch?_some.mpr ⟨strict, _, _, pair.left, pair.right, pair.differ, rfl⟩
      simp only [step, pair.role, paired, mismatch]

/-- A token that cannot stand where it is has a complaint about it. -/
theorem refused_iff (follows : b.Follows seen) : Refused o seen t ↔ ∃ e, Complaint o seen t e := by
  constructor
  · intro refused
    cases refused with
    | other role =>
      obtain ⟨unclosed, tokens, -⟩ := follows
      have level := tokens.level
      rcases Nat.eq_or_lt_of_le (Nat.le.intro level.symm) with even | less
      · exact ⟨_, .other role even⟩
      · exact ⟨_, .otherInBlock role less⟩
    | stray role level => exact ⟨_, .stray role level⟩
    | mismatched strict pair => exact ⟨_, .mismatched strict pair⟩
  · exact fun ⟨_, complaint⟩ => complaint.refused

theorem accepted_of_step (follows : b.Follows seen) (taken : b.step o t next = .ok after) :
    ¬ Refused o seen t := by
  intro refused
  obtain ⟨e, complaint⟩ := (refused_iff follows).mp refused
  cases taken.symm.trans (step_of_complaint follows complaint)

/-- A run fails if some token cannot stand where it is. -/
theorem run_fails_iff {tokens : List Token} (follows : b.Follows seen) :
    (∃ e, b.run o tokens = .error e) ↔
      ∃ k t, tokens[k]? = some t ∧ Refused o (seen ++ tokens.take k) t := by
  induction tokens generalizing seen b with
  | nil => simp [run]
  | cons t rest ih =>
    rw [run]
    cases taken : b.step o t rest.head? with
    | error e =>
      have refused := (complaint_of_step follows taken).refused
      exact ⟨fun _ => ⟨0, t, rfl, by simpa using refused⟩, fun _ => ⟨e, rfl⟩⟩
    | ok after =>
      dsimp only
      rw [ih (takes_follows (takes_of_step taken) follows)]
      simp only [List.append_assoc, List.singleton_append]
      constructor
      · rintro ⟨k, u, here, refused⟩
        exact ⟨k + 1, u, here, refused⟩
      · rintro ⟨k, u, here, refused⟩
        cases k with
        | zero =>
          cases here
          rw [List.take_zero, List.append_nil] at refused
          exact absurd refused (accepted_of_step follows taken)
        | succ k => exact ⟨k, u, here, refused⟩

/-- A run that fails ends with the complaint about the first token that cannot stand where it is. -/
theorem run_error_iff {tokens : List Token} (follows : b.Follows seen) {e : SyntaxError} :
    b.run o tokens = .error e ↔
      ∃ k t, tokens[k]? = some t ∧ Complaint o (seen ++ tokens.take k) t e ∧
        ∀ j < k, ∀ u, tokens[j]? = some u → ¬ Refused o (seen ++ tokens.take j) u := by
  induction tokens generalizing seen b with
  | nil => simp [run]
  | cons t rest ih =>
    rw [run]
    cases taken : b.step o t rest.head? with
    | error e' =>
      have complaint := complaint_of_step follows taken
      simp only [Except.error.injEq]
      constructor
      · rintro rfl
        exact ⟨0, t, rfl, by simpa using complaint, by simp⟩
      · rintro ⟨k, u, here, told, first⟩
        cases k with
        | zero =>
          cases here
          rw [List.take_zero, List.append_nil] at told
          exact Except.error.inj (taken.symm.trans (step_of_complaint follows told))
        | succ k =>
          refine absurd ?_ (first 0 (Nat.succ_pos k) t rfl)
          rw [List.take_zero, List.append_nil]
          exact complaint.refused
    | ok after =>
      have accepted := accepted_of_step follows taken
      dsimp only
      rw [ih (takes_follows (takes_of_step taken) follows)]
      simp only [List.append_assoc, List.singleton_append]
      constructor
      · rintro ⟨k, u, here, told, first⟩
        refine ⟨k + 1, u, here, told, ?_⟩
        intro j less v there
        cases j with
        | zero =>
          cases there
          simpa using accepted
        | succ j => exact first j (Nat.lt_of_succ_lt_succ less) v there
      · rintro ⟨k, u, here, told, first⟩
        cases k with
        | zero =>
          cases here
          rw [List.take_zero, List.append_nil] at told
          exact absurd told.refused accepted
        | succ k =>
          exact ⟨k, u, here, told, fun j less v there => first (j + 1) (Nat.succ_lt_succ less) v there⟩

theorem empty_follows : empty.Follows [] := ⟨[], .document .nil, rfl⟩

end Builder

/-! ### Building -/

section

variable {o : BuildOptions} {tokens : List Token} {e : SyntaxError}

theorem buildNodes_error : buildNodes o tokens = .error e ↔ Builder.empty.run o tokens = .error e := by
  unfold buildNodes
  cases Builder.empty.run o tokens <;> simp

theorem buildNodes_complains :
    buildNodes o tokens = .error e ↔
      ∃ k t, FirstRefused o tokens k t ∧ Complaint o (tokens.take k) t e := by
  rw [buildNodes_error, Builder.run_error_iff Builder.empty_follows]
  simp only [List.nil_append]
  constructor
  · rintro ⟨k, t, here, told, first⟩
    exact ⟨k, t, ⟨here, told.refused, first⟩, told⟩
  · rintro ⟨k, t, ⟨here, -, first⟩, told⟩
    exact ⟨k, t, here, told, first⟩

theorem FirstRefused.unique {j k : Nat} {s t : Token} (left : FirstRefused o tokens j s)
    (right : FirstRefused o tokens k t) : j = k ∧ s = t := by
  have same : j = k := by
    refine Nat.le_antisymm (Nat.le_of_not_lt fun less => ?_) (Nat.le_of_not_lt fun less => ?_)
    · exact left.first k less t right.here right.refused
    · exact right.first j less s left.here left.refused
  subst same
  exact ⟨rfl, Option.some.inj (left.here.symm.trans right.here)⟩

/-- What comes after the first token that cannot stand where it is does not matter. -/
theorem FirstRefused.append {k : Nat} {t : Token} (first : FirstRefused o tokens k t)
    (more : List Token) : FirstRefused o (tokens ++ more) k t := by
  have inside : k < tokens.length := (List.getElem?_eq_some_iff.mp first.here).1
  have same : ∀ j ≤ k, (tokens ++ more).take j = tokens.take j :=
    fun j least => List.take_append_of_le_length (by omega)
  refine ⟨?_, ?_, ?_⟩
  · rw [List.getElem?_append_left inside, first.here]
  · rw [same k (Nat.le_refl k)]
    exact first.refused
  · intro j less u there
    rw [List.getElem?_append_left (Nat.lt_trans less inside)] at there
    rw [same j (Nat.le_of_lt less)]
    exact first.first j less u there

theorem buildNodes_error_append (more : List Token) (failed : buildNodes o tokens = .error e) :
    buildNodes o (tokens ++ more) = .error e := by
  obtain ⟨k, t, first, told⟩ := buildNodes_complains.mp failed
  have inside : k < tokens.length := (List.getElem?_eq_some_iff.mp first.here).1
  refine buildNodes_complains.mpr ⟨k, t, first.append more, ?_⟩
  rw [List.take_append_of_le_length (Nat.le_of_lt inside)]
  exact told

end

/-- Building fails if there is a token that cannot stand where it is, and then with the complaint about
the first one. So it takes the first tokens of whatever it takes, and tokens behind an error do not
change it. -/
theorem buildNodes_error_iff (o : BuildOptions) (tokens : List Token) :
    ((∃ e, buildNodes o tokens = .error e) ↔
      ∃ k t, tokens[k]? = some t ∧ Refused o (tokens.take k) t) ∧
    (∀ k t, FirstRefused o tokens k t →
      ∀ e, buildNodes o tokens = .error e ↔ Complaint o (tokens.take k) t e) ∧
    (∀ before, before <+: tokens → (∃ nodes, buildNodes o tokens = .ok nodes) →
      ∃ nodes, buildNodes o before = .ok nodes) ∧
    ∀ e more, buildNodes o tokens = .error e → buildNodes o (tokens ++ more) = .error e := by
  refine ⟨?_, ?_, ?_, fun e more => buildNodes_error_append more⟩
  · simpa only [buildNodes_error, List.nil_append] using
      Builder.run_fails_iff Builder.empty_follows
  · intro k t first e
    rw [buildNodes_complains]
    constructor
    · rintro ⟨j, s, other, told⟩
      obtain ⟨rfl, rfl⟩ := other.unique first
      exact told
    · exact fun told => ⟨k, t, first, told⟩
  · rintro before ⟨more, rfl⟩ ⟨nodes, built⟩
    cases failed : buildNodes o before with
    | ok nodes => exact ⟨nodes, rfl⟩
    | error e => cases built.symm.trans (buildNodes_error_append more failed)

/-- The last closing token fits the inner block, which is closed already, and not the outer one. Of the
stray tokens behind it nothing is told. -/
def crossedTokens : List Token :=
  [{ type := "open", value := "(", loc := ⟨0, 1⟩, alternative := some 1 },
    { type := "open", value := "<", loc := ⟨1, 2⟩, alternative := some 0 },
    { type := "close", value := ">", loc := ⟨2, 3⟩, alternative := some 0 },
    { type := "close", value := ">", loc := ⟨3, 4⟩, alternative := some 0 },
    { type := "emphasis", value := "_", loc := ⟨4, 5⟩ }]

theorem buildNodes_error_iff_crossed :
    (∃ t, FirstRefused .strict crossedTokens 3 t) ∧
      buildNodes .strict crossedTokens = .error (.mismatchedClose ">" "(" ⟨3, 4⟩) := by
  have pair : Mismatched (crossedTokens.take 3) crossedTokens[3] crossedTokens[0]
      (.alternative 1) (.alternative 0) := {
    role := rfl
    innermost := ⟨[], [crossedTokens[1], crossedTokens[2]], rfl, rfl, .block rfl rfl .nil⟩
    left := rfl
    right := rfl
    differ := .alternative (by decide) }
  have before : Builder.empty.run .strict (crossedTokens.take 3) = .ok _ := rfl
  have first : FirstRefused .strict crossedTokens 3 crossedTokens[3] := {
    here := rfl
    refused := .mismatched rfl pair
    first := by
      intro j less u here refused
      obtain ⟨e, failed⟩ := (buildNodes_error_iff .strict (crossedTokens.take 3)).1.mpr
        ⟨j, u, by rw [List.getElem?_take_of_lt less, here], by
          rwa [List.take_take, Nat.min_eq_left (Nat.le_of_lt less)]⟩
      cases before.symm.trans (buildNodes_error.mp failed) }
  exact ⟨⟨_, first⟩,
    ((buildNodes_error_iff .strict crossedTokens).2.1 3 _ first _).mpr (.mismatched rfl pair)⟩

end BlockMarkup
