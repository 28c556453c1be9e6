import Mathlib.Control.Monad.Basic
import BlockMarkup.Proofs.Rule.PairKeys
import BlockMarkup.Proofs.Tree.Refusal

/-!
# What strict matching rejects

Strict matching does what unconditional matching does, up to a closing token that it rejects
(`build_lenient`). It rejects one only where the two ends of a block have keys of one kind that differ,
and some rule sets make no such keys (`strict_only_rejects`).
-/

namespace BlockMarkup

variable {ends : EndOffset}

/-! ### Two machines side by side -/

namespace Builder

theorem attach_lenient (b : Builder) (n : Node) :
    b.attach ⟨.unconditional, ends⟩ n = b.attach ⟨.strict, ends⟩ n := rfl

theorem mismatch?_strict {pairing : Option Pairing} {t : Token} {e : SyntaxError}
    (mismatch : mismatch? ⟨.strict, ends⟩ pairing t = some e) :
    ∃ value expected loc, e = .mismatchedClose value expected loc := by
  unfold mismatch? at mismatch
  split at mismatch
  next opening closing _ _ =>
    split at mismatch
    next => exact ⟨_, _, _, (Option.some.inj mismatch).symm⟩
    next => cases mismatch
  next => cases mismatch

theorem step_lenient (b : Builder) (t : Token) (next : Option Token) :
    b.step ⟨.unconditional, ends⟩ t next = b.step ⟨.strict, ends⟩ t next ∨
      ∃ value expected loc, b.step ⟨.strict, ends⟩ t next = .error (.mismatchedClose value expected loc) := by
  unfold step
  cases role : t.role with
  | text | marker | opening | other => exact .inl rfl
  | closing =>
    cases b.stack with
    | nil => exact .inl rfl
    | cons top rest =>
      dsimp only
      cases mismatch : mismatch? ⟨.strict, ends⟩ top.pairing t with
      | none => exact .inl rfl
      | some e =>
        obtain ⟨value, expected, loc, rfl⟩ := mismatch?_strict mismatch
        exact .inr ⟨value, expected, loc, rfl⟩

theorem run_lenient (b : Builder) (tokens : List Token) :
    b.run ⟨.unconditional, ends⟩ tokens = b.run ⟨.strict, ends⟩ tokens ∨
      ∃ value expected loc, b.run ⟨.strict, ends⟩ tokens = .error (.mismatchedClose value expected loc) := by
  induction tokens generalizing b with
  | nil => exact .inl rfl
  | cons t rest ih =>
    rw [run, run]
    rcases b.step_lenient t rest.head? with same | ⟨value, expected, loc, rejected⟩
    · rw [same]
      cases b.step ⟨.strict, ends⟩ t rest.head? with
      | error e => exact .inl rfl
      | ok after => exact ih after
    · rw [rejected]
      exact .inr ⟨value, expected, loc, rfl⟩

theorem finish_lenient (b : Builder) : b.finish ⟨.unconditional, ends⟩ = b.finish ⟨.strict, ends⟩ := by
  -- On the depth, because the parent of a block that ends is changed by it.
  induction depth : b.stack.length generalizing b with
  | zero =>
    obtain ⟨done, stack⟩ := b
    obtain rfl := List.eq_nil_of_length_eq_zero depth
    rw [finish_document, finish_document]
  | succ n ih =>
    obtain ⟨done, _ | ⟨top, stack⟩⟩ := b
    · cases depth
    · rw [finish_block, finish_block, attach_lenient]
      refine ih _ ?_
      rw [attach_depth]
      exact Nat.succ.inj depth

end Builder

theorem buildNodes_lenient (ends : EndOffset) (tokens : List Token) :
    buildNodes ⟨.unconditional, ends⟩ tokens = buildNodes ⟨.strict, ends⟩ tokens ∨
      ∃ value expected loc,
        buildNodes ⟨.strict, ends⟩ tokens = .error (.mismatchedClose value expected loc) := by
  unfold buildNodes
  rcases Builder.empty.run_lenient tokens with same | ⟨value, expected, loc, rejected⟩
  · rw [same]
    cases Builder.empty.run ⟨.strict, ends⟩ tokens with
    | error e => exact .inl rfl
    | ok b =>
      dsimp only
      exact .inl (congrArg _ b.finish_lenient)
  · rw [rejected]
    exact .inr ⟨value, expected, loc, rfl⟩

/-! ### Ends of blocks -/

/-- Two tokens that are the ends of one block. -/
def Matched (tokens : List Token) (opening closing : Token) : Prop :=
  ∃ before inside after, tokens = before ++ opening :: inside ++ closing :: after ∧
    opening.role = .opening ∧ closing.role = .closing ∧ Balanced inside

/-- The tokens have keys of one kind that differ. -/
def Clash (opening closing : Token) : Prop :=
  ∃ a b, PairKey.ofToken? opening = some a ∧ PairKey.ofToken? closing = some b ∧ a.Differ b

theorem clash_of_mismatch {o : BuildOptions} {tokens : List Token} {value expected : String}
    {loc : Location} (rejected : buildNodes o tokens = .error (.mismatchedClose value expected loc)) :
    ∃ opening closing, Matched tokens opening closing ∧ Clash opening closing := by
  obtain ⟨k, t, first, told⟩ := buildNodes_complains.mp rejected
  cases told with
  | @mismatched opening a b strict pair =>
    obtain ⟨before, inside, seen, role, balanced⟩ := pair.innermost
    obtain ⟨short, here⟩ := List.getElem?_eq_some_iff.mp first.here
    refine ⟨opening, t, ⟨before, inside, tokens.drop (k + 1), ?_, role, pair.role, balanced⟩,
      a, b, pair.left, pair.right, pair.differ⟩
    rw [← seen, ← here, List.getElem_cons_drop, List.take_append_drop]

theorem Matched.mem {tokens : List Token} {opening closing : Token}
    (matched : Matched tokens opening closing) : opening ∈ tokens ∧ closing ∈ tokens := by
  obtain ⟨before, inside, after, rfl, -⟩ := matched
  simp

/-! ### Documents -/

/-- The rules of these names are not both lists, and not both patterns with groups. -/
def RuleSet.Unpaired (rules : RuleSet) (opening closing : String) : Prop :=
  ∀ left right, (opening, left) ∈ rules.rules → (closing, right) ∈ rules.rules →
    ¬ (left.IsList ∧ right.IsList) ∧ ¬ (left.Captures ∧ right.Captures)

theorem not_clash_of_unpaired {rules : RuleSet} (unpaired : rules.Unpaired "open" "close")
    {source : String} {tokens : List Token} (scanned : scanSource rules source = .ok tokens)
    {opening closing : Token} (matched : Matched tokens opening closing) : ¬ Clash opening closing := by
  rintro ⟨a, b, left, right, differ⟩
  obtain ⟨inLeft, inRight⟩ := matched.mem
  obtain ⟨rule, member, keys⟩ := scanSource_keys scanned inLeft left
  obtain ⟨rule', member', keys'⟩ := scanSource_keys scanned inRight right
  obtain ⟨-, -, -, -, role, role', -⟩ := matched
  rw [(Token.role_eq_iff (by simp)).mp role] at member
  rw [(Token.role_eq_iff (by simp)).mp role'] at member'
  obtain ⟨lists, patterns⟩ := unpaired rule rule' member member'
  cases differ with
  | alternative => exact lists ⟨keys, keys'⟩
  | param => exact patterns ⟨keys, keys'⟩

/-- The two kinds of matching give one result, or strict matching rejects a closing token whose key
differs from that of the token it would be matched with. -/
theorem build_lenient (ends : EndOffset) (rules : RuleSet) (source : String) :
    build ⟨.unconditional, ends⟩ rules source = build ⟨.strict, ends⟩ rules source ∨
      ∃ value expected loc tokens opening closing,
        build ⟨.strict, ends⟩ rules source = .error (.tree (.mismatchedClose value expected loc)) ∧
        scanSource rules source = .ok tokens ∧ Matched tokens opening closing ∧ Clash opening closing := by
  unfold build
  cases scanSource rules source with
  | error e => exact .inl rfl
  | ok tokens =>
    dsimp only
    rcases buildNodes_lenient ends tokens with same | ⟨value, expected, loc, rejected⟩
    · exact .inl (by rw [same])
    · obtain ⟨opening, closing, matched, clash⟩ := clash_of_mismatch rejected
      rw [rejected]
      exact .inr ⟨value, expected, loc, tokens, opening, closing, rfl, rfl, matched, clash⟩

/-- A document that strict matching gives is the one that unconditional matching gives, and so is any error
but that of a mismatch. Both agree where no two ends of a block clash, and so on every source if the
rules `open` and `close` are not both lists and not both patterns with groups. -/
theorem strict_only_rejects (ends : EndOffset) (rules : RuleSet) (source : String) :
    (∀ d, build ⟨.strict, ends⟩ rules source = .ok d →
      build ⟨.unconditional, ends⟩ rules source = .ok d) ∧
    (∀ e, build ⟨.strict, ends⟩ rules source = .error e →
      (∀ value expected loc, e ≠ .tree (.mismatchedClose value expected loc)) →
      build ⟨.unconditional, ends⟩ rules source = .error e) ∧
    ((∀ tokens, scanSource rules source = .ok tokens →
      ∀ opening closing, Matched tokens opening closing → ¬ Clash opening closing) →
      build ⟨.strict, ends⟩ rules source = build ⟨.unconditional, ends⟩ rules source) ∧
    (rules.Unpaired "open" "close" →
      build ⟨.strict, ends⟩ rules source = build ⟨.unconditional, ends⟩ rules source) := by
  rcases build_lenient ends rules source with same |
    ⟨value, expected, loc, tokens, opening, closing, rejected, scanned, matched, clash⟩
  · rw [same]
    exact ⟨fun _ built => built, fun _ failed _ => failed, fun _ => rfl, fun _ => rfl⟩
  · refine ⟨fun d built => ?_, fun e failed other => ?_, fun none => ?_, fun unpaired => ?_⟩
    · cases rejected.symm.trans built
    · cases rejected.symm.trans failed
      exact absurd rfl (other value expected loc)
    · exact absurd clash (none tokens scanned opening closing matched)
    · exact absurd clash (not_clash_of_unpaired unpaired scanned matched)

/-- Opening tokens are paired by position, closing ones by their group. -/
def mixedRules : List (String × Rule) :=
  [("open", .alternatives ["<", "("]), ("close", .pattern "([>)])" "")]

theorem mixedRules_unpaired : RuleSet.Unpaired ⟨mixedRules⟩ "open" "close" := by
  intro left right inLeft inRight
  obtain rfl : left = .alternatives ["<", "("] := by simpa [mixedRules] using inLeft
  obtain rfl : right = .pattern "([>)])" "" := by simpa [mixedRules] using inRight
  exact ⟨And.right, And.left⟩

def mixedTokens : List Token :=
  [{ type := "open", value := "<", params := some [some "<"], loc := ⟨0, 1⟩, alternative := some 0 },
    .text "a" ⟨1, 2⟩, { type := "close", value := ")", params := some [some ")"], loc := ⟨2, 3⟩ }]

theorem scanSource_mixed : scanSource ⟨mixedRules⟩ "<a)" = .ok mixedTokens := by decide +kernel

def mixedNodes : List Node :=
  [.block ⟨1, 2⟩ (some [some "<"]) (some [some ")"]) [.leaf (.text "a" ⟨1, 2⟩)]]

theorem scanSource_unopened : scanSource ⟨mixedRules⟩ ")" =
    .ok [{ type := "close", value := ")", params := some [some ")"], loc := ⟨0, 1⟩ }] := by
  decide +kernel

theorem strict_only_rejects_mixed :
    (∃ d, build ⟨.strict, .lastText⟩ ⟨mixedRules⟩ "<a)" = .ok d ∧
        build ⟨.unconditional, .lastText⟩ ⟨mixedRules⟩ "<a)" = .ok d) ∧
      (∃ e, build ⟨.strict, .lastText⟩ ⟨mixedRules⟩ ")" = .error e ∧
        (∀ value expected loc, e ≠ .tree (.mismatchedClose value expected loc)) ∧
        build ⟨.unconditional, .lastText⟩ ⟨mixedRules⟩ ")" = .error e) ∧
      ((∀ opening closing, Matched mixedTokens opening closing → ¬ Clash opening closing) ∧
        build ⟨.strict, .lastText⟩ ⟨mixedRules⟩ "<a)" =
          build ⟨.unconditional, .lastText⟩ ⟨mixedRules⟩ "<a)") ∧
      RuleSet.Unpaired ⟨mixedRules⟩ "open" "close" ∧
      build ⟨.strict, .lastText⟩ ⟨mixedRules⟩ "<a)" =
        build ⟨.unconditional, .lastText⟩ ⟨mixedRules⟩ "<a)" := by
  obtain ⟨accepted, -, agree, equal⟩ := strict_only_rejects .lastText ⟨mixedRules⟩ "<a)"
  obtain ⟨-, refused, -⟩ := strict_only_rejects .lastText ⟨mixedRules⟩ ")"
  have ran : Builder.empty.run ⟨.strict, .lastText⟩ mixedTokens = .ok ⟨mixedNodes.reverse, []⟩ := rfl
  have built : build ⟨.strict, .lastText⟩ ⟨mixedRules⟩ "<a)" =
      .ok ⟨mixedNodes, ⟨0, "<a)".length⟩⟩ := by
    simp only [build, scanSource_mixed, buildNodes, ran, Builder.finish_document, List.reverse_reverse]
  have failed : build ⟨.strict, .lastText⟩ ⟨mixedRules⟩ ")" =
      .error (.tree (.unexpectedToken ")" ⟨0, 1⟩)) := by
    simp only [build, scanSource_unopened]
    rfl
  have apart : ∀ opening closing, Matched mixedTokens opening closing → ¬ Clash opening closing :=
    fun _ _ => not_clash_of_unpaired mixedRules_unpaired scanSource_mixed
  have agreed := agree fun tokens scanned => Except.ok.inj (scanSource_mixed.symm.trans scanned) ▸ apart
  exact ⟨⟨_, built, accepted _ built⟩, ⟨_, failed, nofun, refused _ failed nofun⟩, ⟨apart, agreed⟩,
    mixedRules_unpaired, equal mixedRules_unpaired⟩

end BlockMarkup
