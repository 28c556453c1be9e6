import Mathlib.Data.List.Chain
import BlockMarkup.Proofs.Token.Scans

/-!
# Tokens partition the source

Under anchored rules the tokens of a source cover it from end to end, each one going on where the
one before it stops (`tokenize_partition`).
-/

namespace BlockMarkup

open Pattern (Match)

/-- Tokens that hold the characters of a source, each of them once and in order. -/
structure Partition (source : String) (tokens : List Token) : Prop where
  joined : detokenize tokens = source
  first : ∀ t ∈ tokens.head?, t.loc.start = 0
  next : tokens.IsChain fun a b => b.loc.start = a.loc.stop
  last : ∀ t ∈ tokens.getLast?, t.loc.stop = source.length
  nonempty : ∀ t ∈ tokens, t.value ≠ ""
  width : ∀ t ∈ tokens, t.loc.stop - t.loc.start = t.value.length
  value : ∀ t ∈ tokens, t.value = slice source.toList t.loc.start t.loc.stop

/-- Tokens that hold the characters of a source from a position on. -/
inductive Tiles (source : List Char) : Nat → List Token → Prop where
  | done : Tiles source source.length []
  | token {p q : Nat} {t : Token} {tokens : List Token} (loc : t.loc = ⟨p, q⟩) (filled : p < q)
      (inside : q ≤ source.length) (value : t.value = slice source p q)
      (later : Tiles source q tokens) : Tiles source p (t :: tokens)

namespace Tiles

variable {source : List Char} {p : Nat} {tokens : List Token}

theorem head_start (tiles : Tiles source p tokens) : ∀ t ∈ tokens.head?, t.loc.start = p := by
  cases tiles with
  | done => simp
  | token loc => simp [loc]

theorem chain (tiles : Tiles source p tokens) : tokens.IsChain fun a b => b.loc.start = a.loc.stop := by
  induction tiles with
  | done => exact .nil
  | token loc filled inside value later ih =>
    refine List.isChain_cons.mpr ⟨?_, ih⟩
    rw [loc]
    exact head_start later

theorem last_stop (tiles : Tiles source p tokens) : ∀ t ∈ tokens.getLast?, t.loc.stop = source.length := by
  induction tiles with
  | done => simp
  | @token p q t tokens loc filled inside value later ih =>
    cases later with
    | done => simp [loc]
    | token => simpa [List.getLast?_cons_cons] using ih

theorem joined (tiles : Tiles source p tokens) :
    tokens.flatMap (fun t => t.value.toList) = source.drop p := by
  induction tiles with
  | done => simp
  | @token p q t tokens loc filled inside value later ih =>
    rw [List.flatMap_cons, ih, value, slice, String.toList_ofList]
    conv_rhs => rw [← List.take_append_drop (q - p) (source.drop p), List.drop_drop]
    rw [Nat.add_sub_cancel' (Nat.le_of_lt filled)]

theorem mem_token (tiles : Tiles source p tokens) {t : Token} (member : t ∈ tokens) :
    p ≤ t.loc.start ∧ t.loc.start < t.loc.stop ∧ t.loc.stop ≤ source.length ∧
      t.value = slice source t.loc.start t.loc.stop := by
  induction tiles with
  | done => cases member
  | token loc filled inside value later ih =>
    rcases List.mem_cons.mp member with rfl | old
    · exact ⟨by simp [loc], by simpa [loc] using filled, by simpa [loc] using inside, by simpa [loc] using value⟩
    · obtain ⟨low, rest⟩ := ih old
      exact ⟨by omega, rest⟩

theorem of_empty (tiles : Tiles [] p tokens) : tokens = [] := by
  cases tiles with
  | done => rfl
  | token loc filled inside => exact absurd inside (by simp; omega)

end Tiles

theorem toList_detokenize (tokens : List Token) :
    (detokenize tokens).toList = tokens.flatMap fun t => t.value.toList := by
  rw [detokenize, String.toList_join, List.flatMap_map]

theorem Tiles.partition {source : String} {tokens : List Token} (tiles : Tiles source.toList 0 tokens) :
    Partition source tokens where
  joined := by rw [← String.toList_inj, toList_detokenize, tiles.joined, List.drop_zero]
  first := tiles.head_start
  next := tiles.chain
  last := fun t member => (tiles.last_stop t member).trans String.length_toList
  nonempty := by
    intro t member
    obtain ⟨-, filled, inside, value⟩ := tiles.mem_token member
    have width := length_slice (p := t.loc.start) inside
    rw [← value] at width
    intro empty
    rw [empty, String.length_empty] at width
    omega
  width := by
    intro t member
    obtain ⟨-, filled, inside, value⟩ := tiles.mem_token member
    rw [value, length_slice inside]
  value := fun t member => (tiles.mem_token member).2.2.2

/-! ### What scanning makes -/

namespace Scans

variable {rules : List CompiledRule} {source : List Char} {p : Nat} {parts : List Part}

theorem tiles (scans : Scans rules source p parts) : Tiles source p (parts.map (·.2)) := by
  induction scans with
  | done => exact .done
  | @rule p r m parts wins later ih =>
    have place := hit_inside wins.hit
    have bounds := (Pattern.Program.find_bounds wins.found).2
    rw [List.length_drop] at bounds
    have nonempty := wins.nonempty
    exact .token rfl (by omega) (by omega) rfl ih
  | @text p q parts filled missed ended later ih =>
    exact .token rfl filled (ended_inside ended) rfl ih

theorem text_missed (scans : Scans rules source p parts) {t : Token} (head : (Origin.text, t) ∈ parts.head?) :
    p < source.length ∧ ¬ Hit rules (source.drop p) := by
  have tiled := scans.tiles
  cases scans with
  | done => cases head
  | rule => simp [rulePart] at head
  | @text _ q parts filled missed =>
    obtain ⟨-, -, inside, -⟩ := tiled.mem_token (List.mem_cons_self ..)
    exact ⟨Nat.lt_of_lt_of_le filled inside, missed p (Nat.le_refl p) filled⟩

theorem text_apart (scans : Scans rules source p parts) :
    parts.IsChain fun a b => ¬ (a.1 = .text ∧ b.1 = .text) := by
  induction scans with
  | done => exact .nil
  | rule wins later ih => exact List.isChain_cons.mpr ⟨by simp [rulePart], ih⟩
  | @text p q parts filled missed ended later ih =>
    refine List.isChain_cons.mpr ⟨?_, ih⟩
    rintro ⟨origin, t⟩ head ⟨-, same⟩
    obtain rfl : origin = .text := same
    obtain ⟨inside, free⟩ := text_missed later head
    rcases ended with stop | hit
    · omega
    · exact free hit

theorem rule_wins (scans : Scans rules source p parts) {t : Token} (member : (Origin.rule, t) ∈ parts) :
    ∃ r m, Wins rules (source.drop t.loc.start) r m ∧ rulePart source t.loc.start r m = (.rule, t) := by
  induction scans with
  | done => cases member
  | @rule p r m parts wins later ih =>
    rcases List.mem_cons.mp member with same | old
    · cases same
      exact ⟨r, m, wins, rfl⟩
    · exact ih old
  | text filled missed ended later ih =>
    rcases List.mem_cons.mp member with same | old
    · cases same
    · exact ih old

theorem rule_type (scans : Scans rules source p parts) {t : Token} (member : (Origin.rule, t) ∈ parts) :
    ∃ r ∈ rules, t.type = r.name := by
  obtain ⟨r, m, wins, part⟩ := scans.rule_wins member
  have type := congrArg (fun part => part.2.type) part
  exact ⟨r, wins.mem, type.symm⟩

end Scans

/-- The tokens of a source partition it. No two text tokens without a rule are neighbours, so no two
tokens of type `text` are if no rule has that name. -/
theorem tokenize_partition {rules : List CompiledRule} (anchored : ∀ r ∈ rules, r.Anchored)
    (source : String) :
    ∃ tokens parts, tokenize rules source = some tokens ∧ trace rules source = some parts ∧
      parts.map (·.2) = tokens ∧ Partition source tokens ∧
      (parts.IsChain fun a b => ¬ (a.1 = .text ∧ b.1 = .text)) ∧
      ((∀ r ∈ rules, r.name ≠ "text") →
        tokens.IsChain fun a b => ¬ (a.type = "text" ∧ b.type = "text")) ∧
      (source = "" → tokens = []) := by
  obtain ⟨parts, traced, scans⟩ := trace_scans anchored source
  refine ⟨_, parts, tokenize_of_trace traced, traced, rfl, scans.tiles.partition, scans.text_apart, ?_, ?_⟩
  · intro names
    have origin : ∀ part ∈ parts, part.2.type = "text" → part.1 = .text := by
      rintro ⟨origin, t⟩ member type
      cases origin with
      | text => rfl
      | rule =>
        obtain ⟨r, known, named⟩ := scans.rule_type member
        exact absurd (named.symm.trans type) (names r known)
    refine (List.isChain_map _).mpr (List.IsChain.imp_of_mem_imp ?_ scans.text_apart)
    intro a b first second apart types
    exact apart ⟨origin a first types.1, origin b second types.2⟩
  · rintro rfl
    exact scans.tiles.of_empty

theorem tokenize_partition_sample :
    ∃ rules, compileAll sampleRules = .ok rules ∧ (∀ r ∈ rules, r.Anchored) ∧
      ∃ tokens parts, tokenize rules "aéxb]" = some tokens ∧ trace rules "aéxb]" = some parts ∧
        parts.map (·.2) = tokens ∧ Partition "aéxb]" tokens ∧
        (parts.IsChain fun a b => ¬ (a.1 = .text ∧ b.1 = .text)) ∧
        tokens.IsChain fun a b => ¬ (a.type = "text" ∧ b.type = "text") := by
  obtain ⟨rules, compiled, anchored, names⟩ := sampleRules_compile
  obtain ⟨tokens, parts, found, traced, same, partition, apart, types, -⟩ :=
    tokenize_partition anchored "aéxb]"
  exact ⟨rules, compiled, anchored, tokens, parts, found, traced, same, partition, apart, types names⟩

end BlockMarkup
