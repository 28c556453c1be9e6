import BlockMarkup.Proofs.Token.Partition

/-!
# The first rule wins

`FirstRuleWins` says position by position which parts a source has. Under anchored rules the trace
of a source has these parts, and no other parts are like that (`tokenize_first_rule`).
-/

namespace BlockMarkup

open Pattern (Match)

/-- What the token of a match tells of it, if the rule was tried on `rest`. -/
structure Reports (r : CompiledRule) (m : Match) (rest : List Char) (t : Token) : Prop where
  type : t.type = r.name
  value : t.value = String.ofList (rest.take m.stop)
  params : t.params = r.captures rest m
  alternative : t.alternative = r.alternativeIndex t.value

/-- A position behind the first one of a match. -/
def InsideMatch (parts : List Part) (p : Nat) : Prop :=
  ∃ t, (Origin.rule, t) ∈ parts ∧ t.loc.start < p ∧ p < t.loc.stop

/-- A position that is in no match, and where no rule hits. -/
structure Unclaimed (rules : List CompiledRule) (source : List Char) (parts : List Part) (p : Nat) :
    Prop where
  inside : p < source.length
  outside : ¬ InsideMatch parts p
  missed : ¬ Hit rules (source.drop p)

/-- Positions with a property, without a neighbour that has it. -/
structure MaximalRun (F : Nat → Prop) (start stop : Nat) : Prop where
  filled : start < stop
  all : ∀ p, start ≤ p → p < stop → F p
  before : 0 < start → ¬ F (start - 1)
  after : ¬ F stop

/-- The first rule wins everywhere, and the rest is text. The origins tell text tokens from those of a
rule that is named `text`. -/
structure FirstRuleWins (rules : List CompiledRule) (source : String) (parts : List Part) : Prop where
  partition : Partition source (parts.map (·.2))
  /-- Where rules hit, the first of them makes a token. -/
  hit : ∀ p < source.length, ¬ InsideMatch parts p → Hit rules (source.toList.drop p) →
    ∃ r m t, Wins rules (source.toList.drop p) r m ∧ Reports r m (source.toList.drop p) t ∧
      t.loc.start = p ∧ (.rule, t) ∈ parts
  /-- Where no rule hits, there is text. -/
  miss : ∀ p < source.length, ¬ InsideMatch parts p → ¬ Hit rules (source.toList.drop p) →
    ∃ t, (.text, t) ∈ parts ∧ t.loc.start ≤ p ∧ p < t.loc.stop
  text : ∀ t, (.text, t) ∈ parts → t.type = "text" ∧ t.params = none ∧ t.alternative = none ∧
    MaximalRun (Unclaimed rules source.toList parts) t.loc.start t.loc.stop

variable {rules : List CompiledRule} {source : List Char} {p : Nat} {parts : List Part}

/-! ### Parts by position -/

theorem Tiles.mem_part (tiles : Tiles source p (parts.map (·.2))) {origin : Origin} {t : Token}
    (member : (origin, t) ∈ parts) :
    p ≤ t.loc.start ∧ t.loc.start < t.loc.stop ∧ t.loc.stop ≤ source.length ∧
      t.value = slice source t.loc.start t.loc.stop :=
  tiles.mem_token (List.mem_map_of_mem (f := (·.2)) member)

theorem Tiles.covers (tiles : Tiles source p (parts.map (·.2))) {i : Nat} (low : p ≤ i)
    (high : i < source.length) : ∃ part ∈ parts, part.2.loc.start ≤ i ∧ i < part.2.loc.stop := by
  induction parts generalizing p with
  | nil =>
    cases tiles
    omega
  | cons part parts ih =>
    cases tiles with
    | @token _ q _ _ loc filled inside value later =>
      by_cases here : i < q
      · exact ⟨part, List.mem_cons_self .., by rw [loc]; exact low, by rw [loc]; exact here⟩
      · obtain ⟨other, member, bounds⟩ := ih later (by omega)
        exact ⟨other, List.mem_cons_of_mem _ member, bounds⟩

theorem Tiles.same_part (tiles : Tiles source p (parts.map (·.2))) {i : Nat} {a b : Origin} {t u : Token}
    (left : (a, t) ∈ parts) (right : (b, u) ∈ parts) (inLeft : t.loc.start ≤ i ∧ i < t.loc.stop)
    (inRight : u.loc.start ≤ i ∧ i < u.loc.stop) : (a, t) = (b, u) := by
  induction parts generalizing p with
  | nil => cases left
  | cons part parts ih =>
    cases tiles with
    | @token _ q _ _ loc filled inside value later =>
      rcases List.mem_cons.mp left with rfl | oldLeft
      · rcases List.mem_cons.mp right with same | oldRight
        · exact same.symm
        · have behind := (later.mem_part oldRight).1
          have stop : t.loc.stop = q := congrArg Location.stop loc
          omega
      · rcases List.mem_cons.mp right with rfl | oldRight
        · have behind := (later.mem_part oldLeft).1
          have stop : u.loc.stop = q := congrArg Location.stop loc
          omega
        · exact ih later oldLeft oldRight

theorem start_of_outside {t : Token} (member : (Origin.rule, t) ∈ parts) (outside : ¬ InsideMatch parts p)
    (low : t.loc.start ≤ p) (high : p < t.loc.stop) : t.loc.start = p := by
  rcases Nat.lt_or_eq_of_le low with behind | same
  · exact absurd ⟨t, member, behind, high⟩ outside
  · exact same

theorem rulePart_reports {r : CompiledRule} {m : Match} {origin : Origin} {t : Token}
    (part : rulePart source p r m = (origin, t)) : Reports r m (source.drop p) t := by
  cases part
  exact ⟨rfl, by simp [slice], rfl, rfl⟩

namespace Scans

theorem text_run (scans : Scans rules source p parts) {t : Token} (member : (Origin.text, t) ∈ parts) :
    textPart source t.loc.start t.loc.stop = (.text, t) ∧
      (∀ i, t.loc.start ≤ i → i < t.loc.stop → ¬ Hit rules (source.drop i)) ∧
      (t.loc.stop = source.length ∨ Hit rules (source.drop t.loc.stop)) := by
  induction scans with
  | done => cases member
  | rule wins later ih =>
    rcases List.mem_cons.mp member with same | old
    · cases same
    · exact ih old
  | text filled missed ended later ih =>
    rcases List.mem_cons.mp member with same | old
    · cases same
      exact ⟨rfl, missed, ended⟩
    · exact ih old

/-- A run of positions where no rule hits goes no further than another one from there that has ended. -/
theorem stop_le {q q' : Nat} (filled : p < q') (missed : ∀ i, p ≤ i → i < q → ¬ Hit rules (source.drop i))
    (ended : q = source.length ∨ Hit rules (source.drop q))
    (ended' : q' = source.length ∨ Hit rules (source.drop q')) : q ≤ q' := by
  rcases ended' with stop | hit
  · exact stop ▸ ended_inside ended
  · exact Nat.le_of_not_lt fun short => missed q' (Nat.le_of_lt filled) short hit

theorem unique {a b : List Part} (left : Scans rules source p a) (right : Scans rules source p b) :
    a = b := by
  induction left generalizing b with
  | done =>
    cases right with
    | done => rfl
    | rule wins => exact absurd (hit_inside wins.hit) (Nat.lt_irrefl _)
    | text filled missed ended => exact absurd (ended_inside ended) (Nat.not_le_of_lt filled)
  | @rule p r m parts wins later ih =>
    cases right with
    | done => exact absurd (hit_inside wins.hit) (Nat.lt_irrefl _)
    | rule others rest =>
      obtain ⟨rfl, rfl⟩ := wins.unique others
      rw [ih rest]
    | text filled missed => exact absurd wins.hit (missed p (Nat.le_refl p) filled)
  | @text p q parts filled missed ended later ih =>
    cases right with
    | done => exact absurd (ended_inside ended) (Nat.not_le_of_lt filled)
    | rule wins => exact absurd wins.hit (missed p (Nat.le_refl p) filled)
    | @text _ q' _ filled' missed' ended' rest =>
      obtain rfl : q = q' := Nat.le_antisymm (stop_le filled' missed ended ended')
        (stop_le filled missed' ended' ended)
      rw [ih rest]

/-- Outside of matches a position is where a rule hits and makes a token, or it is in a text. -/
theorem part_at (scans : Scans rules source p parts) {i : Nat} (low : p ≤ i) (high : i < source.length)
    (outside : ¬ InsideMatch parts i) :
    (∃ t, (Origin.rule, t) ∈ parts ∧ t.loc.start = i ∧ Hit rules (source.drop i)) ∨
    ∃ t, (Origin.text, t) ∈ parts ∧ t.loc.start ≤ i ∧ i < t.loc.stop ∧ ¬ Hit rules (source.drop i) := by
  obtain ⟨⟨origin, t⟩, member, before, behind⟩ := scans.tiles.covers low high
  cases origin with
  | rule =>
    have start := start_of_outside member outside before behind
    obtain ⟨r, m, wins, -⟩ := scans.rule_wins member
    exact Or.inl ⟨t, member, start, start ▸ wins.hit⟩
  | text =>
    obtain ⟨-, missed, -⟩ := scans.text_run member
    exact Or.inr ⟨t, member, before, behind, missed i before behind⟩

theorem text_maximal (scans : Scans rules source 0 parts) {t : Token} (member : (Origin.text, t) ∈ parts) :
    MaximalRun (Unclaimed rules source parts) t.loc.start t.loc.stop := by
  obtain ⟨-, missed, ended⟩ := scans.text_run member
  obtain ⟨-, filled, inside, -⟩ := scans.tiles.mem_part member
  have alone : ∀ origin u i, (origin, u) ∈ parts → u.loc.start ≤ i → i < u.loc.stop →
      t.loc.start ≤ i → i < t.loc.stop → (origin, u) = (Origin.text, t) :=
    fun origin u i known low high before behind =>
      scans.tiles.same_part known member ⟨low, high⟩ ⟨before, behind⟩
  exact {
    filled
    all := by
      intro i low high
      refine ⟨Nat.lt_of_lt_of_le high inside, ?_, missed i low high⟩
      rintro ⟨u, known, before, behind⟩
      cases alone _ u i known (Nat.le_of_lt before) behind low high
    before := by
      intro positive free
      rcases scans.part_at (Nat.zero_le _) free.inside free.outside with
        ⟨u, known, start, hit⟩ | ⟨u, known, before, behind, -⟩
      · exact free.missed hit
      · -- A text in front would go on into this one.
        obtain ⟨-, -, closed⟩ := scans.text_run known
        have stop : u.loc.stop = t.loc.start := by
          by_contra apart
          cases alone _ u t.loc.start known (by omega) (by omega) (Nat.le_refl _) filled
          omega
        rw [stop] at closed
        rcases closed with done | hit
        · omega
        · exact missed _ (Nat.le_refl _) filled hit
    after := by
      intro free
      rcases ended with stop | hit
      · exact absurd free.inside (by omega)
      · exact free.missed hit }

theorem firstRuleWins {source : String} (scans : Scans rules source.toList 0 parts) :
    FirstRuleWins rules source parts where
  partition := scans.tiles.partition
  hit := by
    intro i high outside hit
    rw [← String.length_toList] at high
    rcases scans.part_at (Nat.zero_le i) high outside with ⟨t, member, start, -⟩ | ⟨-, -, -, -, missed⟩
    · obtain ⟨r, m, wins, part⟩ := scans.rule_wins member
      rw [start] at wins part
      exact ⟨r, m, t, wins, rulePart_reports part, start, member⟩
    · exact absurd hit missed
  miss := by
    intro i high outside missed
    rw [← String.length_toList] at high
    rcases scans.part_at (Nat.zero_le i) high outside with ⟨-, -, -, hit⟩ | ⟨t, member, before, behind, -⟩
    · exact absurd hit missed
    · exact ⟨t, member, before, behind⟩
  text := by
    intro t member
    have run := scans.text_maximal member
    obtain ⟨part, -, -⟩ := scans.text_run member
    rw [← (Prod.mk.inj part).2]
    exact ⟨rfl, rfl, rfl, run⟩

end Scans

/-! ### Parts where the first rule wins are those that scanning makes -/

theorem tiles_of_chain {tokens : List Token} (next : tokens.IsChain fun a b => b.loc.start = a.loc.stop)
    (each : ∀ t ∈ tokens, t.loc.start < t.loc.stop ∧ t.loc.stop ≤ source.length ∧
      t.value = slice source t.loc.start t.loc.stop)
    (first : ∀ t ∈ tokens.head?, t.loc.start = p) (last : ∀ t ∈ tokens.getLast?, t.loc.stop = source.length)
    (empty : tokens = [] → p = source.length) : Tiles source p tokens := by
  induction tokens generalizing p with
  | nil => exact empty rfl ▸ .done
  | cons t tokens ih =>
    obtain ⟨here, later⟩ := List.isChain_cons.mp next
    obtain ⟨⟨filled, inside, value⟩, others⟩ := List.forall_mem_cons.mp each
    obtain rfl : t.loc.start = p := first t rfl
    refine .token rfl filled inside value (ih later others here ?_ ?_)
    · cases tokens with
      | nil => simp
      | cons u tokens => simpa [List.getLast?_cons_cons] using last
    · rintro rfl
      exact last t rfl

theorem Partition.tiles {source : String} {tokens : List Token} (partition : Partition source tokens) :
    Tiles source.toList 0 tokens := by
  refine tiles_of_chain partition.next ?_ partition.first ?_ ?_
  · intro t member
    have value := partition.value t member
    have width := partition.width t member
    have nonempty : 0 < t.value.length :=
      Nat.pos_of_ne_zero (mt String.length_eq_zero_iff.mp (partition.nonempty t member))
    have cut : t.value.length = min (t.loc.stop - t.loc.start) (source.toList.length - t.loc.start) := by
      rw [value]
      simp [slice]
    exact ⟨by omega, by omega, value⟩
  · exact fun t member => (partition.last t member).trans String.length_toList.symm
  · rintro rfl
    rw [← partition.joined]
    rfl

theorem rulePart_of_reports {r : CompiledRule} {m : Match} {t : Token} {q : Nat} (loc : t.loc = ⟨p, q⟩)
    (reports : Reports r m (source.drop p) t) (inside : p + m.stop ≤ source.length)
    (bounds : p < q ∧ q ≤ source.length) (value : t.value = slice source p q) :
    (.rule, t) = rulePart source p r m := by
  have matched : t.value = slice source p (p + m.stop) := by
    rw [reports.value, slice, Nat.add_sub_cancel_left]
  have width := length_slice (p := p) bounds.2
  rw [← value, matched, length_slice inside] at width
  obtain rfl : q = p + m.stop := by omega
  obtain ⟨type, -, params, alternative⟩ := reports
  rw [matched] at alternative
  cases t
  simp only at type params alternative loc matched
  rw [rulePart, type, params, alternative, loc, matched]

namespace FirstRuleWins

variable {source : String}

theorem outside_start (wins : FirstRuleWins rules source parts) {origin : Origin} {t : Token}
    (member : (origin, t) ∈ parts) : t.loc.start < source.length ∧ ¬ InsideMatch parts t.loc.start := by
  have tiles := wins.partition.tiles
  obtain ⟨-, filled, inside, -⟩ := tiles.mem_part member
  rw [String.length_toList] at inside
  refine ⟨Nat.lt_of_lt_of_le filled inside, ?_⟩
  rintro ⟨u, known, before, behind⟩
  cases tiles.same_part known member ⟨Nat.le_of_lt before, behind⟩ ⟨Nat.le_refl _, filled⟩
  exact Nat.lt_irrefl _ before

theorem rule_part (wins : FirstRuleWins rules source parts) {origin : Origin} {t : Token}
    (member : (origin, t) ∈ parts) (hit : Hit rules (source.toList.drop t.loc.start)) :
    ∃ r m, Wins rules (source.toList.drop t.loc.start) r m ∧
      (origin, t) = rulePart source.toList t.loc.start r m := by
  have tiles := wins.partition.tiles
  obtain ⟨-, filled, inside, value⟩ := tiles.mem_part member
  obtain ⟨place, outside⟩ := wins.outside_start member
  obtain ⟨r, m, u, winner, reports, start, known⟩ := wins.hit _ place outside hit
  obtain ⟨-, wide, -, -⟩ := tiles.mem_part known
  cases tiles.same_part known member ⟨Nat.le_of_eq start, start ▸ wide⟩ ⟨Nat.le_refl _, filled⟩
  have bounds := (Pattern.Program.find_bounds winner.found).2
  rw [List.length_drop] at bounds
  exact ⟨r, m, winner, rulePart_of_reports rfl reports (by omega) ⟨filled, inside⟩ value⟩

theorem text_origin (wins : FirstRuleWins rules source parts) {origin : Origin} {t : Token}
    (member : (origin, t) ∈ parts) (missed : ¬ Hit rules (source.toList.drop t.loc.start)) :
    origin = .text := by
  have tiles := wins.partition.tiles
  obtain ⟨-, filled, -, -⟩ := tiles.mem_part member
  obtain ⟨place, outside⟩ := wins.outside_start member
  obtain ⟨u, known, low, high⟩ := wins.miss _ place outside missed
  cases tiles.same_part known member ⟨low, high⟩ ⟨Nat.le_refl _, filled⟩
  rfl

theorem text_ended (wins : FirstRuleWins rules source parts) {t : Token} (member : (Origin.text, t) ∈ parts) :
    t.loc.stop = source.toList.length ∨ Hit rules (source.toList.drop t.loc.stop) := by
  have tiles := wins.partition.tiles
  obtain ⟨-, filled, inside, -⟩ := tiles.mem_part member
  obtain ⟨-, -, -, run⟩ := wins.text t member
  rcases Nat.lt_or_eq_of_le inside with more | stop
  · refine Or.inr (Classical.byContradiction fun missed => run.after ⟨more, ?_, missed⟩)
    rintro ⟨u, known, before, behind⟩
    cases tiles.same_part known member (i := t.loc.stop - 1) ⟨by omega, by omega⟩ ⟨by omega, by omega⟩
  · exact Or.inl stop

/-- What holds of all parts is carried to those from a position on. -/
theorem scans_from (wins : FirstRuleWins rules source parts) (before : List Part) {after : List Part}
    (split : parts = before ++ after) (tiles : Tiles source.toList p (after.map (·.2))) :
    Scans rules source.toList p after := by
  induction after generalizing before p with
  | nil =>
    cases tiles
    exact .done
  | cons part after ih =>
    obtain ⟨origin, t⟩ := part
    have member : (origin, t) ∈ parts := by simp [split]
    cases tiles with
    | @token _ q _ _ loc filled inside value later =>
      replace loc : t.loc = ⟨p, q⟩ := loc
      replace value : t.value = slice source.toList p q := value
      have rest := ih (before ++ [(origin, t)]) (by simp [split]) later
      by_cases hit : Hit rules (source.toList.drop p)
      · obtain ⟨r, m, winner, part⟩ := wins.rule_part member (by rwa [loc])
        have stop : q = p + m.stop := by
          have same := congrArg (fun part => part.2.loc.stop) part
          simpa [loc, rulePart] using same
        rw [part]
        simp only [loc] at winner ⊢
        exact .rule winner (stop ▸ rest)
      · obtain rfl := wins.text_origin member (by rwa [loc])
        obtain ⟨type, params, alternative, run⟩ := wins.text t member
        have ended := wins.text_ended member
        simp only [loc] at run ended
        have part : (Origin.text, t) = textPart source.toList p q := by
          cases t
          simp only at type params alternative loc value
          rw [textPart, Token.text, type, params, alternative, loc, value]
        rw [part]
        exact .text filled (fun i low high => (run.all i low high).missed) ended rest

end FirstRuleWins

/-- The tokens of a source and their origins are the only ones by which the first rule wins. -/
theorem tokenize_first_rule (anchored : ∀ r ∈ rules, r.Anchored) (source : String) :
    ∃ tokens parts, tokenize rules source = some tokens ∧ trace rules source = some parts ∧
      parts.map (·.2) = tokens ∧ ∀ other, FirstRuleWins rules source other ↔ other = parts := by
  obtain ⟨parts, traced, scans⟩ := trace_scans anchored source
  refine ⟨_, parts, tokenize_of_trace traced, traced, rfl, fun other => ⟨fun wins => ?_, ?_⟩⟩
  · exact (wins.scans_from [] rfl wins.partition.tiles).unique scans
  · rintro rfl
    exact scans.firstRuleWins

theorem tokenize_first_rule_sample :
    ∃ rules, compileAll sampleRules = .ok rules ∧ (∀ r ∈ rules, r.Anchored) ∧
      ∃ tokens parts, tokenize rules "x<éyy]]" = some tokens ∧ trace rules "x<éyy]]" = some parts ∧
        parts.map (·.2) = tokens ∧ ∀ other, FirstRuleWins rules "x<éyy]]" other ↔ other = parts := by
  obtain ⟨rules, compiled, anchored, -⟩ := sampleRules_compile
  exact ⟨rules, compiled, anchored, tokenize_first_rule anchored "x<éyy]]"⟩

end BlockMarkup
