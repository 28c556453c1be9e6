import BlockMarkup.Document
import BlockMarkup.Proofs.Pattern.ClassSize
import BlockMarkup.Proofs.Rule.Delimiter
import BlockMarkup.Proofs.Token.FirstRule
import BlockMarkup.Proofs.Tree.Forest
import Mathlib.Data.List.Nodup

/-!
# Printed forests are built again

A forest that is printed with single characters as delimiters is scanned to its tokens, so the document
that is built from the text has the forest as its children (`build_printed`). The rules must be small
enough to be compiled, which lists of some hundred thousand characters are not.
-/

namespace BlockMarkup

open Pattern (Expr Program sizeLimit)

namespace Delimiters

variable (d : Delimiters)

def rules : List (String × Rule) :=
  [("open", .alternatives (d.opening.map String.singleton)),
   ("close", .alternatives (d.closing.map String.singleton)),
   ("marker", .literal (String.singleton d.marker))]

/-- Both lists are small enough for a pattern. -/
def Fits : Prop := (Expr.list d.opening).size ≤ sizeLimit ∧ (Expr.list d.closing).size ≤ sizeLimit

/-- The rule of this name has a list that is too large. -/
def TooLarge (name : String) : Prop :=
  name = "open" ∧ sizeLimit < (Expr.list d.opening).size ∨
    name = "close" ∧ sizeLimit < (Expr.list d.closing).size

def openRule : CompiledRule := .list "open" d.opening

def closeRule : CompiledRule := .list "close" d.closing

def markerRule : CompiledRule := .single "marker" d.marker

variable {d}

theorem closing_filled : d.closing ≠ [] := by
  intro empty
  have same := d.paired
  rw [empty] at same
  exact d.filled (List.eq_nil_of_length_eq_zero same)

theorem compileAll_rules (fits : d.Fits) :
    compileAll d.rules = .ok [d.openRule, d.closeRule, d.markerRule] := by
  have opens := Rule.compile_list "open" d.filled
  have closes := Rule.compile_list "close" d.closing_filled
  rw [if_pos fits.1] at opens
  rw [if_pos fits.2] at closes
  exact compileAll_cons.mpr ⟨_, _, opens, compileAll_cons.mpr ⟨_, _, closes,
    compileAll_cons.mpr ⟨_, _, Rule.compile_single "marker" d.marker, rfl, rfl⟩, rfl⟩, rfl⟩

/-! ### Which rule takes a character -/

theorem opening_nodup : d.opening.Nodup :=
  (List.nodup_append.mp (List.nodup_cons.mp d.distinct).2).1

theorem closing_nodup : d.closing.Nodup :=
  (List.nodup_append.mp (List.nodup_cons.mp d.distinct).2).2.1

theorem not_both {c : Char} (opens : c ∈ d.opening) : c ∉ d.closing := fun closes =>
  (List.nodup_append.mp (List.nodup_cons.mp d.distinct).2).2.2 c opens c closes rfl

theorem marker_apart : d.marker ∉ d.opening ++ d.closing := (List.nodup_cons.mp d.distinct).1

theorem opener_meant (i : Fin d.count) : d.opener i ∈ d.chars :=
  List.mem_cons_of_mem _ (List.mem_append_left _ (List.get_mem d.opening i))

theorem closer_meant (i : Fin d.count) : d.closer i ∈ d.chars :=
  List.mem_cons_of_mem _ (List.mem_append_right _ (List.get_mem d.closing (i.cast d.paired)))

theorem openRule_takes : d.openRule.program.Takes d.opening [(3, 1), (2, 0)] :=
  Pattern.list_takes d.filled

theorem closeRule_takes : d.closeRule.program.Takes d.closing [(3, 1), (2, 0)] :=
  Pattern.list_takes d.closing_filled

theorem markerRule_takes : d.markerRule.program.Takes [d.marker] [] := Pattern.single_takes d.marker

/-- The rules of the delimiters, in some order. -/
def Compiled (d : Delimiters) (rules : List CompiledRule) : Prop :=
  [d.openRule, d.closeRule, d.markerRule].Perm rules

namespace Compiled

variable {rules : List CompiledRule} {c : Char} {rest : List Char}

theorem mem (compiled : d.Compiled rules) {r : CompiledRule} :
    r ∈ rules ↔ r = d.openRule ∨ r = d.closeRule ∨ r = d.markerRule := by
  rw [← List.Perm.mem_iff compiled]
  simp

/-- What a rule that hits tells of the character. -/
theorem hits (compiled : d.Compiled rules) {r : CompiledRule} (member : r ∈ rules)
    (hits : r.Hits (c :: rest)) :
    r = d.openRule ∧ c ∈ d.opening ∨ r = d.closeRule ∧ c ∈ d.closing ∨
      r = d.markerRule ∧ c = d.marker := by
  rcases compiled.mem.mp member with rfl | rfl | rfl
  · exact .inl ⟨rfl, (CompiledRule.hits_iff openRule_takes).mp hits⟩
  · exact .inr (.inl ⟨rfl, (CompiledRule.hits_iff closeRule_takes).mp hits⟩)
  · exact .inr (.inr ⟨rfl, by simpa using (CompiledRule.hits_iff markerRule_takes).mp hits⟩)

theorem opening_wins (compiled : d.Compiled rules) (opens : c ∈ d.opening) (rest : List Char) :
    Wins rules (c :: rest) d.openRule { start := 0, stop := 1, marks := [(3, 1), (2, 0)] } := by
  refine wins_of_takes (compiled.mem.mpr (.inl rfl)) openRule_takes opens fun q member hits => ?_
  rcases compiled.hits member hits with ⟨rfl, -⟩ | ⟨-, closes⟩ | ⟨-, rfl⟩
  · rfl
  · exact absurd closes (not_both opens)
  · exact absurd (List.mem_append_left _ opens) marker_apart

theorem closing_wins (compiled : d.Compiled rules) (closes : c ∈ d.closing) (rest : List Char) :
    Wins rules (c :: rest) d.closeRule { start := 0, stop := 1, marks := [(3, 1), (2, 0)] } := by
  refine wins_of_takes (compiled.mem.mpr (.inr (.inl rfl))) closeRule_takes closes
    fun q member hits => ?_
  rcases compiled.hits member hits with ⟨-, opens⟩ | ⟨rfl, -⟩ | ⟨-, rfl⟩
  · exact absurd closes (not_both opens)
  · rfl
  · exact absurd (List.mem_append_right _ closes) marker_apart

theorem marker_wins (compiled : d.Compiled rules) (rest : List Char) :
    Wins rules (d.marker :: rest) d.markerRule { start := 0, stop := 1, marks := [] } := by
  refine wins_of_takes (compiled.mem.mpr (.inr (.inr rfl))) markerRule_takes (by simp)
    fun q member hits => ?_
  rcases compiled.hits member hits with ⟨-, opens⟩ | ⟨-, closes⟩ | ⟨rfl, -⟩
  · exact absurd (List.mem_append_left _ opens) marker_apart
  · exact absurd (List.mem_append_right _ closes) marker_apart
  · rfl

theorem hit (compiled : d.Compiled rules) : Hit rules (c :: rest) ↔ c ∈ d.chars := by
  constructor
  · rintro ⟨r, member, hits⟩
    rcases compiled.hits member hits with ⟨-, opens⟩ | ⟨-, closes⟩ | ⟨-, rfl⟩
    · simp [chars, opens]
    · simp [chars, closes]
    · simp [chars]
  · intro meant
    rw [chars, List.mem_cons, List.mem_append] at meant
    rcases meant with rfl | opens | closes
    · exact (compiled.marker_wins rest).hit
    · exact (compiled.opening_wins opens rest).hit
    · exact (compiled.closing_wins closes rest).hit

end Compiled

end Delimiters

/-! ### Parts -/

section Parts

variable {source rest : List Char} {p : Nat} {c : Char}

theorem slice_head (here : source.drop p = c :: rest) : slice source p (p + 1) = String.singleton c := by
  rw [slice, here, Nat.add_sub_cancel_left, String.singleton_eq_ofList]
  rfl

theorem captures_list (type : String) (chars : List Char) :
    (CompiledRule.list type chars).captures (c :: rest)
      { start := 0, stop := 1, marks := [(3, 1), (2, 0)] } = some [some (String.singleton c)] := by
  have groups : (CompiledRule.list type chars).program.groups = 1 := Pattern.groups_list chars
  rw [CompiledRule.captures, groups, String.singleton_eq_ofList]
  rfl

theorem alternativeIndex_list (type : String) {chars : List Char} {i : Nat} (distinct : chars.Nodup)
    (place : chars[i]? = some c) :
    (CompiledRule.list type chars).alternativeIndex (String.singleton c) = some i := by
  obtain ⟨low, found⟩ := List.getElem?_eq_some_iff.mp place
  refine List.findIdx?_eq_some_iff_getElem.mpr ⟨by simpa using low, by simp [found], ?_⟩
  intro j before
  have differs : chars[j] ≠ c := by
    rw [← found]
    exact fun same => Nat.ne_of_lt before (distinct.getElem_inj_iff.mp same)
  simpa [String.singleton_inj] using differs

theorem rulePart_list (type : String) {chars : List Char} {i : Nat} (distinct : chars.Nodup)
    (here : source.drop p = c :: rest) (place : chars[i]? = some c) :
    rulePart source p (.list type chars) { start := 0, stop := 1, marks := [(3, 1), (2, 0)] } =
      (.rule, listToken type c i p) := by
  unfold rulePart
  dsimp only
  rw [slice_head here, here, captures_list, alternativeIndex_list type distinct place]
  rfl

theorem rulePart_single (type : String) (here : source.drop p = c :: rest) :
    rulePart source p (.single type c) { start := 0, stop := 1, marks := [] } =
      (.rule, { type, value := String.singleton c, loc := ⟨p, p + 1⟩ }) := by
  unfold rulePart
  dsimp only
  rw [slice_head here]
  rfl

end Parts

/-! ### Scanning printed forests -/

/-- A part for a token, of the origin that its type tells. -/
def Token.part (t : Token) : Part := (if t.role = .text then .text else .rule, t)

theorem Token.part_rule {t : Token} {role : Role} (known : t.role = role) (other : role ≠ .text) :
    t.part = (.rule, t) := by
  rw [part, known, if_neg other]

theorem drop_past {source after : List Char} {p : Nat} (before : List Char) (here : source.drop p = before ++ after) :
    source.drop (p + before.length) = after := by
  rw [← List.drop_drop, here, List.drop_left]

namespace Delimiters.Compiled

variable {d : Delimiters} {rules : List CompiledRule} {source rest : List Char} {p : Nat}
  {later : List Part}

theorem scans_text (compiled : d.Compiled rules) {value : String} (filled : value ≠ "")
    (free : ∀ c ∈ value.toList, c ∉ d.chars) (here : source.drop p = value.toList ++ rest)
    (bounded : rest = [] ∨ ∃ c more, rest = c :: more ∧ c ∈ d.chars)
    (next : Scans rules source (p + value.length) later) :
    Scans rules source p ((Token.text value ⟨p, p + value.length⟩).part :: later) := by
  have width : value.toList.length = value.length := String.length_toList
  have some : 0 < value.length :=
    Nat.pos_of_ne_zero fun empty => filled (String.length_eq_zero_iff.mp empty)
  have beyond : source.drop (p + value.length) = rest := by
    rw [← width]
    exact drop_past _ here
  have slice : slice source p (p + value.length) = value := by
    rw [BlockMarkup.slice, here, Nat.add_sub_cancel_left, ← width, List.take_left, String.ofList_toList]
  have part : (Token.text value ⟨p, p + value.length⟩).part = textPart source p (p + value.length) := by
    rw [textPart, slice, Token.part, if_pos (role_text _ _)]
  rw [part]
  refine .text (Nat.lt_add_of_pos_right some) ?_ ?_ next
  · intro i low high hit
    obtain ⟨j, rfl⟩ := Nat.exists_eq_add_of_le low
    have inside : j < value.toList.length := by omega
    have ahead : source.drop (p + j) = value.toList[j] :: (value.toList.drop (j + 1) ++ rest) := by
      rw [← List.drop_drop, here, List.drop_append_of_le_length (Nat.le_of_lt inside),
        List.drop_eq_getElem_cons inside]
      rfl
    rw [ahead] at hit
    exact free _ (List.getElem_mem inside) (compiled.hit.mp hit)
  · rcases bounded with rfl | ⟨c, more, rfl, meant⟩
    · left
      have size := congrArg List.length here
      simp only [List.length_drop, List.append_nil] at size
      omega
    · right
      rw [beyond]
      exact compiled.hit.mpr meant

theorem scans_opening (compiled : d.Compiled rules) (i : Fin d.count)
    (here : source.drop p = d.opener i :: rest) (next : Scans rules source (p + 1) later) :
    Scans rules source p ((listToken "open" (d.opener i) i p).part :: later) := by
  have place : d.opening[i.val]? = some (d.opener i) := List.getElem?_eq_getElem i.isLt
  have wins := compiled.opening_wins (List.get_mem d.opening i) rest
  rw [Token.part_rule (role_open _ _ _) (by decide), ← rulePart_list "open" opening_nodup here place]
  exact .rule (here ▸ wins) next

theorem scans_closing (compiled : d.Compiled rules) (i : Fin d.count)
    (here : source.drop p = d.closer i :: rest) (next : Scans rules source (p + 1) later) :
    Scans rules source p ((listToken "close" (d.closer i) i p).part :: later) := by
  have place : d.closing[i.val]? = some (d.closer i) := List.getElem?_eq_getElem (d.paired ▸ i.isLt)
  have wins := compiled.closing_wins (List.get_mem d.closing (i.cast d.paired)) rest
  rw [Token.part_rule (role_close _ _ _) (by decide), ← rulePart_list "close" closing_nodup here place]
  exact .rule (here ▸ wins) next

theorem scans_marker (compiled : d.Compiled rules)
    (here : source.drop p = d.marker :: rest) (next : Scans rules source (p + 1) later) :
    Scans rules source p ((markerToken d.marker p).part :: later) := by
  have wins := compiled.marker_wins rest
  rw [Token.part_rule (role_markerToken _ _) (by decide), markerToken, ← rulePart_single "marker" here]
  exact .rule (here ▸ wins) next

theorem print_bounded {forest : Forest d.count} (apart : forest.startsWithText = false)
    (bounded : rest = [] ∨ ∃ c more, rest = c :: more ∧ c ∈ d.chars) :
    forest.print d ++ rest = [] ∨ ∃ c more, forest.print d ++ rest = c :: more ∧ c ∈ d.chars := by
  cases forest with
  | nil => exact bounded
  | text value more => cases apart
  | marker more => exact .inr ⟨d.marker, _, rfl, by simp [chars]⟩
  | block i children more => exact .inr ⟨d.opener i, _, rfl, opener_meant i⟩

/-- The parts of a printed forest come before those of what follows it, which does not go on with its
last text. -/
theorem scans_print (compiled : d.Compiled rules) (forest : Forest d.count)
    (printable : forest.Printable d) (here : source.drop p = forest.print d ++ rest)
    (bounded : rest = [] ∨ ∃ c more, rest = c :: more ∧ c ∈ d.chars)
    (next : Scans rules source (p + (forest.print d).length) later) :
    Scans rules source p ((forest.tokens d p).map Token.part ++ later) := by
  induction forest generalizing p rest later with
  | nil => exact next
  | text value more ih =>
    obtain ⟨filled, free, apart, printable⟩ := printable
    have width : value.toList.length = value.length := String.length_toList
    rw [Forest.print, List.append_assoc] at here
    rw [Forest.print, List.length_append, ← Nat.add_assoc, width] at next
    have beyond := drop_past _ here
    rw [width] at beyond
    exact compiled.scans_text filled free here (print_bounded apart bounded)
      (ih printable beyond bounded next)
  | marker more ih =>
    have beyond := drop_past [d.marker] here
    rw [Forest.print, List.length_cons, ← Nat.add_assoc, Nat.add_right_comm] at next
    exact compiled.scans_marker here (ih printable beyond bounded next)
  | block i children more inside ih =>
    obtain ⟨within, printable⟩ := printable
    rw [Forest.print, List.cons_append, List.append_assoc, List.cons_append] at here
    have body := drop_past [d.opener i] here
    have ending := drop_past _ body
    have beyond := drop_past [d.closer i] ending
    have width : p + (Forest.print d (.block i children more)).length =
        p + 1 + (children.print d).length + 1 + (more.print d).length := by
      simp only [Forest.print, List.length_cons, List.length_append]
      omega
    rw [width] at next
    have tail := compiled.scans_closing i ending (ih printable beyond bounded next)
    have block := compiled.scans_opening i here
      (inside within body (.inr ⟨d.closer i, _, rfl, closer_meant i⟩) tail)
    rw [Forest.tokens, List.map_cons, List.map_append, List.map_cons, List.cons_append,
      List.append_assoc, List.cons_append]
    exact block

theorem anchored (compiled : d.Compiled rules) : ∀ r ∈ rules, r.Anchored := by
  intro r member
  rcases compiled.mem.mp member with rfl | rfl | rfl
  · exact CompiledRule.anchored_of_takes openRule_takes
  · exact CompiledRule.anchored_of_takes closeRule_takes
  · exact CompiledRule.anchored_of_takes markerRule_takes

/-- A printed forest is scanned to its tokens. -/
theorem tokenize_print (compiled : d.Compiled rules) (forest : Forest d.count)
    (printable : forest.Printable d) :
    tokenize rules (String.ofList (forest.print d)) = some (forest.tokens d 0) := by
  obtain ⟨parts, traced, scans⟩ := trace_scans compiled.anchored (String.ofList (forest.print d))
  rw [String.toList_ofList] at scans
  have ended : Scans rules (forest.print d) (0 + (forest.print d).length) [] := by
    rw [Nat.zero_add]
    exact .done
  have expected := compiled.scans_print forest printable (List.append_nil _).symm (.inl rfl) ended
  rw [List.append_nil] at expected
  rw [tokenize_of_trace traced, scans.unique expected, List.map_map]
  exact congrArg some (List.map_id _)

end Delimiters.Compiled

/-! ### Building -/

namespace Delimiters

variable {d : Delimiters} {rules : List (String × Rule)}

theorem fits_of_compileAll {compiled : List CompiledRule} (ok : compileAll d.rules = .ok compiled) : d.Fits := by
  obtain ⟨_, _, opens, ok, -⟩ := compileAll_cons.mp ok
  obtain ⟨_, _, closes, -, -⟩ := compileAll_cons.mp ok
  rw [Rule.compile_list _ d.filled] at opens
  rw [Rule.compile_list _ d.closing_filled] at closes
  constructor
  · split at opens
    next small => exact small
    next => cases opens
  · split at closes
    next small => exact small
    next => cases closes

theorem fits_of_few (few : d.count ≤ 79000) : d.Fits :=
  ⟨Pattern.list_small few, Pattern.list_small (d.paired ▸ few)⟩

/-- A list that is too large is what is wrong with the rules then. -/
theorem compileAll_unfit (order : d.rules.Perm rules) (large : ¬ d.Fits) :
    ∃ name, d.TooLarge name ∧ compileAll rules = .error (.invalidPattern name) := by
  cases failed : compileAll rules with
  | ok compiled =>
    obtain ⟨again, ok, -⟩ := compileAll_perm order.symm failed
    exact absurd (fits_of_compileAll ok) large
  | error e =>
    obtain ⟨pair, member, refused⟩ := compileAll_error failed
    rw [← order.mem_iff] at member
    simp only [Delimiters.rules, List.mem_cons, List.not_mem_nil, or_false] at member
    rcases member with rfl | rfl | rfl
    · rw [Rule.compile_list _ d.filled] at refused
      split at refused
      next => cases refused
      next above =>
        cases refused
        exact ⟨_, .inl ⟨rfl, Nat.lt_of_not_le above⟩, rfl⟩
    · rw [Rule.compile_list _ d.closing_filled] at refused
      split at refused
      next => cases refused
      next above =>
        cases refused
        exact ⟨_, .inr ⟨rfl, Nat.lt_of_not_le above⟩, rfl⟩
    · rw [Rule.compile_single] at refused
      cases refused

/-! ### More delimiters than fit -/

theorem spread_distinct {n : Nat} (room : 2 * n < 0x100000) :
    ('*' :: (Pattern.everySecond n 0x10000 ++ Pattern.everySecond n 0x10001)).Nodup := by
  have opens : (Pattern.everySecond n 0x10000).Nodup := Pattern.everySecond_nodup (by decide) (by omega)
  have closes : (Pattern.everySecond n 0x10001).Nodup := Pattern.everySecond_nodup (by decide) (by omega)
  refine List.nodup_cons.mpr ⟨?_, List.nodup_append.mpr ⟨opens, closes, ?_⟩⟩
  · intro member
    have ascii : '*'.toNat = 42 := rfl
    rcases List.mem_append.mp member with high | high
    all_goals
      obtain ⟨i, code⟩ := Pattern.mem_everySecond (by decide) (by omega) high
      omega
  · rintro c even _ odd rfl
    obtain ⟨i, code⟩ := Pattern.mem_everySecond (by decide) (by omega) even
    obtain ⟨j, other⟩ := Pattern.mem_everySecond (by decide) (by omega) odd
    omega

/-- `n` pairs of characters. No two that open blocks are neighbours, and no two that close them. -/
def spread (n : Nat) (some : 0 < n) (room : 2 * n < 0x100000) : Delimiters where
  opening := Pattern.everySecond n 0x10000
  closing := Pattern.everySecond n 0x10001
  marker := '*'
  filled := List.ne_nil_of_length_pos (some.trans_eq Pattern.length_everySecond.symm)
  paired := Pattern.length_everySecond.trans Pattern.length_everySecond.symm
  distinct := spread_distinct room

theorem compileAll_spread {n : Nat} (some : 0 < n) (room : 2 * n < 0x100000) (many : 300000 ≤ n) :
    compileAll (spread n some room).rules = .error (.invalidPattern "open") := by
  have isolated : Pattern.Isolated (spread n some room).opening :=
    Pattern.everySecond_isolated (by decide) (by omega)
  have large : sizeLimit < (Expr.list (spread n some room).opening).size :=
    Pattern.list_large isolated (many.trans_eq Pattern.length_everySecond.symm)
  rw [rules, compileAll, Rule.compile_list "open" (spread n some room).filled,
    if_neg (Nat.not_le_of_lt large)]

end Delimiters

theorem build_refused {o : BuildOptions} {rules : RuleSet} {source : String} {e : RuleError}
    (failed : compileAll rules.rules = .error e) : build o rules source = .error (.rules e) := by
  unfold build scanSource RuleSet.compile
  rw [failed]

/-- A forest that is printed with the delimiters is built again, whatever the order of the rules and
the options, unless a list is too large to be compiled. Up to 79000 pairs of delimiters always fit. -/
theorem build_printed (o : BuildOptions) (d : Delimiters) (rules : RuleSet)
    (order : d.rules.Perm rules.rules) (forest : Forest d.count) (printable : forest.Printable d) :
    (d.Fits → ∃ document, build o rules (String.ofList (forest.print d)) = .ok document ∧
      Node.bareAll document.children = forest.nodes d) ∧
    (¬ d.Fits → ∃ name, d.TooLarge name ∧
      build o rules (String.ofList (forest.print d)) = .error (.rules (.invalidPattern name))) ∧
    (d.count ≤ 79000 → d.Fits) := by
  refine ⟨fun fits => ?_, fun large => ?_, Delimiters.fits_of_few⟩
  · obtain ⟨compiled, ok, same⟩ := compileAll_perm order (Delimiters.compileAll_rules fits)
    have scanned := Delimiters.Compiled.tokenize_print same forest printable
    obtain ⟨nodes, read, shape⟩ := Forest.readDocument_tokens (o := o) forest 0
    refine ⟨⟨nodes, ⟨0, (String.ofList (forest.print d)).length⟩⟩, ?_, shape⟩
    unfold build scanSource RuleSet.compile
    simp only [ok, scanned, buildNodes_of_readDocument read]
  · obtain ⟨name, above, failed⟩ := Delimiters.compileAll_unfit order large
    exact ⟨name, above, build_refused failed⟩

/-- Delimiters that mean something in patterns. -/
def Delimiters.brackets : Delimiters where
  opening := ['(', '^']
  closing := [')', '|']
  marker := '\\'
  filled := by decide
  paired := rfl
  distinct := by decide

theorem build_printed_brackets :
    ∃ document, build .strict
        ⟨[("marker", .literal "\\"), ("close", .alternatives [")", "|"]), ("open", .alternatives ["(", "^"])]⟩
        "a(\\^|)b" = .ok document ∧
      Node.bareAll document.children =
        [.leaf (.text "a" default),
          .block default (some [some "("]) (some [some ")"])
            [.leaf { type := "marker", value := "\\", loc := default },
              .block default (some [some "^"]) (some [some "|"]) []],
          .leaf (.text "b" default)] := by
  have order : Delimiters.brackets.rules.Perm
      [("marker", .literal "\\"), ("close", .alternatives [")", "|"]), ("open", .alternatives ["(", "^"])] :=
    List.reverse_perm Delimiters.brackets.rules |>.symm
  have built := build_printed .strict Delimiters.brackets ⟨_⟩ order
    (.text "a" (.block ⟨0, by decide⟩ (.marker (.block ⟨1, by decide⟩ .nil .nil)) (.text "b" .nil)))
    ⟨by decide, by simp [Delimiters.chars, Delimiters.brackets], rfl, ⟨trivial, trivial⟩,
      by decide, by simp [Delimiters.chars, Delimiters.brackets], rfl, trivial⟩
  exact built.1 (built.2.2 (by decide))

/-- More pairs of delimiters than a pattern can hold. -/
def Delimiters.wide : Delimiters := .spread 300000 (by decide) (by decide)

theorem wide_not_built : (Forest.nil : Forest Delimiters.wide.count).Printable Delimiters.wide ∧
    build {} ⟨Delimiters.wide.rules⟩ (String.ofList ((Forest.nil : Forest _).print Delimiters.wide)) =
      .error (.rules (.invalidPattern "open")) :=
  ⟨trivial, build_refused (Delimiters.compileAll_spread _ _ (Nat.le_refl _))⟩

end BlockMarkup
