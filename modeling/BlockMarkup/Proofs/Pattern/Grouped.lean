import BlockMarkup.Proofs.Pattern.Enclosed

/-!
# Patterns as bodies of groups

One step of reading does the same to a pattern on its own and to the pattern with a parenthesis behind it
(`Reading.step_enclosed`), and it leaves the groups around the pattern alone (`Reading.step_inside`). So a
pattern that can be read on its own is the body of a group that is put around it, unless it ends in a
comment (`Reading.run_enclosed`).
-/

namespace BlockMarkup.Pattern.Reader

variable {hides : Prop} {inner outer rest : List Char} {c : Char}

/-! ### What opens a group -/

theorem groupName_append {label : List Char} (free : '>' ∉ label) (after : List Char) :
    groupName (label ++ '>' :: after) =
      match label with
      | [] => none
      | c :: more => if isNameStart c && more.all isNameChar then some (label, after) else none := by
  have passes : ∀ c ∈ label, (c != '>') = true := by
    intro c mem
    simpa using fun same : c = '>' => free (same ▸ mem)
  unfold groupName
  rw [List.takeWhile_append_of_pos passes, List.dropWhile_append_of_pos passes]
  cases label <;> simp

theorem carries_groupName : Carries groupName := by
  refine carries_of_append rfl ?_
  intro cs name rest read
  by_cases shut : '>' ∈ cs
  · obtain ⟨label, after, rfl, free⟩ := List.eq_append_cons_of_mem shut
    rw [groupName_append free] at read
    rw [List.append_assoc, List.cons_append, groupName_append free]
    split at read
    next => cases read
    next =>
      split at read
      next valid =>
        cases read
        refine ⟨if_pos valid, ?_⟩
        exact List.Subset.trans (List.subset_cons_self _ _) (List.subset_append_right _ _)
      next => cases read
  · have passes : ∀ c ∈ cs, (c != '>') = true := by
      intro c mem
      simpa using fun same : c = '>' => shut (same ▸ mem)
    simp [groupName, List.dropWhile_eq_nil_iff.mpr passes] at read

theorem carries_settings (negated : Bool) (seen : List FlagSetting) (lastIsSign : Bool) :
    Carries (settings negated seen lastIsSign) := by
  refine carries_of_append rfl ?_
  intro cs items rest read
  fun_induction settings negated seen lastIsSign cs with
  | case1 => cases read
  | case2 => cases read
  | case3 negated seen lastIsSign c rest finished filled =>
    cases read
    simp [settings, finished, filled]
  | case4 => cases read
  | case5 negated seen lastIsSign cs positive ends ih =>
    obtain ⟨same, left⟩ := ih read
    simpa [settings, positive, same] using List.subset_cons_of_subset _ left
  | case6 => cases read
  | case7 negated seen lastIsSign c cs ends plain flag letter fresh ih =>
    obtain ⟨same, left⟩ := ih read
    simpa [settings, ends, plain, letter, fresh, same] using List.subset_cons_of_subset _ left
  | case8 => cases read

/-- What a group starts with when it starts with flags. -/
theorem settings_head {negated lastIsSign : Bool} {seen items : List FlagSetting} {cs : List Char}
    (read : settings negated seen lastIsSign cs = some (items, rest)) :
    ∃ c after, cs = c :: after ∧ c ≠ '=' ∧ c ≠ '!' ∧ c ≠ '<' ∧ c ≠ 'P' := by
  cases cs with
  | nil => cases read
  | cons c after =>
    refine ⟨c, after, rfl, ?_, ?_, ?_, ?_⟩ <;> rintro rfl <;> cases read

namespace Reading

variable {r s : Reading} {g : OpenGroup}

theorem openNamed?_enclosed (enclosed : Enclosed hides inner outer)
    (read : r.openNamed? inner = some (s, rest)) :
    ∃ rest', r.openNamed? outer = some (s, rest') ∧ Enclosed hides rest rest' := by
  obtain ⟨⟨name, after⟩, found, read⟩ := Option.bind_eq_some_iff.mp read
  obtain ⟨after', found', behind⟩ := carries_groupName enclosed found
  dsimp only at read
  split at read
  next => cases read
  next fresh =>
    cases read
    refine ⟨after', ?_, behind⟩
    unfold openNamed?
    rw [found']
    exact if_neg fresh

/-- What follows the opening parenthesis of a group that starts with flags. -/
def openFlags? (r : Reading) (cs : List Char) : Option (Reading × List Char) :=
  match settings false [] false cs with
  | some (items, ')' :: after) =>
    if items.isEmpty then none
    else some ({ r.push (.settings items) with verbose := verboseAfter items r.verbose }, after)
  | some (items, _ :: after) =>
    some (r.openGroup (.plain items) (verboseAfter items r.verbose), after)
  | _ => none

theorem paren?_named {cs : List Char} (settled : settle r.verbose cs = '?' :: '<' :: c :: rest)
    (ahead : c ≠ '=') (absent : c ≠ '!') : r.paren? cs = r.openNamed? (c :: rest) := by
  unfold paren?
  rw [settled]
  simp [ahead, absent]

theorem paren?_flags {cs : List Char} (settled : settle r.verbose cs = '?' :: c :: rest)
    (ahead : c ≠ '=') (absent : c ≠ '!') (angle : c ≠ '<') (letter : c ≠ 'P') :
    r.paren? cs = r.openFlags? (c :: rest) := by
  unfold paren?
  rw [settled]
  simp only [List.cons.injEq, ahead, absent, angle, letter, false_and, imp_self, implies_true]
  rfl

theorem paren?_plain {cs : List Char} (plain : (settle r.verbose cs).head? ≠ some '?') :
    r.paren? cs = some (r.openCapture, settle r.verbose cs) := by
  unfold paren?
  split <;> simp_all

theorem openFlags?_head {cs : List Char} (read : r.openFlags? cs = some (s, rest)) :
    ∃ c after, cs = c :: after ∧ c ≠ '=' ∧ c ≠ '!' ∧ c ≠ '<' ∧ c ≠ 'P' := by
  cases flags : settings false [] false cs with
  | none => simp [openFlags?, flags] at read
  | some found => exact settings_head flags

theorem openFlags?_enclosed (enclosed : Enclosed hides inner outer)
    (read : r.openFlags? inner = some (s, rest)) :
    ∃ rest', r.openFlags? outer = some (s, rest') ∧ Enclosed hides rest rest' := by
  unfold openFlags? at read ⊢
  split at read
  next items after found =>
    obtain ⟨body, found', behind⟩ := carries_settings _ _ _ enclosed found
    obtain ⟨after', rfl, tail⟩ := behind.of_cons
    rw [found']
    split at read
    next => cases read
    next some =>
      cases read
      exact ⟨after', by simp [some], tail⟩
  next items c after _ found =>
    obtain ⟨body, found', behind⟩ := carries_settings _ _ _ enclosed found
    obtain ⟨after', rfl, tail⟩ := behind.of_cons
    cases read
    exact ⟨after', by simp [found'], tail⟩
  next => cases read

theorem paren?_enclosed (enclosed : Enclosed hides inner outer) (read : r.paren? inner = some (s, rest)) :
    ∃ rest', r.paren? outer = some (s, rest') ∧ Enclosed hides rest rest' := by
  have start := enclosed.settle r.verbose
  by_cases flagged : (settle r.verbose inner).head? = some '?'
  · obtain ⟨kind, settled⟩ := List.head?_eq_some_iff.mp flagged
    obtain ⟨kind', settled', -, behind⟩ := settle_cons r.verbose enclosed settled
    unfold paren? at read
    rw [settled] at read
    split at read
    case h_1 | h_2 | h_3 | h_4 => cases read
    case h_5 label same =>
      cases same
      obtain ⟨kind', rfl, ahead⟩ := behind.of_cons
      obtain ⟨label', rfl, after⟩ := ahead.of_cons
      obtain ⟨rest', found, tail⟩ := openNamed?_enclosed after read
      exact ⟨rest', by unfold paren?; rw [settled']; exact found, tail⟩
    case h_6 label ahead absent same =>
      cases same
      obtain ⟨label', rfl, after⟩ := behind.of_cons
      obtain ⟨rest', found, tail⟩ := openNamed?_enclosed after read
      cases label with
      | nil => cases read
      | cons c name =>
        obtain ⟨name', rfl, -⟩ := after.of_cons
        have ahead : c ≠ '=' := fun same => ahead name (same ▸ rfl)
        have absent : c ≠ '!' := fun same => absent name (same ▸ rfl)
        exact ⟨rest', (paren?_named settled' ahead absent).trans found, tail⟩
    case h_7 _ _ _ _ _ _ _ same =>
      cases same
      change r.openFlags? kind = some (s, rest) at read
      obtain ⟨c, letters, rfl, ahead, absent, angle, letter⟩ := openFlags?_head read
      obtain ⟨rest', found, tail⟩ := openFlags?_enclosed behind read
      obtain ⟨letters', rfl, -⟩ := behind.of_cons
      exact ⟨rest', (paren?_flags settled' ahead absent angle letter).trans found, tail⟩
    case h_8 _ _ _ _ _ _ other => exact absurd rfl (other kind)
  · rw [paren?_plain flagged] at read
    cases read
    have flagged' : (settle r.verbose outer).head? ≠ some '?' := start.head_ne (by decide) flagged
    exact ⟨_, paren?_plain flagged', start⟩

/-! ### Repetitions -/

theorem operator?_enclosed {least : Nat} {most : Option Nat} (enclosed : Enclosed hides inner outer)
    (read : r.operator? least most inner = some (s, rest)) :
    ∃ rest', r.operator? least most outer = some (s, rest') ∧
      Enclosed hides rest rest' := by
  have greedy : ∀ {r : Reading} {cs : List Char}, cs.head? ≠ some '?' →
      r.operator? least most cs = (r.repeat? least most true).map (·, cs) := by
    intro r cs other
    unfold operator?
    split <;> simp_all
  by_cases lazy : inner.head? = some '?'
  · obtain ⟨after, rfl⟩ := List.head?_eq_some_iff.mp lazy
    obtain ⟨after', rfl, behind⟩ := enclosed.of_cons
    obtain ⟨t, found, same⟩ := Option.map_eq_some_iff.mp read
    cases same
    exact ⟨after', by simp [operator?, found], behind⟩
  · rw [greedy lazy] at read
    rw [greedy (enclosed.head_ne (by decide) lazy)]
    obtain ⟨t, found, same⟩ := Option.map_eq_some_iff.mp read
    cases same
    exact ⟨outer, by rw [found]; rfl, enclosed⟩

theorem closeCount?_enclosed {least : Nat} {most : Option Nat} (enclosed : Enclosed hides inner outer)
    (read : r.closeCount? least most inner = some (s, rest)) :
    ∃ rest', r.closeCount? least most outer = some (s, rest') ∧
      Enclosed hides rest rest' := by
  unfold closeCount? at read
  split at read
  next after =>
    obtain ⟨after', rfl, behind⟩ := enclosed.of_cons
    split at read
    next ordered =>
      obtain ⟨rest', found, tail⟩ := operator?_enclosed (behind.settle r.verbose) read
      exact ⟨rest', (if_pos ordered).trans found, tail⟩
    next => cases read
  next => cases read

/-- The upper bound of a counted repetition, after the comma. -/
def upper? (r : Reading) (least : Nat) (cs : List Char) : Option (Reading × List Char) :=
  if cs.head? = some '}' then r.closeCount? least none cs
  else
    match decimal? r.verbose cs with
    | (some most, rest) => r.closeCount? least (some most) rest
    | (none, _) => none

theorem upper?_enclosed {least : Nat} (enclosed : Enclosed hides inner outer)
    (read : r.upper? least inner = some (s, rest)) :
    ∃ rest', r.upper? least outer = some (s, rest') ∧ Enclosed hides rest rest' := by
  obtain ⟨most, after, after', left, right, behind⟩ := decimal_enclosed r.verbose enclosed
  unfold upper? at read ⊢
  rw [left] at read
  rw [right]
  simp only [enclosed.head_iff (c := '}') (by decide)]
  split at read
  next unbounded =>
    rw [if_pos unbounded]
    exact closeCount?_enclosed enclosed read
  next bounded =>
    rw [if_neg bounded]
    cases most with
    | none => cases read
    | some most => exact closeCount?_enclosed behind read

theorem counted?_eq (cs : List Char) :
    r.counted? cs =
      match decimal? r.verbose (settle r.verbose cs) with
      | (some least, after) =>
        if after.head? = some ',' then r.upper? least (settle r.verbose after.tail)
        else r.closeCount? least (some least) after
      | (none, _) => none := by
  unfold counted?
  generalize decimal? r.verbose (settle r.verbose cs) = found
  obtain ⟨_ | least, after⟩ := found
  · rfl
  · by_cases comma : after.head? = some ','
    · obtain ⟨rest, rfl⟩ := List.head?_eq_some_iff.mp comma
      simp only [List.head?_cons, if_true, List.tail_cons, upper?]
      split
      next shut => simp [shut]
      next bounded =>
        refine (if_neg fun shut => ?_).symm
        obtain ⟨tail, same⟩ := List.head?_eq_some_iff.mp shut
        exact bounded tail same
    · cases after with
      | nil => rfl
      | cons c rest => simp_all

theorem counted?_enclosed (enclosed : Enclosed hides inner outer) (read : r.counted? inner = some (s, rest)) :
    ∃ rest', r.counted? outer = some (s, rest') ∧ Enclosed hides rest rest' := by
  obtain ⟨least, after, after', left, right, behind⟩ :=
    decimal_enclosed r.verbose (enclosed.settle r.verbose)
  rw [counted?_eq, left] at read
  rw [counted?_eq, right]
  cases least with
  | none => cases read
  | some least =>
    dsimp only at read ⊢
    simp only [behind.head_iff (c := ',') (by decide)]
    split at read
    next comma =>
      rw [if_pos comma]
      exact upper?_enclosed ((behind.tail comma).settle r.verbose) read
    next single =>
      rw [if_neg single]
      exact closeCount?_enclosed behind read

/-! ### Steps -/

theorem step_enclosed (enclosed : Enclosed hides inner outer) (read : r.step c inner = some (s, rest)) :
    ∃ rest', r.step c outer = some (s, rest') ∧ Enclosed hides rest rest' := by
  dsimp only [step] at read ⊢
  split at read
  case h_1 => exact paren?_enclosed enclosed read
  case h_2 =>
    obtain ⟨t, closed, same⟩ := Option.map_eq_some_iff.mp read
    cases same
    exact ⟨outer, by rw [closed]; rfl, enclosed⟩
  case h_4 =>
    obtain ⟨⟨item, after⟩, found, same⟩ := Option.map_eq_some_iff.mp read
    cases same
    obtain ⟨after', found', behind⟩ := carries_bracketClass enclosed found
    exact ⟨after', by simp only [found']; rfl, behind⟩
  case h_5 => exact operator?_enclosed enclosed read
  case h_6 => exact operator?_enclosed enclosed read
  case h_7 => exact operator?_enclosed enclosed read
  case h_8 => exact counted?_enclosed enclosed read
  case h_9 =>
    obtain ⟨⟨item, after⟩, found, same⟩ := Option.map_eq_some_iff.mp read
    cases same
    obtain ⟨after', found', behind⟩ := carries_escaped enclosed found
    exact ⟨after', by simp only [found']; rfl, behind⟩
  all_goals
    cases read
    exact ⟨outer, by simp_all, enclosed⟩

/-! ### A group around -/

/-- The same state of reading with one more group around it. -/
def inside (r : Reading) (g : OpenGroup) : Reading := { r with outer := r.outer ++ [g] }

theorem repeat?_inside {least : Nat} {most : Option Nat} {greedy : Bool}
    (read : r.repeat? least most greedy = some s) :
    (r.inside g).repeat? least most greedy = some (s.inside g) := by
  unfold repeat? at read ⊢
  dsimp only [inside]
  split at read
  case h_4 =>
    cases read
    rfl
  all_goals cases read

theorem operator?_inside {least : Nat} {most : Option Nat} {cs : List Char}
    (read : r.operator? least most cs = some (s, rest)) :
    (r.inside g).operator? least most cs = some (s.inside g, rest) := by
  unfold operator? at read ⊢
  split at read
  all_goals
    obtain ⟨t, found, same⟩ := Option.map_eq_some_iff.mp read
    cases same
    simp [repeat?_inside found]

theorem closeCount?_inside {least : Nat} {most : Option Nat} {cs : List Char}
    (read : r.closeCount? least most cs = some (s, rest)) :
    (r.inside g).closeCount? least most cs = some (s.inside g, rest) := by
  unfold closeCount? at read ⊢
  split at read
  next =>
    split at read
    next ordered => exact (if_pos ordered).trans (operator?_inside read)
    next => cases read
  next => cases read

theorem counted?_inside {cs : List Char} (read : r.counted? cs = some (s, rest)) :
    (r.inside g).counted? cs = some (s.inside g, rest) := by
  unfold counted? at read ⊢
  dsimp only [inside]
  split at read
  next =>
    split at read
    next => exact closeCount?_inside read
    next =>
      split at read
      next => exact closeCount?_inside read
      next => cases read
  next => exact closeCount?_inside read
  next => cases read

theorem openNamed?_inside {cs : List Char} (read : r.openNamed? cs = some (s, rest)) :
    (r.inside g).openNamed? cs = some (s.inside g, rest) := by
  unfold openNamed? at read ⊢
  obtain ⟨⟨name, after⟩, found, read⟩ := Option.bind_eq_some_iff.mp read
  dsimp only at read
  split at read
  next => cases read
  next fresh =>
    cases read
    rw [found]
    exact if_neg fresh

theorem paren?_inside {cs : List Char} (read : r.paren? cs = some (s, rest)) :
    (r.inside g).paren? cs = some (s.inside g, rest) := by
  unfold paren? at read ⊢
  dsimp only [inside]
  split at read
  case h_1 | h_2 | h_3 | h_4 => cases read
  case h_5 | h_6 => exact openNamed?_inside read
  case h_7 =>
    split at read
    next =>
      split at read
      next => cases read
      next filled =>
        cases read
        exact if_neg filled
    next =>
      cases read
      rfl
    next => cases read
  case h_8 =>
    cases read
    rfl

theorem closeGroup?_inside (read : r.closeGroup? = some s) :
    (r.inside g).closeGroup? = some (s.inside g) := by
  unfold closeGroup? at read
  split at read
  next => cases read
  next group more around =>
    cases read
    simp [closeGroup?, inside, around]

/-- A step does not look at the groups around, except for the one that it closes. -/
theorem step_inside {cs : List Char} (read : r.step c cs = some (s, rest)) :
    (r.inside g).step c cs = some (s.inside g, rest) := by
  dsimp only [step] at read ⊢
  split at read
  case h_1 => exact paren?_inside read
  case h_2 =>
    obtain ⟨t, closed, same⟩ := Option.map_eq_some_iff.mp read
    cases same
    rw [closeGroup?_inside closed]
    rfl
  case h_5 | h_6 | h_7 => exact operator?_inside read
  case h_8 => exact counted?_inside read
  case h_4 | h_9 =>
    obtain ⟨⟨item, after⟩, found, same⟩ := Option.map_eq_some_iff.mp read
    cases same
    simp only [inside, found]
    rfl
  all_goals
    cases read
    simp_all
    rfl

theorem run_nil (m : Nat) (r : Reading) : run m r [] = r.finish? := by
  have nothing : settle r.verbose [] = [] := by unfold settle; split <;> rfl
  cases m <;> simp [run, nothing]

/-- Where a pattern on its own ends, the parenthesis closes the group and has no place without it, or a
comment has hidden it. -/
theorem run_closing (m k : Nat) (g : OpenGroup) {ast : Ast}
    (ended : Enclosed hides [] (settle r.verbose outer)) (alone : r.finish? = some ast) :
    (run (m + 1) r outer = none ∧
        run (k + 1) (r.inside g) outer = some (branchesOf g.branches (.group g.kind ast :: g.items))) ∨
      (hides ∧ run (m + 1) r outer = some ast ∧ run (k + 1) (r.inside g) outer = none) := by
  unfold finish? at alone
  split at alone
  next closed =>
    cases alone
    have top : r.outer = [] := List.isEmpty_iff.mp closed
    have around : settle (r.inside g).verbose outer = settle r.verbose outer := rfl
    unfold run
    rw [around]
    rcases ended.of_nil with shut | ⟨hidden, comment⟩
    · left
      simp only [shut, step, closeGroup?, inside, top, List.nil_append, Option.map_some,
        Option.map_none, Option.bind_some, Option.bind_none, run_nil, finish?, List.isEmpty_nil, if_true,
        and_self]
    · right
      simp [hidden, comment, finish?, inside, top]
  next => cases alone

/-- A pattern that can be read on its own is, in a group, the body of that group, unless it ends in a
comment. -/
theorem run_enclosed {n m k : Nat} (g : OpenGroup) {ast : Ast} (enclosed : Enclosed hides inner outer)
    (enough : n ≤ m) (enough' : n ≤ k) (alone : run n r inner = some ast) :
    (run (m + 1) r outer = none ∧
        run (k + 1) (r.inside g) outer = some (branchesOf g.branches (.group g.kind ast :: g.items))) ∨
      (hides ∧ run (m + 1) r outer = some ast ∧ run (k + 1) (r.inside g) outer = none) := by
  induction n generalizing m k r inner outer with
  | zero =>
    unfold run at alone
    split at alone
    next ended =>
      have start := enclosed.settle r.verbose
      rw [List.isEmpty_iff.mp ended] at start
      exact run_closing m k g start alone
    next => cases alone
  | succ n ih =>
    unfold run at alone
    split at alone
    next ended =>
      have start := enclosed.settle r.verbose
      rw [ended] at start
      exact run_closing m k g start alone
    next c after settled =>
      obtain ⟨after', settled', -, behind⟩ := settle_cons r.verbose enclosed settled
      obtain ⟨⟨s, rest⟩, stepped, alone⟩ := Option.bind_eq_some_iff.mp alone
      obtain ⟨rest', stepped', tail⟩ := step_enclosed behind stepped
      have around : settle (r.inside g).verbose outer = c :: after' := settled'
      obtain ⟨m, rfl⟩ : ∃ i, m = i + 1 := ⟨m - 1, by omega⟩
      obtain ⟨k, rfl⟩ : ∃ i, k = i + 1 := ⟨k - 1, by omega⟩
      rw [run, run, settled', around]
      dsimp only
      rw [stepped', step_inside stepped']
      exact ih tail (Nat.le_of_succ_le_succ enough) (Nat.le_of_succ_le_succ enough') alone

end Reading

end BlockMarkup.Pattern.Reader
