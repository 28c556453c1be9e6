import BlockMarkup.Tree.Build

/-!
# Steps and runs of the tree machine

`Takes` says what one token does to the open blocks. What every token keeps, a run keeps
(`run_invariant`).
-/

namespace BlockMarkup

/-- Where a block lies when it has got one more child. -/
def Location.withChild (o : BuildOptions) (loc : Location) (child : Node) : Location :=
  match o.endOffset with
  | .lastText => loc
  | .lastChild => { loc with stop := max loc.stop child.loc.stop }

/-- Where the block of an opening token lies before it has children. -/
def blockStart (opening : Token) (next : Option Token) : Location :=
  match next with
  | some next => next.loc
  | none => .emptyAt opening.loc.stop

def opens (tokens : List Token) : Nat := tokens.countP (·.role = .opening)

def closes (tokens : List Token) : Nat := tokens.countP (·.role = .closing)

namespace Builder

variable {o : BuildOptions} {done : List Node} {stack : List OpenBlock} {top : OpenBlock}

/-! ### Attaching -/

theorem attach_document (n : Node) : attach o ⟨done, []⟩ n = ⟨n :: done, []⟩ := rfl

theorem attach_block (n : Node) :
    attach o ⟨done, top :: stack⟩ n =
      ⟨done, { top with loc := top.loc.withChild o n, children := n :: top.children } :: stack⟩ := by
  cases ends : o.endOffset <;> simp [attach, Location.withChild, ends]

theorem setStop_document (stop : Nat) : setStop stop ⟨done, []⟩ = ⟨done, []⟩ := rfl

theorem setStop_block (stop : Nat) :
    setStop stop ⟨done, top :: stack⟩ = ⟨done, { top with loc := { top.loc with stop } } :: stack⟩ :=
  rfl

theorem attach_depth (b : Builder) (n : Node) : (b.attach o n).stack.length = b.stack.length := by
  obtain ⟨done, _ | ⟨top, stack⟩⟩ := b
  · rfl
  · rw [attach_block]
    rfl

theorem setStop_depth (stop : Nat) (b : Builder) :
    (b.setStop stop).stack.length = b.stack.length := by
  obtain ⟨done, _ | ⟨top, stack⟩⟩ := b <;> rfl

theorem finish_document : finish o ⟨done, []⟩ = done.reverse := by
  rw [finish, unwind]

theorem finish_block :
    finish o ⟨done, top :: stack⟩ = finish o (attach o ⟨done, stack⟩ (top.close none)) := by
  cases stack with
  | nil => simp [finish, attach, unwind]
  | cons parent stack =>
    rw [attach_block, finish, finish, unwind]
    rfl

/-! ### One token -/

theorem openBlock_start (t : Token) (next : Option Token) :
    openBlock ⟨done, stack⟩ t next =
      ⟨done, ⟨blockStart t next, t.params, Pairing.ofToken? t, []⟩ :: stack⟩ := rfl

/-- What a token that can stand where it is does. -/
inductive Takes (o : BuildOptions) (t : Token) (next : Option Token) : Builder → Builder → Prop where
  | text {b : Builder} (role : t.role = .text) :
      Takes o t next b ((b.setStop t.loc.stop).attach o (.leaf t))
  | marker {b : Builder} (role : t.role = .marker) : Takes o t next b (b.attach o (.leaf t))
  | opening {b : Builder} (role : t.role = .opening) : Takes o t next b (b.openBlock t next)
  | closing {done : List Node} {stack : List OpenBlock} {top : OpenBlock}
      (role : t.role = .closing) (fits : mismatch? o top.pairing t = none) :
      Takes o t next ⟨done, top :: stack⟩ (attach o ⟨done, stack⟩ (top.close t.params))

theorem Takes.step {b after : Builder} {t : Token} {next : Option Token}
    (takes : Takes o t next b after) : b.step o t next = .ok after := by
  cases takes with
  | text role => simp only [Builder.step, role]
  | marker role => simp only [Builder.step, role]
  | opening role => simp only [Builder.step, role]
  | closing role fits =>
    simp only [Builder.step, role, fits]
    rfl

theorem takes_of_step {b after : Builder} {t : Token} {next : Option Token}
    (taken : b.step o t next = .ok after) : Takes o t next b after := by
  unfold Builder.step at taken
  split at taken
  next role => cases taken; exact .text role
  next role => cases taken; exact .marker role
  next role => cases taken; exact .opening role
  next role =>
    obtain ⟨done, _ | ⟨top, stack⟩⟩ := b
    · cases taken
    · dsimp only at taken
      split at taken
      next => cases taken
      next fits => cases taken; exact .closing role fits
  next => split at taken <;> cases taken

/-! ### A run -/

theorem run_cons (b : Builder) (t : Token) (rest : List Token) :
    b.run o (t :: rest) = (b.step o t rest.head?).bind (·.run o rest) := by
  rw [run]
  cases b.step o t rest.head? <;> rfl

/-- What holds of the tokens seen and the machine, if every token keeps it, holds after a run. -/
theorem run_invariant (Holds : List Token → Builder → Prop)
    (kept : ∀ {seen : List Token} {t : Token} {next : Option Token} {b after : Builder},
      Takes o t next b after → Holds seen b → Holds (seen ++ [t]) after)
    {seen tokens : List Token} {b after : Builder}
    (before : Holds seen b) (ran : b.run o tokens = .ok after) : Holds (seen ++ tokens) after := by
  induction tokens generalizing seen b with
  | nil =>
    rw [run] at ran
    cases ran
    rwa [List.append_nil]
  | cons t rest ih =>
    rw [run] at ran
    cases taken : b.step o t rest.head? with
    | error e => rw [taken] at ran; cases ran
    | ok middle =>
      rw [taken] at ran
      rw [List.append_cons]
      exact ih (kept (takes_of_step taken) before) ran

theorem takes_depth {seen : List Token} {t : Token} {next : Option Token} {b after : Builder}
    (takes : Takes o t next b after) (counted : b.stack.length + closes seen = opens seen) :
    after.stack.length + closes (seen ++ [t]) = opens (seen ++ [t]) := by
  rw [opens, closes, List.countP_append, List.countP_append, ← opens, ← closes]
  cases takes with
  | text role => simp [attach_depth, setStop_depth, counted, role]
  | marker role => simp [attach_depth, counted, role]
  | opening role =>
    simp only [openBlock, List.length_cons, List.countP_singleton, role]
    simp
    omega
  | closing role fits =>
    simp only [List.length_cons] at counted
    simp [attach_depth, role]
    omega

/-- The open blocks are counted by the tokens that opened them, less those that closed one. -/
theorem run_depth {tokens : List Token} {b : Builder} (ran : empty.run o tokens = .ok b) :
    b.stack.length + closes tokens = opens tokens := by
  have none : empty.stack.length + closes [] = opens [] := rfl
  exact run_invariant (fun seen b => b.stack.length + closes seen = opens seen) takes_depth none ran

end Builder

theorem buildNodes_run_finish (o : BuildOptions) (tokens : List Token) :
    buildNodes o tokens = (Builder.empty.run o tokens).bind (.ok <| ·.finish o) := by
  unfold buildNodes
  cases Builder.empty.run o tokens <;> rfl

end BlockMarkup
