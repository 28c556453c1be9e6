import Mathlib.Data.List.Forall2
import BlockMarkup.Proofs.Tree.Machine

/-!
# What the end offset changes

Where every child moves the end of its block, the tree is the one that text alone makes, but that
blocks may end further on (`buildNodes_stretched`).
-/

namespace BlockMarkup

/-- The second node is the first one, but that blocks may end further on. -/
inductive Node.Stretched : Node → Node → Prop where
  | leaf (t : Token) : Stretched (.leaf t) (.leaf t)
  | block {loc loc' : Location} {opening closing : Option Params} {children children' : List Node}
      (start : loc.start = loc'.start) (stop : loc.stop ≤ loc'.stop)
      (inside : List.Forall₂ Stretched children children') :
      Stretched (.block loc opening closing children) (.block loc' opening closing children')

/-- Both fail with one error, or both succeed and the results are related. -/
inductive Alike {ε α β : Type} (related : α → β → Prop) : Except ε α → Except ε β → Prop where
  | error (e : ε) : Alike related (.error e) (.error e)
  | ok {a : α} {b : β} (results : related a b) : Alike related (.ok a) (.ok b)

theorem Alike.bind {ε α β γ δ : Type} {related : α → β → Prop} {later : γ → δ → Prop}
    {x : Except ε α} {y : Except ε β} {f : α → Except ε γ} {g : β → Except ε δ}
    (alike : Alike related x y) (keeps : ∀ {a b}, related a b → Alike later (f a) (g b)) :
    Alike later (x.bind f) (y.bind g) := by
  cases alike with
  | error e => exact .error e
  | ok results => exact keeps results

/-! ### Half-built trees -/

structure OpenBlock.Stretched (b b' : OpenBlock) : Prop where
  start : b.loc.start = b'.loc.start
  stop : b.loc.stop ≤ b'.loc.stop
  opening : b.opening = b'.opening
  pairing : b.pairing = b'.pairing
  children : List.Forall₂ Node.Stretched b.children b'.children

theorem OpenBlock.Stretched.close {b b' : OpenBlock} (stretched : b.Stretched b')
    (closing : Option Params) : (b.close closing).Stretched (b'.close closing) := by
  unfold OpenBlock.close
  rw [stretched.opening]
  exact .block stretched.start stretched.stop (List.rel_reverse stretched.children)

structure Builder.Stretched (b b' : Builder) : Prop where
  done : List.Forall₂ Node.Stretched b.done b'.done
  stack : List.Forall₂ OpenBlock.Stretched b.stack b'.stack

theorem Location.stop_le_withChild (matching : CloseMatching) {loc loc' : Location}
    (stop : loc.stop ≤ loc'.stop) (n n' : Node) :
    (loc.withChild ⟨matching, .lastText⟩ n).stop ≤ (loc'.withChild ⟨matching, .lastChild⟩ n').stop :=
  Nat.le_trans stop (Nat.le_max_left ..)

namespace Builder

variable {matching : CloseMatching} {b b' : Builder} {t : Token} {next : Option Token}

theorem Stretched.attach (stretched : b.Stretched b') {n n' : Node} (nodes : n.Stretched n') :
    (b.attach ⟨matching, .lastText⟩ n).Stretched (b'.attach ⟨matching, .lastChild⟩ n') := by
  obtain ⟨done, stack⟩ := b
  obtain ⟨done', stack'⟩ := b'
  obtain ⟨ended, opened⟩ := stretched
  cases opened with
  | nil => exact ⟨.cons nodes ended, .nil⟩
  | cons top rest =>
    rw [attach_block, attach_block]
    refine ⟨ended, .cons ?_ rest⟩
    exact { top with
      stop := Location.stop_le_withChild matching top.stop n n'
      children := .cons nodes top.children }

/-- Text puts the ends of both blocks in one place, wherever they were. -/
theorem Stretched.setStop (stretched : b.Stretched b') (stop : Nat) :
    (b.setStop stop).Stretched (b'.setStop stop) := by
  obtain ⟨done, stack⟩ := b
  obtain ⟨done', stack'⟩ := b'
  obtain ⟨ended, opened⟩ := stretched
  cases opened with
  | nil => exact ⟨ended, .nil⟩
  | cons top rest =>
    rw [setStop_block, setStop_block]
    exact ⟨ended, .cons { top with stop := Nat.le_refl _ } rest⟩

theorem Stretched.openBlock (stretched : b.Stretched b') (t : Token) (next : Option Token) :
    (b.openBlock t next).Stretched (b'.openBlock t next) := by
  rw [openBlock_start, openBlock_start]
  exact ⟨stretched.done, .cons ⟨rfl, Nat.le_refl _, rfl, rfl, .nil⟩ stretched.stack⟩

/-! ### Two machines side by side -/

theorem Stretched.step (stretched : b.Stretched b') :
    Alike Stretched (b.step ⟨matching, .lastText⟩ t next) (b'.step ⟨matching, .lastChild⟩ t next) := by
  unfold Builder.step
  cases t.role with
  | text => exact .ok ((stretched.setStop _).attach (.leaf t))
  | marker => exact .ok (stretched.attach (.leaf t))
  | opening => exact .ok (stretched.openBlock t next)
  | closing =>
    obtain ⟨done, stack⟩ := b
    obtain ⟨done', stack'⟩ := b'
    obtain ⟨ended, opened⟩ := stretched
    cases opened with
    | nil => exact .error _
    | @cons top top' stack stack' pair rest =>
      -- Whether the token fits depends on the pairing of the block alone, which is the same in both.
      have fits : mismatch? ⟨matching, .lastText⟩ top.pairing t =
          mismatch? ⟨matching, .lastChild⟩ top'.pairing t := by rw [pair.pairing]; rfl
      dsimp only
      rw [fits]
      have outer : Stretched ⟨done, stack⟩ ⟨done', stack'⟩ := ⟨ended, rest⟩
      split
      next => exact .error _
      next => exact .ok (outer.attach (pair.close t.params))
  | other =>
    obtain ⟨done, stack⟩ := b
    obtain ⟨done', stack'⟩ := b'
    obtain ⟨ended, opened⟩ := stretched
    cases opened with
    | nil => exact .error _
    | cons => exact .error _

theorem Stretched.run (stretched : b.Stretched b') (tokens : List Token) :
    Alike Stretched (b.run ⟨matching, .lastText⟩ tokens) (b'.run ⟨matching, .lastChild⟩ tokens) := by
  induction tokens generalizing b b' with
  | nil => exact .ok stretched
  | cons t rest ih =>
    rw [run_cons, run_cons]
    exact stretched.step.bind ih

theorem Stretched.finish (stretched : b.Stretched b') :
    List.Forall₂ Node.Stretched (b.finish ⟨matching, .lastText⟩) (b'.finish ⟨matching, .lastChild⟩) := by
  -- On the depth, because the parent of a block that ends is changed by it.
  induction depth : b.stack.length generalizing b b' with
  | zero =>
    obtain ⟨done, stack⟩ := b
    obtain ⟨done', stack'⟩ := b'
    obtain ⟨ended, opened⟩ := stretched
    cases opened with
    | nil =>
      rw [finish_document, finish_document]
      exact List.rel_reverse ended
    | cons => cases depth
  | succ n ih =>
    obtain ⟨done, stack⟩ := b
    obtain ⟨done', stack'⟩ := b'
    obtain ⟨ended, opened⟩ := stretched
    cases opened with
    | nil => cases depth
    | @cons top top' stack stack' pair rest =>
      have outer : Stretched ⟨done, stack⟩ ⟨done', stack'⟩ := ⟨ended, rest⟩
      rw [finish_block, finish_block]
      refine ih (outer.attach (pair.close none)) ?_
      rw [attach_depth]
      exact Nat.succ.inj depth

end Builder

/-! ### Building -/

/-- With either end offset the tokens are refused with the same error, or the two trees are the same but
for the ends of blocks. No block ends sooner where every child moves its end. -/
theorem buildNodes_stretched (matching : CloseMatching) (tokens : List Token) :
    Alike (List.Forall₂ Node.Stretched) (buildNodes ⟨matching, .lastText⟩ tokens)
      (buildNodes ⟨matching, .lastChild⟩ tokens) := by
  have start : Builder.empty.Stretched Builder.empty := ⟨.nil, .nil⟩
  rw [buildNodes_run_finish, buildNodes_run_finish]
  exact (start.run tokens).bind fun ended => .ok ended.finish

end BlockMarkup
