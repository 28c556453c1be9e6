import BlockMarkup.Proofs.Tree.Machine

/-!
# Trees read back as tokens

A walk through a tree meets its leaves and the two ends of its blocks. On the nodes that were built
from tokens it meets exactly these tokens, and then the missing ends of the blocks that nothing
closed (`buildNodes_flatten`).
-/

namespace BlockMarkup

inductive Entry where
  | leaf (token : Token)
  | opening (params : Option Params)
  | closing (params : Option Params)
  deriving DecidableEq, Repr

/-- What is left of a token in the tree. -/
def Entry.ofToken (t : Token) : Entry :=
  match t.role with
  | .opening => .opening t.params
  | .closing => .closing t.params
  | .text | .marker | .other => .leaf t

namespace Node

mutual

/-- What a walk meets in a node, from left to right. -/
def flatten : Node → List Entry
  | leaf token => [.leaf token]
  | block _ opening closing children =>
    .opening opening :: flattenAll children ++ [.closing closing]

def flattenAll : List Node → List Entry
  | [] => []
  | n :: rest => n.flatten ++ flattenAll rest

end

theorem flattenAll_append (a b : List Node) :
    flattenAll (a ++ b) = flattenAll a ++ flattenAll b := by
  induction a with
  | nil => rfl
  | cons n rest ih => simp [flattenAll, ih]

theorem flattenAll_single (n : Node) : flattenAll [n] = n.flatten := by
  simp [flattenAll]

end Node

/-! ### Half-built trees -/

def OpenBlock.entries (b : OpenBlock) : List Entry :=
  .opening b.opening :: Node.flattenAll b.children.reverse

theorem OpenBlock.close_flatten (b : OpenBlock) (closing : Option Params) :
    (b.close closing).flatten = b.entries ++ [.closing closing] := by
  rw [close, Node.flatten, entries]

namespace Builder

/-- What a walk meets: the document first, then the open blocks from the outermost on. -/
def entries (b : Builder) : List Entry :=
  Node.flattenAll b.done.reverse ++ b.stack.reverse.flatMap OpenBlock.entries

variable {o : BuildOptions} {done : List Node} {stack : List OpenBlock} {top : OpenBlock}

theorem entries_block : entries ⟨done, top :: stack⟩ = entries ⟨done, stack⟩ ++ top.entries := by
  simp [entries]

theorem attach_entries (b : Builder) (n : Node) :
    (b.attach o n).entries = b.entries ++ n.flatten := by
  obtain ⟨done, _ | ⟨top, stack⟩⟩ := b
  · rw [attach_document]
    simp [entries, Node.flattenAll_append, Node.flattenAll_single]
  · rw [attach_block, entries_block, entries_block]
    simp [OpenBlock.entries, Node.flattenAll_append, Node.flattenAll_single]

theorem setStop_entries (stop : Nat) (b : Builder) : (b.setStop stop).entries = b.entries := by
  obtain ⟨done, _ | ⟨top, stack⟩⟩ := b
  · rfl
  · rw [setStop_block, entries_block, entries_block]
    rfl

/-- Every token adds its entry at the end, wherever its node goes. -/
theorem takes_entries {t : Token} {next : Option Token} {b after : Builder}
    (takes : Takes o t next b after) : after.entries = b.entries ++ [Entry.ofToken t] := by
  cases takes with
  | text role => simp [attach_entries, setStop_entries, Node.flatten, Entry.ofToken, role]
  | marker role => simp [attach_entries, Node.flatten, Entry.ofToken, role]
  | opening role =>
    obtain ⟨done, stack⟩ := b
    rw [openBlock_start, entries_block]
    simp [OpenBlock.entries, Node.flattenAll, Entry.ofToken, role]
  | closing role fits =>
    rw [attach_entries, OpenBlock.close_flatten, entries_block, Entry.ofToken, role,
      List.append_assoc]

theorem run_entries {tokens : List Token} {b : Builder} (ran : empty.run o tokens = .ok b) :
    b.entries = tokens.map Entry.ofToken := by
  have none : empty.entries = [].map Entry.ofToken := rfl
  refine run_invariant (fun seen b => b.entries = seen.map Entry.ofToken) ?_ none ran
  intro seen t next b after takes before
  rw [takes_entries takes, before, List.map_append, List.map_singleton]

theorem finish_entries (b : Builder) :
    Node.flattenAll (b.finish o) = b.entries ++ List.replicate b.stack.length (.closing none) := by
  -- On the depth, because the parent of a block that ends is changed by it.
  induction depth : b.stack.length generalizing b with
  | zero =>
    obtain ⟨done, stack⟩ := b
    obtain rfl := List.eq_nil_of_length_eq_zero depth
    simp [finish_document, entries]
  | succ n ih =>
    obtain ⟨done, _ | ⟨top, stack⟩⟩ := b
    · cases depth
    · have below : (attach o ⟨done, stack⟩ (top.close none)).stack.length = n := by
        rw [attach_depth]
        exact Nat.succ.inj depth
      rw [finish_block, ih _ below, attach_entries, OpenBlock.close_flatten, entries_block]
      simp [List.replicate_succ]

end Builder

/-- A tree that was built has every token in its place and nothing else, except for a closing entry
without params for each block that no token closed. -/
theorem buildNodes_flatten {o : BuildOptions} {tokens : List Token} {nodes : List Node}
    (built : buildNodes o tokens = .ok nodes) :
    ∃ unclosed, opens tokens = closes tokens + unclosed ∧
      Node.flattenAll nodes =
        tokens.map Entry.ofToken ++ List.replicate unclosed (.closing none) := by
  unfold buildNodes at built
  cases ran : Builder.empty.run o tokens with
  | error e => rw [ran] at built; cases built
  | ok b =>
    rw [ran] at built
    cases built
    have counted := Builder.run_depth ran
    refine ⟨b.stack.length, by omega, ?_⟩
    rw [Builder.finish_entries, Builder.run_entries ran]

/-- A block that ends, inside one that does not, before another that does not. -/
def unclosedTokens : List Token :=
  [{ type := "open", value := "<b>", params := some [some "b"], loc := ⟨0, 3⟩ },
    .text "a" ⟨3, 4⟩, { type := "open", value := "(", loc := ⟨4, 5⟩ },
    { type := "close", value := ")", loc := ⟨5, 6⟩ },
    { type := "open", value := "[", loc := ⟨6, 7⟩ }, .text "c" ⟨7, 8⟩]

def unclosedNodes : List Node :=
  [.block ⟨3, 4⟩ (some [some "b"]) none
    [.leaf (.text "a" ⟨3, 4⟩), .block ⟨5, 6⟩ none none [],
      .block ⟨7, 8⟩ none none [.leaf (.text "c" ⟨7, 8⟩)]]]

theorem buildNodes_flatten_unclosed :
    buildNodes {} unclosedTokens = .ok unclosedNodes ∧
      ∃ unclosed, opens unclosedTokens = closes unclosedTokens + unclosed ∧
        Node.flattenAll unclosedNodes =
          unclosedTokens.map Entry.ofToken ++ List.replicate unclosed (.closing none) := by
  have built : buildNodes {} unclosedTokens = .ok unclosedNodes := by
    have ran : Builder.empty.run {} unclosedTokens =
        .ok ⟨[], [⟨⟨7, 8⟩, none, none, [.leaf (.text "c" ⟨7, 8⟩)]⟩,
          ⟨⟨3, 4⟩, some [some "b"], some ⟨.param "b", "b"⟩,
            [.block ⟨5, 6⟩ none none [], .leaf (.text "a" ⟨3, 4⟩)]⟩]⟩ := rfl
    simp only [buildNodes, ran, Builder.finish_block, Builder.attach_block, Builder.attach_document,
      Builder.finish_document]
    rfl
  exact ⟨built, buildNodes_flatten built⟩

end BlockMarkup
