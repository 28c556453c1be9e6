import BlockMarkup.Proofs.Tree.Leaves

/-!
# Trees of balanced prefixes

A stretch of tokens that closes every block it opens is built on its own: its nodes come before those
of the tokens behind it, which are built as if it were not there (`buildNodes_append`).
-/

namespace BlockMarkup

variable {o : BuildOptions} {ts us : List Token} {b : Builder} {t : Token} {nodes : List Node}

namespace Builder

/-! ### Looking ahead -/

/-- Only an opening token looks at the token behind it. -/
theorem step_blind (looks : t.role ≠ .opening) (next next' : Option Token) :
    b.step o t next = b.step o t next' := by
  unfold step
  cases role : t.role with
  | opening => exact absurd role looks
  | text | closing | marker | other => rfl

/-- A run can be cut behind a token that does not look ahead. -/
theorem run_append (sealed : ∀ t ∈ ts.getLast?, t.role ≠ .opening) :
    b.run o (ts ++ us) = (b.run o ts).bind (·.run o us) := by
  induction ts generalizing b with
  | nil => rfl
  | cons t rest ih =>
    have ahead : b.step o t (rest ++ us).head? = b.step o t rest.head? := by
      cases rest with
      | nil => exact step_blind (sealed t (by simp)) _ _
      | cons => rfl
    rw [List.cons_append, run_cons, run_cons, ahead]
    cases b.step o t rest.head? with
    | error e => rfl
    | ok after =>
      refine ih fun last member => sealed last ?_
      cases rest with
      | nil => cases member
      | cons u rest => rwa [List.getLast?_cons_cons]

/-- The block that the last token opens is still open. -/
theorem run_last (ran : empty.run o ts = .ok b) (level : b.stack = []) :
    ∀ t ∈ ts.getLast?, t.role ≠ .opening := by
  have none : ∀ t ∈ ([] : List Token).getLast?, t.role = .opening → empty.stack ≠ [] := by simp
  have kept := run_invariant (o := o) (fun seen b => ∀ t ∈ seen.getLast?, t.role = .opening → b.stack ≠ [])
    ?_ none ran
  · exact fun t last role => kept t last role level
  · intro seen u next b after takes _ t last role
    obtain rfl : u = t := by simpa using last
    cases takes with
    | opening => exact List.cons_ne_nil _ _
    | text other | marker other | closing other => cases role.symm.trans other

end Builder

/-! ### Building -/

/-- When all blocks are closed, the tokens that follow are built as if nothing came before them. -/
theorem buildNodes_resume (done : List Node) (tokens : List Token) :
    Builder.resume o ⟨done, []⟩ tokens = (buildNodes o tokens).map (done.reverse ++ ·) := by
  have alone : buildNodes o tokens = (readDocument o tokens).map ([].reverse ++ ·) :=
    Builder.resume_document
  rw [alone, Builder.resume_document]
  cases readDocument o tokens <;> rfl

/-- The nodes of tokens that close as many blocks as they open come before those of any tokens behind
them. These are built, or refused with one and the same error, as they are alone. -/
theorem buildNodes_append (built : buildNodes o ts = .ok nodes) (even : opens ts = closes ts)
    (us : List Token) : buildNodes o (ts ++ us) = (buildNodes o us).map (nodes ++ ·) := by
  obtain ⟨⟨done, stack⟩, ran, rfl⟩ := buildNodes_run built
  have depth : stack.length + closes ts = opens ts := Builder.run_depth ran
  obtain rfl : stack = [] := List.eq_nil_of_length_eq_zero (by omega)
  have cut : Builder.empty.run o (ts ++ us) = Builder.run o ⟨done, []⟩ us := by
    rw [Builder.run_append (Builder.run_last ran rfl), ran]
    rfl
  calc buildNodes o (ts ++ us) = Builder.resume o ⟨done, []⟩ us := by
        rw [buildNodes, cut]
        rfl
    _ = (buildNodes o us).map (done.reverse ++ ·) := buildNodes_resume done us
    _ = (buildNodes o us).map (Builder.finish o ⟨done, []⟩ ++ ·) := by rw [Builder.finish_document]

/-- A block that ends with a block, so that the last token before the seam closes two. -/
def sealedTokens : List Token :=
  [{ type := "open", value := "(", loc := ⟨0, 1⟩, alternative := some 1 },
    { type := "open", value := "<", loc := ⟨1, 2⟩, alternative := some 0 },
    { type := "close", value := ">", loc := ⟨2, 3⟩, alternative := some 0 },
    { type := "close", value := ")", loc := ⟨3, 4⟩, alternative := some 1 }]

def sealedNodes : List Node := [.block ⟨1, 3⟩ none none [.block ⟨2, 3⟩ none none []]]

/-- Behind the seam stands a block that nothing closes, or a closing token too many. -/
theorem buildNodes_append_sealed :
    buildNodes ⟨.strict, .lastChild⟩ sealedTokens = .ok sealedNodes ∧
      opens sealedTokens = closes sealedTokens ∧
      buildNodes ⟨.strict, .lastChild⟩ (sealedTokens ++ nestedTokens) =
        (buildNodes ⟨.strict, .lastChild⟩ nestedTokens).map (sealedNodes ++ ·) ∧
      buildNodes ⟨.strict, .lastChild⟩ (sealedTokens ++ [sealedTokens[3]]) =
        .error (.unexpectedToken ")" ⟨3, 4⟩) := by
  have built : buildNodes ⟨.strict, .lastChild⟩ sealedTokens = .ok sealedNodes := by
    have ran : Builder.empty.run ⟨.strict, .lastChild⟩ sealedTokens = .ok ⟨sealedNodes, []⟩ := rfl
    simp only [buildNodes, ran, Builder.finish_document]
    rfl
  refine ⟨built, rfl, buildNodes_append built rfl _, ?_⟩
  rw [buildNodes_append built rfl]
  rfl

end BlockMarkup
