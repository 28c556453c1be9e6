import BlockMarkup.Proofs.Tree.Machine

/-!
# The recursive reading of tokens

`readDocument` says what tree tokens stand for: it reads a block by reading the blocks inside it.
The stack of open blocks is what this recursion has still to return to, so the machine gives the
same nodes and the same errors (`buildNodes_readDocument`).
-/

namespace BlockMarkup

/-! ### Reading a block -/

/-- Why a closing token cannot end the block of an opening one. -/
def refusal (o : BuildOptions) (opening closing : Token) : Option SyntaxError :=
  match o.closeMatching, PairKey.ofToken? opening, PairKey.ofToken? closing with
  | .strict, some a, some b =>
    if a.conflicts b then some (.mismatchedClose closing.value (a.label opening) closing.loc)
    else none
  | _, _, _ => none

/-- What was read of a block, and the tokens after it. -/
structure Body (tokens : List Token) where
  loc : Location
  closing : Option Params
  children : List Node
  rest : List Token
  shorter : rest.length ≤ tokens.length

namespace Body

variable {tokens : List Token}

def node (body : Body tokens) (opening : Token) : Node :=
  .block body.loc opening.params body.closing body.children

/-- The same body with a child before the others, read from more tokens. -/
def after {before : List Token} (body : Body tokens) (child : Node)
    (fewer : tokens.length ≤ before.length) : Body before :=
  { body with children := child :: body.children, shorter := Nat.le_trans body.shorter fewer }

end Body

/-- Reads a block up to the token that closes it, or to the end of the tokens. -/
def readBlock (o : BuildOptions) (opening : Token) (loc : Location) :
    (tokens : List Token) → Except SyntaxError (Body tokens)
  | [] => .ok ⟨loc, none, [], [], Nat.le_refl _⟩
  | t :: rest =>
    match t.role with
    | .text =>
      (readBlock o opening (Location.withChild o { loc with stop := t.loc.stop } (.leaf t)) rest).map
        (·.after (.leaf t) (Nat.le_succ _))
    | .marker =>
      (readBlock o opening (loc.withChild o (.leaf t)) rest).map (·.after (.leaf t) (Nat.le_succ _))
    | .opening =>
      match readBlock o t (blockStart t rest.head?) rest with
      | .error e => .error e
      | .ok inner =>
        (readBlock o opening (loc.withChild o (inner.node t)) inner.rest).map
          (·.after (inner.node t) (Nat.le_succ_of_le inner.shorter))
    | .closing =>
      match refusal o opening t with
      | some e => .error e
      | none => .ok ⟨loc, t.params, [], rest, Nat.le_succ _⟩
    | .other => .error (.unexpectedTokenInBlock t.value t.loc)
termination_by tokens => tokens.length
decreasing_by
  · exact Nat.lt_succ_self _
  · exact Nat.lt_succ_self _
  · exact Nat.lt_succ_self _
  · exact Nat.lt_succ_of_le inner.shorter

def readDocument (o : BuildOptions) : List Token → Except SyntaxError (List Node)
  | [] => .ok []
  | t :: rest =>
    match t.role with
    | .text | .marker => (readDocument o rest).map (.leaf t :: ·)
    | .opening =>
      match readBlock o t (blockStart t rest.head?) rest with
      | .error e => .error e
      | .ok body => (readDocument o body.rest).map (body.node t :: ·)
    | .closing | .other => .error (.unexpectedToken t.value t.loc)
termination_by tokens => tokens.length
decreasing_by
  · exact Nat.lt_succ_self _
  · exact Nat.lt_succ_of_le body.shorter

/-! ### What the stack stands for -/

/-- The block that an open one has become when the rest of its body was read. -/
def OpenBlock.filled (top : OpenBlock) {tokens : List Token} (body : Body tokens) : Node :=
  .block body.loc top.opening body.closing (top.children.reverse ++ body.children)

namespace Builder

def resume (o : BuildOptions) (b : Builder) (tokens : List Token) :
    Except SyntaxError (List Node) :=
  match b.run o tokens with
  | .ok b => .ok (b.finish o)
  | .error e => .error e

variable {o : BuildOptions} {done : List Node} {stack : List OpenBlock} {top : OpenBlock}

theorem resume_nil (b : Builder) : resume o b [] = .ok (b.finish o) := rfl

theorem resume_ok {b next : Builder} {t : Token} {rest : List Token}
    (taken : b.step o t rest.head? = .ok next) : resume o b (t :: rest) = resume o next rest := by
  rw [resume, run, taken, resume]

theorem resume_error {b : Builder} {e : SyntaxError} {t : Token} {rest : List Token}
    (refused : b.step o t rest.head? = .error e) : resume o b (t :: rest) = .error e := by
  rw [resume, run, refused]

/-! ### Reading with a stack -/

theorem mismatch?_refusal {opening : Token} (pair : top.pairing = Pairing.ofToken? opening)
    (t : Token) : mismatch? o top.pairing t = refusal o opening t := by
  rw [pair]
  unfold mismatch? refusal Pairing.ofToken?
  cases o.closeMatching <;> cases PairKey.ofToken? opening <;> cases PairKey.ofToken? t <;> rfl

def conclude (o : BuildOptions) (done : List Node) (stack : List OpenBlock) (top : OpenBlock)
    {tokens : List Token} : Except SyntaxError (Body tokens) → Except SyntaxError (List Node)
  | .error e => .error e
  | .ok body => resume o (attach o ⟨done, stack⟩ (top.filled body)) body.rest

theorem conclude_after {tokens before : List Token} (result : Except SyntaxError (Body tokens))
    (child : Node) (fewer : tokens.length ≤ before.length) (loc : Location) :
    conclude o done stack top (result.map (·.after child fewer)) =
      conclude o done stack { top with loc, children := child :: top.children } result := by
  cases result with
  | error e => rfl
  | ok body => simp [Except.map, conclude, OpenBlock.filled, Body.after]

/-- An open block takes the body that is left of it, and is then a child of what holds it. -/
theorem resume_block {opening : Token} {loc : Location} {tokens : List Token}
    (place : top.loc = loc) (pair : top.pairing = Pairing.ofToken? opening) :
    resume o ⟨done, top :: stack⟩ tokens =
      conclude o done stack top (readBlock o opening loc tokens) := by
  fun_induction readBlock o opening loc tokens generalizing top done stack with subst place
  | case1 =>
    rw [resume_nil, finish_block]
    simp [conclude, OpenBlock.filled, OpenBlock.close, resume_nil]
  | case2 opening _ t rest text later =>
    rw [resume_ok (Takes.text text).step, setStop_block, attach_block, conclude_after]
    exact later rfl pair
  | case3 opening _ t rest marker later =>
    rw [resume_ok (Takes.marker marker).step, attach_block, conclude_after]
    exact later rfl pair
  | case4 opening _ t rest opens e failed inside =>
    rw [resume_ok (Takes.opening opens).step, openBlock_start, inside rfl rfl, failed]
    rfl
  | case5 opening _ t rest opens inner read inside later =>
    -- The blocks around this one wait on the stack until the nested block has been read.
    rw [resume_ok (Takes.opening opens).step, openBlock_start, inside rfl rfl, read, conclude,
      attach_block, conclude_after]
    exact later rfl pair
  | case6 opening _ t rest closes e refused =>
    rw [← mismatch?_refusal pair] at refused
    refine resume_error ?_
    simp only [step, closes, refused]
  | case7 opening _ t rest closes fits =>
    rw [← mismatch?_refusal pair] at fits
    rw [resume_ok (Takes.closing closes fits).step]
    simp [conclude, OpenBlock.filled, OpenBlock.close]
  | case8 opening _ t rest other =>
    refine resume_error ?_
    simp [step, other]

theorem map_done (result : Except SyntaxError (List Node)) (n : Node) :
    (result.map (n :: ·)).map (done.reverse ++ ·) = result.map ((n :: done).reverse ++ ·) := by
  cases result with
  | error e => rfl
  | ok nodes => simp [Except.map]

/-- With no open block the nodes of the tokens that are left come after those that are done. -/
theorem resume_document {tokens : List Token} :
    resume o ⟨done, []⟩ tokens = (readDocument o tokens).map (done.reverse ++ ·) := by
  fun_induction readDocument o tokens generalizing done with
  | case1 => simp [resume_nil, finish_document, Except.map]
  | case2 t rest text later =>
    rw [resume_ok (Takes.text text).step, setStop_document, attach_document, later, map_done]
  | case3 t rest marker later =>
    rw [resume_ok (Takes.marker marker).step, attach_document, later, map_done]
  | case4 t rest opens e failed =>
    rw [resume_ok (Takes.opening opens).step, openBlock_start, resume_block rfl rfl, failed]
    rfl
  | case5 t rest opens body read later =>
    rw [resume_ok (Takes.opening opens).step, openBlock_start, resume_block rfl rfl, read, conclude,
      attach_document, map_done]
    exact later
  | case6 t rest closes =>
    refine resume_error ?_
    simp only [step, closes]
  | case7 t rest other =>
    refine resume_error ?_
    simp [step, other]

end Builder

theorem readDocument_of_buildNodes {o : BuildOptions} {tokens : List Token} {nodes : List Node}
    (built : buildNodes o tokens = .ok nodes) : readDocument o tokens = .ok nodes := by
  have same : buildNodes o tokens = (readDocument o tokens).map ([].reverse ++ ·) :=
    Builder.resume_document
  rw [built] at same
  cases read : readDocument o tokens with
  | error e => rw [read] at same; cases same
  | ok others => rw [read] at same; exact same.symm

theorem buildNodes_of_readDocument {o : BuildOptions} {tokens : List Token} {nodes : List Node}
    (read : readDocument o tokens = .ok nodes) : buildNodes o tokens = .ok nodes := by
  have same : buildNodes o tokens = (readDocument o tokens).map ([].reverse ++ ·) :=
    Builder.resume_document
  rw [same, read]
  rfl

/-- The machine with a stack of open blocks gives what reading block by block does: the same nodes,
or the same error. -/
theorem buildNodes_readDocument (o : BuildOptions) (tokens : List Token) :
    buildNodes o tokens = readDocument o tokens := by
  have same : Builder.resume o ⟨[], []⟩ tokens = (readDocument o tokens).map ([].reverse ++ ·) :=
    Builder.resume_document
  rw [List.reverse_nil] at same
  calc buildNodes o tokens = Builder.resume o ⟨[], []⟩ tokens := rfl
    _ = (readDocument o tokens).map ([] ++ ·) := same
    _ = readDocument o tokens := by cases readDocument o tokens <;> rfl

end BlockMarkup
