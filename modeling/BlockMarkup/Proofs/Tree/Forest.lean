import BlockMarkup.Proofs.Tree.Descent

/-!
# Forests and their tokens

A forest is what a document is about: texts, markers, and blocks with one of several pairs of
delimiters. Its tokens are read back as the forest, under all options (`Forest.readDocument_tokens`).
-/

namespace BlockMarkup

/-- Characters for the ends of blocks, in pairs, and one for markers. They all differ. -/
structure Delimiters where
  opening : List Char
  closing : List Char
  marker : Char
  filled : opening ≠ []
  paired : opening.length = closing.length
  distinct : (marker :: (opening ++ closing)).Nodup

namespace Delimiters

def count (d : Delimiters) : Nat := d.opening.length

def opener (d : Delimiters) (i : Fin d.count) : Char := d.opening.get i

def closer (d : Delimiters) (i : Fin d.count) : Char := d.closing.get (i.cast d.paired)

/-- The characters that mean something. -/
def chars (d : Delimiters) : List Char := d.marker :: (d.opening ++ d.closing)

end Delimiters

/-- Trees in a row, with `n` pairs of delimiters for blocks. -/
inductive Forest (n : Nat) where
  | nil
  | text (value : String) (rest : Forest n)
  | marker (rest : Forest n)
  | block (i : Fin n) (children rest : Forest n)

mutual

/-- The node without its places in the source, and without the alternatives of its leaves. -/
def Node.bare : Node → Node
  | .leaf t => .leaf { t with loc := default, alternative := none }
  | .block _ opening closing children => .block default opening closing (Node.bareAll children)

def Node.bareAll : List Node → List Node
  | [] => []
  | n :: rest => n.bare :: Node.bareAll rest

end

namespace Forest

def startsWithText {n : Nat} : Forest n → Bool
  | text _ _ => true
  | _ => false

variable (d : Delimiters)

/-- Texts are not empty, hold no delimiter or marker, and no two of them are neighbours. -/
def Printable : Forest d.count → Prop
  | nil => True
  | text value rest => value ≠ "" ∧ (∀ c ∈ value.toList, c ∉ d.chars) ∧
    rest.startsWithText = false ∧ rest.Printable
  | marker rest => rest.Printable
  | block _ children rest => children.Printable ∧ rest.Printable

def print : Forest d.count → List Char
  | nil => []
  | text value rest => value.toList ++ rest.print
  | marker rest => d.marker :: rest.print
  | block i children rest => d.opener i :: (children.print ++ d.closer i :: rest.print)

/-- The nodes of a document about the forest, bare. -/
def nodes : Forest d.count → List Node
  | nil => []
  | text value rest => .leaf (.text value default) :: rest.nodes
  | marker rest =>
    .leaf { type := "marker", value := String.singleton d.marker, loc := default } :: rest.nodes
  | block i children rest =>
    .block default (some [some (String.singleton (d.opener i))])
      (some [some (String.singleton (d.closer i))]) children.nodes :: rest.nodes

end Forest

/-! ### Tokens -/

/-- The token of a character at `p` that a list rule has matched as its literal `i`. -/
def listToken (type : String) (c : Char) (i p : Nat) : Token :=
  { type
    value := String.singleton c
    params := some [some (String.singleton c)]
    loc := ⟨p, p + 1⟩
    alternative := some i }

def markerToken (c : Char) (p : Nat) : Token :=
  { type := "marker", value := String.singleton c, loc := ⟨p, p + 1⟩ }

namespace Forest

variable (d : Delimiters)

/-- The tokens of the printed forest, from `p` on. -/
def tokens : Nat → Forest d.count → List Token
  | _, nil => []
  | p, text value rest => .text value ⟨p, p + value.length⟩ :: rest.tokens (p + value.length)
  | p, marker rest => markerToken d.marker p :: rest.tokens (p + 1)
  | p, block i children rest =>
    listToken "open" (d.opener i) i p :: (children.tokens (p + 1) ++
      listToken "close" (d.closer i) i (p + 1 + (children.print d).length) ::
        rest.tokens (p + 1 + (children.print d).length + 1))

end Forest

/-! ### Reading -/

section Reading

variable {o : BuildOptions} {opening t : Token} {loc : Location} {rest : List Token}

theorem readBlock_text {body : Body rest} (role : t.role = .text)
    (later : readBlock o opening (Location.withChild o { loc with stop := t.loc.stop } (.leaf t)) rest =
      .ok body) :
    readBlock o opening loc (t :: rest) = .ok (body.after (.leaf t) (Nat.le_succ _)) := by
  rw [readBlock]
  simp only [role, later]
  rfl

theorem readBlock_marker {body : Body rest} (role : t.role = .marker)
    (later : readBlock o opening (loc.withChild o (.leaf t)) rest = .ok body) :
    readBlock o opening loc (t :: rest) = .ok (body.after (.leaf t) (Nat.le_succ _)) := by
  rw [readBlock]
  simp only [role, later]
  rfl

theorem readBlock_opening {inner : Body rest} {body : Body inner.rest} (role : t.role = .opening)
    (read : readBlock o t (blockStart t rest.head?) rest = .ok inner)
    (later : readBlock o opening (loc.withChild o (inner.node t)) inner.rest = .ok body) :
    readBlock o opening loc (t :: rest) =
      .ok (body.after (inner.node t) (Nat.le_succ_of_le inner.shorter)) := by
  rw [readBlock]
  simp only [role, read, later]
  rfl

theorem readBlock_closing (role : t.role = .closing) (fits : refusal o opening t = none) :
    readBlock o opening loc (t :: rest) = .ok ⟨loc, t.params, [], rest, Nat.le_succ _⟩ := by
  rw [readBlock]
  simp only [role, fits]

theorem readDocument_leaf {nodes : List Node} (role : t.role = .text ∨ t.role = .marker)
    (later : readDocument o rest = .ok nodes) : readDocument o (t :: rest) = .ok (.leaf t :: nodes) := by
  rw [readDocument]
  rcases role with role | role <;> simp only [role, later] <;> rfl

theorem readDocument_opening {body : Body rest} {nodes : List Node} (role : t.role = .opening)
    (read : readBlock o t (blockStart t rest.head?) rest = .ok body)
    (later : readDocument o body.rest = .ok nodes) :
    readDocument o (t :: rest) = .ok (body.node t :: nodes) := by
  rw [readDocument]
  simp only [role, read, later]
  rfl

end Reading

theorem role_open (c : Char) (i p : Nat) : (listToken "open" c i p).role = .opening := by
  simp [Token.role, Role.ofType, listToken]

theorem role_close (c : Char) (i p : Nat) : (listToken "close" c i p).role = .closing := by
  simp [Token.role, Role.ofType, listToken]

theorem role_markerToken (c : Char) (p : Nat) : (markerToken c p).role = .marker := by
  simp [Token.role, Role.ofType, markerToken]

theorem role_text (value : String) (loc : Location) : (Token.text value loc).role = .text := by
  simp [Token.role, Role.ofType, Token.text]

/-- Tokens of one list index fit one another. -/
theorem refusal_listToken (o : BuildOptions) (a b : Char) (i p q : Nat) :
    refusal o (listToken "open" a i p) (listToken "close" b i q) = none := by
  unfold refusal
  cases o.closeMatching <;> simp [PairKey.ofToken?, listToken, PairKey.conflicts]

namespace Forest

variable {d : Delimiters} {o : BuildOptions}

/-- What a block is read as whose body is a forest. -/
theorem readBlock_tokens (forest : Forest d.count) (p : Nat) (opening t : Token) (loc : Location)
    (rest : List Token) (role : t.role = .closing) (fits : refusal o opening t = none) :
    ∃ body, readBlock o opening loc (forest.tokens d p ++ t :: rest) = .ok body ∧
      body.closing = t.params ∧ body.rest = rest ∧ Node.bareAll body.children = forest.nodes d := by
  induction forest generalizing p opening t loc rest with
  | nil => exact ⟨_, readBlock_closing role fits, rfl, rfl, rfl⟩
  | text value more ih =>
    let leaf : Token := .text value ⟨p, p + value.length⟩
    obtain ⟨body, read, closing, left, same⟩ := ih (p + value.length) opening t
      (Location.withChild o { loc with stop := leaf.loc.stop } (.leaf leaf)) rest role fits
    exact ⟨_, readBlock_text (role_text _ _) read, closing, left, congrArg _ same⟩
  | marker more ih =>
    obtain ⟨body, read, closing, left, same⟩ := ih (p + 1) opening t
      (loc.withChild o (.leaf (markerToken d.marker p))) rest role fits
    exact ⟨_, readBlock_marker (role_markerToken _ _) read, closing, left, congrArg _ same⟩
  | block i children more inside ih =>
    obtain ⟨⟨place, ending, nested, left, fewer⟩, read, closing, taken, filled⟩ := inside (p + 1)
      (listToken "open" (d.opener i) i p) (listToken "close" (d.closer i) i _)
      (blockStart (listToken "open" (d.opener i) i p) _) _ (role_close _ _ _)
      (refusal_listToken o _ _ _ _ _)
    cases closing
    cases taken
    obtain ⟨body, later, closing, left, same⟩ := ih _ opening t
      (loc.withChild o (.block place _ _ nested)) rest role fits
    rw [tokens, List.cons_append, List.append_assoc, List.cons_append]
    refine ⟨_, readBlock_opening (role_open _ _ _) read later, closing, left, ?_⟩
    simp [Body.after, Body.node, Node.bareAll, Node.bare, filled, same, nodes, listToken]

theorem readDocument_tokens (forest : Forest d.count) (p : Nat) :
    ∃ nodes, readDocument o (forest.tokens d p) = .ok nodes ∧ Node.bareAll nodes = forest.nodes d := by
  induction forest generalizing p with
  | nil => exact ⟨[], by rw [tokens, readDocument], rfl⟩
  | text value more ih =>
    obtain ⟨nodes, read, same⟩ := ih (p + value.length)
    exact ⟨_, readDocument_leaf (.inl (role_text _ _)) read, congrArg _ same⟩
  | marker more ih =>
    obtain ⟨nodes, read, same⟩ := ih (p + 1)
    exact ⟨_, readDocument_leaf (.inr (role_markerToken _ _)) read, congrArg _ same⟩
  | block i children more _ ih =>
    obtain ⟨nodes, read, same⟩ := ih (p + 1 + (children.print d).length + 1)
    obtain ⟨⟨place, ending, nested, left, fewer⟩, inside, closing, taken, filled⟩ :=
      readBlock_tokens children (p + 1) (listToken "open" (d.opener i) i p)
        (listToken "close" (d.closer i) i (p + 1 + (children.print d).length))
        (blockStart (listToken "open" (d.opener i) i p) _) _ (role_close _ _ _)
        (refusal_listToken o _ _ _ _ _)
    cases closing
    cases taken
    refine ⟨_, readDocument_opening (role_open _ _ _) inside read, ?_⟩
    simp [Body.node, Node.bareAll, Node.bare, filled, same, Forest.nodes, listToken]

end Forest

end BlockMarkup
