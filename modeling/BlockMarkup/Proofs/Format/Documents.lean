import BlockMarkup.Proofs.Format.Tokens
import BlockMarkup.Proofs.Json.Denoting
import BlockMarkup.Proofs.Json.Distinct
import BlockMarkup.Proofs.Tree.Depth

/-!
# What the JSON of a document tells

Nothing of a document but the alternatives of its leaves is lost in its JSON, and both layouts denote one
value (`Document.toJson_faithful`).
-/

namespace BlockMarkup

open Json (Value)
open Json.Value (Kept)

mutual

/-- The alternatives of the leaves are left out. -/
def Node.dropAlternatives : Node → Node
  | .leaf t => .leaf { t with alternative := none }
  | .block loc opening closing children => .block loc opening closing (Node.dropAlternativesAll children)

def Node.dropAlternativesAll : List Node → List Node
  | [] => []
  | n :: rest => n.dropAlternatives :: Node.dropAlternativesAll rest

end

def Document.dropAlternatives (d : Document) : Document :=
  { d with children := Node.dropAlternativesAll d.children }

mutual

/-- All offsets fit 64 bits. -/
def Node.Fits : Node → Prop
  | .leaf t => t.loc.Fits
  | .block loc _ _ children => loc.Fits ∧ Node.FitsAll children

def Node.FitsAll : List Node → Prop
  | [] => True
  | n :: rest => n.Fits ∧ Node.FitsAll rest

end

def Document.Fits (d : Document) : Prop := d.loc.Fits ∧ Node.FitsAll d.children

/-! ### Values told apart -/

theorem Location.toValue_inj {a b : Location} (same : a.toValue = b.toValue) : a = b := by
  obtain ⟨start, stop⟩ := a
  obtain ⟨start', stop'⟩ := b
  simpa [Location.toValue, Value.nat] using same

theorem Params.toValue_inj {a b : Params} (same : a.toValue = b.toValue) : a = b := by
  rw [Params.toValue, Params.toValue, Value.array.injEq] at same
  have read := Params.items?_map a
  rw [same, Params.items?_map, Option.some.injEq] at read
  exact read.symm

section

variable {key : String} {a b : Option Params} {x y : List (String × Value)}

theorem eq_of_mem_paramsMember {other : String} (member : other ∈ Keyed.keys (paramsMember key a)) :
    other = key := by
  cases a with
  | none => cases member
  | some p => exact List.mem_singleton.mp member

/-- A member that may be left out is told from what follows it by its key. -/
theorem paramsMember_append_inj (absent : key ∉ Keyed.keys x) (absent' : key ∉ Keyed.keys y)
    (same : paramsMember key a ++ x = paramsMember key b ++ y) : a = b ∧ x = y := by
  cases a with
  | none =>
    cases b with
    | none => exact ⟨rfl, same⟩
    | some q =>
      obtain rfl : x = (key, q.toValue) :: y := same
      exact absurd List.mem_cons_self absent
  | some p =>
    cases b with
    | none =>
      obtain rfl : (key, p.toValue) :: x = y := same
      exact absurd List.mem_cons_self absent'
    | some q =>
      obtain ⟨first, rest⟩ := List.cons.inj same
      obtain rfl := Params.toValue_inj (Prod.mk.inj first).2
      exact ⟨rfl, rest⟩

end

theorem Token.toValue_inj {t u : Token} (same : t.toValue = u.toValue) :
    ({ t with alternative := none } : Token) = { u with alternative := none } := by
  obtain ⟨type, value, params, loc, alternative⟩ := t
  obtain ⟨type', value', params', loc', alternative'⟩ := u
  simp only [Token.toValue, List.cons_append, List.nil_append, Value.object.injEq, List.cons.injEq,
    Prod.mk.injEq, Value.string.injEq, true_and] at same
  obtain ⟨rfl, rfl, members⟩ := same
  have apart (loc : Location) : "params" ∉ Keyed.keys [("loc", loc.toValue)] := by simp [Keyed.keys]
  obtain ⟨rfl, place⟩ := paramsMember_append_inj (apart loc) (apart loc') members
  obtain rfl := Location.toValue_inj (Prod.mk.inj (List.cons.inj place).1).2
  rfl

/-- A leaf of any type is told from a block, since only blocks have children. -/
theorem Token.toValue_ne_block {t : Token} {loc : Location} {opening closing : Option Params}
    {children : List Node} : t.toValue ≠ (Node.block loc opening closing children).toValue := by
  intro same
  have inside : t.toValue.get? "children" = some (.array (Node.toValues children)) := by
    rw [same]
    rfl
  obtain ⟨type, value, params, loc, alternative⟩ := t
  cases params <;> cases inside

mutual

theorem Node.toValue_inj (n : Node) {m : Node} (same : n.toValue = m.toValue) :
    n.dropAlternatives = m.dropAlternatives := by
  cases n with
  | leaf t =>
    cases m with
    | leaf u =>
      rw [Node.toValue, Node.toValue] at same
      rw [Node.dropAlternatives, Node.dropAlternatives, Token.toValue_inj same]
    | block => exact absurd same Token.toValue_ne_block
  | block loc opening closing children =>
    cases m with
    | leaf u => exact absurd same.symm Token.toValue_ne_block
    | block loc' opening' closing' children' =>
      simp only [Node.toValue, List.cons_append, List.nil_append,
        Value.object.injEq, List.cons.injEq, Prod.mk.injEq, Value.array.injEq, true_and] at same
      obtain ⟨inside, place, members⟩ := same
      have apart (closing : Option Params) : "open" ∉ Keyed.keys (paramsMember "close" closing) :=
        fun member => absurd (eq_of_mem_paramsMember member) (by decide)
      obtain ⟨rfl, ending⟩ := paramsMember_append_inj (apart closing) (apart closing') members
      rw [← List.append_nil (paramsMember "close" closing),
        ← List.append_nil (paramsMember "close" closing')] at ending
      obtain ⟨rfl, -⟩ := paramsMember_append_inj List.not_mem_nil List.not_mem_nil ending
      obtain rfl := Location.toValue_inj place
      rw [Node.dropAlternatives, Node.dropAlternatives, Node.toValues_inj children inside]

theorem Node.toValues_inj (ns : List Node) {ms : List Node}
    (same : Node.toValues ns = Node.toValues ms) :
    Node.dropAlternativesAll ns = Node.dropAlternativesAll ms := by
  match ns, ms with
  | [], [] => rfl
  | [], m :: ms => cases same
  | n :: ns, [] => cases same
  | n :: ns, m :: ms =>
    rw [Node.toValues, Node.toValues, List.cons.injEq] at same
    rw [Node.dropAlternativesAll, Node.dropAlternativesAll, Node.toValue_inj n same.1,
      Node.toValues_inj ns same.2]

end

mutual

theorem Node.toValue_dropAlternatives (n : Node) : n.dropAlternatives.toValue = n.toValue := by
  cases n with
  | leaf t => rfl
  | block loc opening closing children =>
    rw [Node.dropAlternatives, Node.toValue, Node.toValues_dropAlternatives children, Node.toValue]

theorem Node.toValues_dropAlternatives (ns : List Node) :
    Node.toValues (Node.dropAlternativesAll ns) = Node.toValues ns := by
  match ns with
  | [] => rfl
  | n :: rest =>
    rw [Node.dropAlternativesAll, Node.toValues, Node.toValue_dropAlternatives n,
      Node.toValues_dropAlternatives rest, Node.toValues]

end

theorem Document.toValue_eq_iff {d e : Document} :
    d.toValue = e.toValue ↔ d.dropAlternatives = e.dropAlternatives := by
  constructor
  · intro same
    simp only [Document.toValue, Value.object.injEq, List.cons.injEq, Prod.mk.injEq,
      Value.array.injEq, true_and, and_true] at same
    rw [Document.dropAlternatives, Document.dropAlternatives, Node.toValues_inj d.children same.1,
      Location.toValue_inj same.2]
  · intro same
    have kept (d : Document) : d.dropAlternatives.toValue = d.toValue := by
      simp only [Document.toValue, Document.dropAlternatives, Node.toValues_dropAlternatives]
    rw [← kept d, same, kept]

/-! ### Values of documents -/

theorem Location.exact_toValue (loc : Location) : loc.toValue.Exact := ⟨trivial, trivial, trivial⟩

theorem Params.exact_toValue (params : Params) : params.toValue.Exact := by
  refine Json.Value.exactAll_iff.mpr fun v member => ?_
  obtain ⟨group, -, rfl⟩ := List.mem_map.mp member
  cases group <;> trivial

theorem Token.exact_toValue (t : Token) : t.toValue.Exact := by
  refine Json.Value.exactMembers_iff.mpr ?_
  simp only [List.forall_mem_append, List.forall_mem_cons]
  exact ⟨⟨⟨trivial, trivial, List.forall_mem_nil _⟩, forall_mem_paramsMember Params.exact_toValue⟩,
    t.loc.exact_toValue, List.forall_mem_nil _⟩

mutual

theorem Node.exact_toValue (n : Node) : n.toValue.Exact := by
  cases n with
  | leaf t => exact t.exact_toValue
  | block loc opening closing children =>
    refine Json.Value.exactMembers_iff.mpr ?_
    simp only [List.forall_mem_append, List.forall_mem_cons]
    have params {key : String} {params : Option Params} : ∀ m ∈ paramsMember key params, m.2.Exact :=
      forall_mem_paramsMember Params.exact_toValue
    exact ⟨⟨⟨trivial, Node.exact_toValues children, loc.exact_toValue, List.forall_mem_nil _⟩, params⟩, params⟩

theorem Node.exact_toValues (ns : List Node) : Json.Value.ExactAll (Node.toValues ns) := by
  match ns with
  | [] => trivial
  | n :: rest => exact ⟨Node.exact_toValue n, Node.exact_toValues rest⟩

end

theorem Document.exact_toValue (d : Document) : d.toValue.Exact :=
  ⟨trivial, Node.exact_toValues d.children, d.loc.exact_toValue, trivial⟩

mutual

/-- Every block takes two levels of nesting, one for its object and one for its children. -/
theorem Node.kept_toValue (n : Node) {room : Nat} (fits : n.Fits) (low : 2 * n.height + 2 ≤ room) :
    Kept room n.toValue := by
  cases n with
  | leaf t =>
    obtain ⟨room, rfl⟩ : ∃ r, room = r + 2 := ⟨room - 2, by omega⟩
    exact Token.kept_toValue room fits
  | block loc opening closing children =>
    rw [Node.height] at low
    obtain ⟨room, rfl⟩ : ∃ r, room = r + 2 := ⟨room - 2, by omega⟩
    refine Kept.object (by cases opening <;> cases closing <;> simp [paramsMember, Keyed.keys]) ?_
    simp only [List.forall_mem_append, List.forall_mem_cons]
    have params {key : String} {params : Option Params} :
        ∀ m ∈ paramsMember key params, Kept (room + 1) m.2 :=
      forall_mem_paramsMember (Params.kept_toValue room)
    exact ⟨⟨⟨Kept.string _, Kept.array (Node.kept_toValues children fits.2 (by omega)),
      Location.kept_toValue room fits.1, List.forall_mem_nil _⟩, params⟩, params⟩

theorem Node.kept_toValues (ns : List Node) {room : Nat} (fits : Node.FitsAll ns)
    (low : 2 * Node.heightOfAll ns + 2 ≤ room) : ∀ v ∈ Node.toValues ns, Kept room v := by
  match ns with
  | [] => exact List.forall_mem_nil _
  | n :: rest =>
    rw [Node.heightOfAll] at low
    rw [Node.toValues, List.forall_mem_cons]
    exact ⟨Node.kept_toValue n fits.1 (by omega), Node.kept_toValues rest fits.2 (by omega)⟩

end

theorem Document.kept_toValue {d : Document} (fits : d.Fits) :
    Kept (2 * Node.heightOfAll d.children + 4) d.toValue := by
  refine Kept.object (show ["type", "children", "loc"].Nodup by decide) ?_
  simp only [List.forall_mem_cons]
  exact ⟨Kept.string _, Kept.array (Node.kept_toValues d.children fits.2 (Nat.le_refl _)),
    Location.kept_toValue _ fits.1, List.forall_mem_nil _⟩

/-- Documents have one text only if they are the same up to alternatives. With offsets of 64 bits both texts
of a document denote one value and no other. Leaves may be of any type, also of the type of a block. -/
theorem Document.toJson_faithful (d : Document) :
    (∀ (e : Document) pretty,
        d.toJson pretty = e.toJson pretty ↔ d.dropAlternatives = e.dropAlternatives) ∧
      (d.Fits → ∀ v pretty, Json.Denotes (d.toJson pretty) v ↔ v = d.toValue) := by
  constructor
  · intro e pretty
    rw [← Document.toValue_eq_iff]
    constructor
    · intro same
      exact d.exact_toValue.print_inj e.exact_toValue same
    · intro same
      rw [Document.toJson, Document.toJson, same]
  · intro fits v pretty
    exact (Document.kept_toValue fits).denotes_iff pretty

/-- A block without an opening token around a leaf with an alternative, and a node behind it. -/
def blockBeside (alternative : Option Nat) (beside : Node) : Document :=
  ⟨[.block ⟨0, 2 ^ 64 - 1⟩ none (some [none, some "\"\\"]) [.leaf { Token.text "a" ⟨0, 1⟩ with alternative }],
    beside], ⟨0, 2 ^ 64 - 1⟩⟩

/-- Alternatives do not count, but a leaf of the type of a block is none. -/
theorem Document.toJson_faithful_block :
    let leaf : Node := .leaf { type := "block", value := "", loc := ⟨1, 1⟩ }
    let block : Node := .block ⟨1, 1⟩ none none []
    (blockBeside (some 0) leaf).Fits ∧
      (blockBeside (some 0) leaf).toJson true = (blockBeside none leaf).toJson true ∧
      (blockBeside (some 0) leaf).toJson false ≠ (blockBeside (some 0) block).toJson false ∧
      ∀ v pretty, Json.Denotes ((blockBeside (some 0) leaf).toJson pretty) v ↔
        v = (blockBeside (some 0) leaf).toValue := by
  intro leaf block
  have fits : (blockBeside (some 0) leaf).Fits := by
    refine ⟨?_, ⟨?_, ?_, trivial⟩, ?_, trivial⟩ <;> exact ⟨by decide, by decide⟩
  obtain ⟨told, denoted⟩ := Document.toJson_faithful (blockBeside (some 0) leaf)
  refine ⟨fits, (told _ true).mpr rfl, fun same => ?_, denoted fits⟩
  have children := congrArg Document.children ((told _ false).mp same)
  cases (List.cons.inj (List.cons.inj children).2).1

end BlockMarkup
