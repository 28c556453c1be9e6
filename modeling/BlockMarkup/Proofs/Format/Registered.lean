import BlockMarkup.Format.Registry
import BlockMarkup.Proofs.Keyed

/-!
# What registries hold

Whatever has been registered, a name stands for the formatter that was registered last under it, and names
are listed once each and in their order (`FormatRegistry.registered_last`).
-/

namespace BlockMarkup

/-! ### Ordered maps -/

namespace OrderedMap

variable {m : OrderedMap β} {key k : String} {value : β} {entries : List (String × β)}

/-- A key is not found behind a greater one. -/
theorem lookup_before (before : ∀ e ∈ entries, key < e.1) : entries.lookup key = none := by
  induction entries with
  | nil => rfl
  | cons first rest ih =>
    obtain ⟨here, later⟩ := List.forall_mem_cons.mp before
    rw [Keyed.lookup_cons, if_neg (String.ne_of_lt here)]
    exact ih later

theorem lookup_place (key k : String) (value : β) (entries : List (String × β)) :
    (place key value entries).1.lookup k = if k = key then some value else entries.lookup k := by
  induction entries with
  | nil => exact Keyed.lookup_cons key k value []
  | cons first rest ih =>
    obtain ⟨k', v⟩ := first
    rw [place]
    split
    next same =>
      subst same
      rw [Keyed.lookup_cons, Keyed.lookup_cons]
      split <;> rfl
    next other =>
      split
      next => exact Keyed.lookup_cons key k value _
      next =>
        rw [Keyed.lookup_cons, Keyed.lookup_cons, ih]
        by_cases here : k = k'
        · have elsewhere : k ≠ key := fun same => other (same.symm.trans here)
          rw [if_pos here, if_neg elsewhere, if_pos here]
        · rw [if_neg here, if_neg here]

/-- What is given back is what was found. -/
theorem place_replaced (key : String) (value : β) (inOrder : entries.Pairwise (·.1 < ·.1)) :
    (place key value entries).2 = entries.lookup key := by
  induction entries with
  | nil => rfl
  | cons first rest ih =>
    obtain ⟨k, v⟩ := first
    obtain ⟨behind, later⟩ := List.pairwise_cons.mp inOrder
    rw [place, Keyed.lookup_cons]
    split
    next => rfl
    next other =>
      split
      next before =>
        have absent : ∀ e ∈ rest, key < e.1 := fun e member => String.lt_trans before (behind e member)
        exact (lookup_before absent).symm
      next => exact ih later

theorem lookup_eq_some_iff (inOrder : entries.Pairwise (·.1 < ·.1)) :
    entries.lookup key = some value ↔ (key, value) ∈ entries := by
  induction entries with
  | nil => simp
  | cons first rest ih =>
    obtain ⟨k, v⟩ := first
    obtain ⟨behind, later⟩ := List.pairwise_cons.mp inOrder
    rw [Keyed.lookup_cons, List.mem_cons, Prod.mk.injEq, ← ih later]
    split
    next same =>
      -- The key is not found again.
      have absent : rest.lookup key = none := lookup_before (same ▸ behind)
      rw [absent]
      simp [same, eq_comm]
    next other => simp [other]

theorem get?_insert : (m.insert key value).1.get? k = if k = key then some value else m.get? k :=
  lookup_place key k value m.entries

theorem insert_replaced : (m.insert key value).2 = m.get? key := place_replaced key value m.inOrder

theorem get?_eq_some_iff : m.get? key = some value ↔ (key, value) ∈ m.entries :=
  lookup_eq_some_iff m.inOrder

end OrderedMap

namespace FormatRegistry

variable {r : FormatRegistry} {history : List Formatter}

/-- Registers formatters one after the other. -/
def registerAll (r : FormatRegistry) (calls : List Formatter) : FormatRegistry :=
  calls.foldl (fun r f => (r.register f).1) r

theorem get?_register (f : Formatter) (name : String) :
    (r.register f).1.get? name = if name = f.name then some f else r.get? name := OrderedMap.get?_insert

/-- Formatters are found under their own names, the ones that were registered last. -/
structure Holds (history : List Formatter) (r : FormatRegistry) : Prop where
  found : ∀ name, r.get? name = history.findRev? (·.name = name)
  named : ∀ name f, (name, f) ∈ r.formatters.entries → f.name = name

theorem Holds.register (holds : Holds history r) (f : Formatter) :
    Holds (history ++ [f]) (r.register f).1 where
  found := by
    intro name
    rw [get?_register, holds.found, List.findRev?_eq_find?_reverse, List.findRev?_eq_find?_reverse,
      List.reverse_concat, List.find?_cons]
    by_cases here : name = f.name
    · simp [here]
    · simp [here, Ne.symm here]
  named := by
    intro name g member
    have found : (r.register f).1.get? name = some g := OrderedMap.get?_eq_some_iff.mpr member
    rw [get?_register] at found
    split at found
    next here =>
      cases found
      exact here.symm
    next => exact holds.named name g (OrderedMap.get?_eq_some_iff.mp found)

theorem holds_registerAll (calls : List Formatter) : Holds calls (empty.registerAll calls) := by
  induction calls using List.reverseRecOn with
  | nil => exact ⟨fun name => rfl, nofun⟩
  | append_singleton calls f ih =>
    rw [registerAll, List.foldl_append]
    exact ih.register f

/-- What a registry shows of the formatters that were registered, in this order. -/
structure Shows (history : List Formatter) (r : FormatRegistry) : Prop where
  found : ∀ name, r.get? name = history.findRev? (·.name = name)
  contained : ∀ name, r.contains name = true ↔ ∃ f, r.get? name = some f
  /-- The next call gives the formatter that is found before it. -/
  replaced : ∀ f, (r.register f).2 = r.get? f.name
  rendered : ∀ name f, r.get? name = some f → ∀ d, r.render d name = f.render d
  /-- The name is unknown if nothing is found under it. A formatter may give this error as well. -/
  unknown : ∀ name d, r.render d name = .error (.unknownFormat name) ↔
    r.get? name = none ∨ ∃ f, r.get? name = some f ∧ f.render d = .error (.unknownFormat name)
  increasing : (r.descriptions.map (·.1)).Pairwise (· < ·)
  listed : ∀ name description, (name, description) ∈ r.descriptions ↔
    ∃ f, r.get? name = some f ∧ f.description = description

theorem Holds.descriptions (holds : Holds history r) :
    r.descriptions = r.formatters.entries.map fun (name, f) => (name, f.description) := by
  refine List.map_congr_left ?_
  rintro ⟨name, f⟩ member
  exact congrArg (·, f.description) (holds.named name f member)

theorem Holds.shows (holds : Holds history r) : Shows history r where
  found := holds.found
  contained := by
    intro name
    rw [contains, Option.isSome_iff_exists]
  replaced := fun f => OrderedMap.insert_replaced
  rendered := by
    intro name f found d
    rw [render, found]
  unknown := by
    intro name d
    cases found : r.get? name <;> simp [render, found]
  increasing := by
    rw [holds.descriptions, List.map_map]
    exact List.pairwise_map.mpr r.formatters.inOrder
  listed := by
    intro name description
    rw [holds.descriptions, List.mem_map]
    constructor
    · rintro ⟨⟨name, f⟩, member, same⟩
      cases same
      exact ⟨f, OrderedMap.get?_eq_some_iff.mpr member, rfl⟩
    · rintro ⟨f, found, rfl⟩
      exact ⟨(name, f), OrderedMap.get?_eq_some_iff.mp found, rfl⟩

theorem standard_registerAll (calls : List Formatter) :
    standard.registerAll calls = empty.registerAll ([.json, .jsonCompact, .outline] ++ calls) := by
  rw [registerAll, registerAll, List.foldl_append, standard]

/-- Whatever is registered in an empty registry or in the standard one, a name stands for the formatter that
was registered last under it: it is found, it renders, it is described in the list, and it is given back when
another one takes its name. -/
theorem registered_last (calls : List Formatter) :
    Shows calls (empty.registerAll calls) ∧
      Shows ([.json, .jsonCompact, .outline] ++ calls) (standard.registerAll calls) := by
  refine ⟨(holds_registerAll calls).shows, ?_⟩
  rw [standard_registerAll]
  exact (holds_registerAll _).shows

end FormatRegistry

end BlockMarkup
