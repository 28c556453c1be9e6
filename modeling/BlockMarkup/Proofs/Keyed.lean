import Mathlib.Data.List.Induction
import Mathlib.Data.List.Nodup
import BlockMarkup.Keyed

/-!
# What keyed lists keep

Of the entries with one key a keyed list keeps the place of the first one (`keys_ofList`) and the value of
the last one (`lookup_ofList`).
-/

namespace BlockMarkup.Keyed

variable (key k : String) (value : β) (entries : List (String × β))

/-! ### One entry -/

theorem lookup_cons : ((key, value) :: entries).lookup k = if k = key then some value else entries.lookup k := by
  by_cases same : k = key
  · simp [same]
  · have other : (k == key) = false := beq_false_of_ne same
    rw [List.lookup_cons, other, if_neg same]

theorem lookup_put :
    (put key value entries).lookup k = if k = key then some value else entries.lookup k := by
  induction entries with
  | nil => rw [put, lookup_cons]
  | cons e rest ih =>
    obtain ⟨key', value'⟩ := e
    rw [put, lookup_cons]
    by_cases here : key' = key
    · rw [if_pos here, lookup_cons, here]
      split <;> rfl
    · rw [if_neg here, lookup_cons, ih]
      by_cases same : k = key'
      · simp [same, here]
      · simp only [if_neg same]

variable {key entries} in
theorem keys_put_of_mem (old : key ∈ keys entries) : keys (put key value entries) = keys entries := by
  induction entries with
  | nil => cases old
  | cons e rest ih =>
    obtain ⟨key', value'⟩ := e
    rw [put]
    split
    next => rfl
    next elsewhere =>
      have later : key ∈ keys rest := (List.mem_cons.mp old).resolve_left (Ne.symm elsewhere)
      exact congrArg (key' :: ·) (ih later)

variable {key k} in
/-- Setting the value of one key moves no other one. -/
theorem idxOf?_keys_put (other : k ≠ key) :
    (keys (put key value entries)).idxOf? k = (keys entries).idxOf? k := by
  induction entries with
  | nil => simp [put, keys, other.symm]
  | cons e rest ih =>
    obtain ⟨key', value'⟩ := e
    rw [put]
    split
    next => rfl
    next =>
      show (key' :: keys (put key value rest)).idxOf? k = (key' :: keys rest).idxOf? k
      rw [List.idxOf?_cons, List.idxOf?_cons, ih]

theorem put_map (f : β → γ) : (put key value entries).map (fun e => (e.1, f e.2)) =
    put key (f value) (entries.map fun e => (e.1, f e.2)) := by
  induction entries with
  | nil => rfl
  | cons e rest ih =>
    obtain ⟨key', value'⟩ := e
    by_cases here : key' = key
    · simp [put, here]
    · simp [put, here, ih]

/-! ### Many entries -/

theorem ofList_concat (e : String × β) : ofList (entries ++ [e]) = put e.1 e.2 (ofList entries) := by
  simp [ofList]

theorem lookup_ofList : (ofList entries).lookup k = entries.reverse.lookup k := by
  induction entries using List.reverseRecOn with
  | nil => rfl
  | append_singleton entries e ih =>
    rw [ofList_concat, lookup_put, ih, List.reverse_append, List.reverse_singleton, List.singleton_append,
      lookup_cons]

theorem keys_concat (e : String × β) : keys (entries ++ [e]) = keys entries ++ [e.1] := by simp [keys]

theorem keys_ofList : keys (ofList entries) = (keys entries).eraseDups := by
  induction entries using List.reverseRecOn with
  | nil => rfl
  | append_singleton entries e ih =>
    rw [ofList_concat, keys_concat, List.eraseDups_append, ← ih]
    by_cases old : e.1 ∈ keys (ofList entries)
    · have known : e.1 ∈ keys entries := List.mem_eraseDups.mp (ih ▸ old)
      rw [keys_put_of_mem _ old]
      simp [known, List.removeAll]
    · have unknown : e.1 ∉ keys entries := fun known => old (ih ▸ List.mem_eraseDups.mpr known)
      rw [put_of_not_mem old, keys_concat]
      simp [unknown, List.removeAll, List.eraseDups_cons]

theorem mem_keys_ofList : k ∈ keys (ofList entries) ↔ k ∈ keys entries := by
  rw [keys_ofList, List.mem_eraseDups]

/-- Keys are in the order of their first entries. -/
theorem keys_ofList_inOrder : (keys (ofList entries)).Pairwise fun a b =>
    (keys entries).idxOf a < (keys entries).idxOf b := by
  induction entries using List.reverseRecOn with
  | nil => exact .nil
  | append_singleton entries e ih =>
    have stays : ∀ a ∈ keys (ofList entries), (keys (entries ++ [e])).idxOf a = (keys entries).idxOf a := by
      intro a known
      rw [keys_concat, List.idxOf_append, if_pos ((mem_keys_ofList a entries).mp known)]
    have before : (keys (ofList entries)).Pairwise fun a b =>
        (keys (entries ++ [e])).idxOf a < (keys (entries ++ [e])).idxOf b := by
      refine ih.imp_of_mem ?_
      intro a b knownA knownB sooner
      rwa [stays a knownA, stays b knownB]
    rw [ofList_concat]
    by_cases old : e.1 ∈ keys (ofList entries)
    · rwa [keys_put_of_mem _ old]
    · have unknown : e.1 ∉ keys entries := mt (mem_keys_ofList e.1 entries).mpr old
      rw [put_of_not_mem old, keys_concat (ofList entries), List.pairwise_append]
      refine ⟨before, List.pairwise_singleton _ _, ?_⟩
      intro a known b last
      obtain rfl := List.mem_singleton.mp last
      have inside : (keys entries).idxOf a < (keys entries).length :=
        List.idxOf_lt_length_iff.mpr ((mem_keys_ofList a entries).mp known)
      rw [stays a known, keys_concat, List.idxOf_append, if_neg unknown]
      omega

theorem nodup_ofList : (keys (ofList entries)).Nodup := by
  induction entries using List.reverseRecOn with
  | nil => exact List.nodup_nil
  | append_singleton entries e ih =>
    rw [ofList_concat]
    by_cases old : e.1 ∈ keys (ofList entries)
    · rwa [keys_put_of_mem _ old]
    · rw [put_of_not_mem old, keys_concat, ← List.concat_eq_append]
      exact ih.concat old

theorem ofList_map (f : β → γ) :
    ofList (entries.map fun e => (e.1, f e.2)) = (ofList entries).map fun e => (e.1, f e.2) := by
  induction entries using List.reverseRecOn with
  | nil => rfl
  | append_singleton entries e ih =>
    rw [List.map_append, List.map_singleton, ofList_concat, ofList_concat, ih, put_map]

theorem lookup_map {α : Type} (name : α → String) (f : α → β) (items : List α) :
    (items.map fun a => (name a, f a)).lookup k = (items.find? (name · = k)).map f := by
  induction items with
  | nil => rfl
  | cons a items ih =>
    rw [List.map_cons, lookup_cons, List.find?_cons, ih]
    by_cases here : name a = k
    · simp [here]
    · simp [here, Ne.symm here]

end BlockMarkup.Keyed
