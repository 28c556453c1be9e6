/-!
# Keyed lists

Entries in the order in which their keys came first. `put` replaces in place, so a key is never
listed twice.
-/

namespace BlockMarkup.Keyed

/-- Sets the value of a key: in place if the key is there already, else at the end. -/
def put (key : String) (value : β) : List (String × β) → List (String × β)
  | [] => [(key, value)]
  | (k, v) :: rest => if k = key then (k, value) :: rest else (k, v) :: put key value rest

def keys (entries : List (String × β)) : List String := entries.map (·.1)

def ofList (entries : List (String × β)) : List (String × β) :=
  entries.foldl (fun out e => put e.1 e.2 out) []

theorem put_of_not_mem {key : String} {entries : List (String × β)} (new : key ∉ keys entries)
    (value : β) : put key value entries = entries ++ [(key, value)] := by
  induction entries with
  | nil => rfl
  | cons e rest ih =>
    obtain ⟨k, v⟩ := e
    obtain ⟨other, later⟩ : key ≠ k ∧ key ∉ keys rest := by simpa [keys] using new
    rw [put, if_neg other.symm, ih later, List.cons_append]

/-- Entries with distinct keys are kept as they are. -/
theorem ofList_of_nodup {entries : List (String × β)} (distinct : (keys entries).Nodup) :
    ofList entries = entries := by
  have behind : ∀ (rest done : List (String × β)), (keys (done ++ rest)).Nodup →
      rest.foldl (fun out e => put e.1 e.2 out) done = done ++ rest := by
    intro rest
    induction rest with
    | nil => simp
    | cons e rest ih =>
      intro done distinct
      have new : e.1 ∉ keys done := by
        rw [keys, List.map_append, List.nodup_append] at distinct
        exact fun old => distinct.2.2 _ old _ (by simp) rfl
      rw [List.foldl_cons, put_of_not_mem new, ih _ (by simpa using distinct)]
      simp
  exact behind entries [] distinct

end BlockMarkup.Keyed
