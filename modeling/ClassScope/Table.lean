/-!
# Tables

A table is a list of keys with their values in the order in which the keys came in. Putting a value
under a key that is there already keeps the place of the key.
-/

namespace ClassScope.Table

variable {κ β : Type} [DecidableEq κ]

/-- The table with `value` under `key`. -/
def put (key : κ) (value : β) : List (κ × β) → List (κ × β)
  | [] => [(key, value)]
  | (k, v) :: table => if k = key then (key, value) :: table else (k, v) :: put key value table

/-- The value under a key. -/
def get? (table : List (κ × β)) (key : κ) : Option β :=
  (table.find? fun entry => decide (entry.1 = key)).map Prod.snd

@[simp]
theorem get?_nil (key : κ) : get? ([] : List (κ × β)) key = none := rfl

theorem get?_cons (entry : κ × β) (table : List (κ × β)) (key : κ) :
    get? (entry :: table) key = if entry.1 = key then some entry.2 else get? table key := by
  by_cases h : entry.1 = key <;> simp [get?, h]

/-- A value that was put under a key is found under it. -/
@[simp]
theorem get?_put_self (key : κ) (value : β) (table : List (κ × β)) :
    get? (put key value table) key = some value := by
  induction table with
  | nil => simp [put, get?_cons]
  | cons entry table ih =>
    obtain ⟨k, v⟩ := entry
    by_cases h : k = key
    · simp [put, h, get?_cons]
    · simp [put, h, get?_cons, ih]

/-- Putting a value under a key changes nothing under the others. -/
theorem get?_put_of_ne {key other : κ} (value : β) (table : List (κ × β)) (h : other ≠ key) :
    get? (put key value table) other = get? table other := by
  induction table with
  | nil => simp [put, get?_cons, Ne.symm h]
  | cons entry table ih =>
    obtain ⟨k, v⟩ := entry
    by_cases hk : k = key
    · subst hk
      simp [put, get?_cons, Ne.symm h]
    · simp [put, hk, get?_cons, ih]

/-- Putting the value under a key that is there already changes nothing. -/
theorem put_eq_self {key : κ} {value : β} {table : List (κ × β)}
    (h : get? table key = some value) : put key value table = table := by
  induction table with
  | nil => cases h
  | cons entry table ih =>
    obtain ⟨k, v⟩ := entry
    rw [get?_cons] at h
    rw [put]
    split at h
    · rename_i hk
      rw [if_pos hk, ← hk, ← Option.some.inj h]
    · rename_i hk
      rw [if_neg hk, ih h]

/-- Where no key has two entries, the value under a key is that of its entry. -/
theorem get?_eq_some_iff {table : List (κ × β)} (h : (table.map Prod.fst).Nodup) {key : κ}
    {value : β} : get? table key = some value ↔ (key, value) ∈ table := by
  induction table with
  | nil => simp
  | cons entry table ih =>
    obtain ⟨k, v⟩ := entry
    rw [List.map_cons, List.nodup_cons] at h
    by_cases hk : k = key
    · subst hk
      -- No other entry has this key.
      have hnone : (k, value) ∉ table := fun hmem =>
        h.1 (List.mem_map.2 ⟨(k, value), hmem, rfl⟩)
      simp [get?_cons, hnone, eq_comm]
    · simp [get?_cons, hk, Ne.symm hk, ih h.2]

/-- The entries of the table after a value was put under a key. -/
theorem mem_put {key : κ} {value : β} {table : List (κ × β)} {entry : κ × β}
    (h : entry ∈ put key value table) : entry = (key, value) ∨ entry ∈ table := by
  induction table with
  | nil => simpa [put] using h
  | cons first table ih =>
    obtain ⟨k, v⟩ := first
    rw [put] at h
    split at h
    · rcases List.mem_cons.1 h with rfl | h
      · exact .inl rfl
      · exact .inr (List.mem_cons_of_mem _ h)
    · rcases List.mem_cons.1 h with rfl | h
      · exact .inr List.mem_cons_self
      · rcases ih h with h | h
        · exact .inl h
        · exact .inr (List.mem_cons_of_mem _ h)

/-- An entry under another key is still there after a value was put under a key. -/
theorem mem_put_of_ne {key : κ} {value : β} {table : List (κ × β)} {entry : κ × β}
    (h : entry ∈ table) (hne : entry.1 ≠ key) : entry ∈ put key value table := by
  induction table with
  | nil => simp at h
  | cons first table ih =>
    obtain ⟨k, v⟩ := first
    rw [put]
    split
    · rcases List.mem_cons.1 h with rfl | h
      · exact absurd (by assumption) hne
      · exact List.mem_cons_of_mem _ h
    · rcases List.mem_cons.1 h with rfl | h
      · exact List.mem_cons_self
      · exact List.mem_cons_of_mem _ (ih h)

/-- The keys stay apart when a value is put under one. -/
theorem nodup_keys_put (key : κ) (value : β) {table : List (κ × β)}
    (h : (table.map Prod.fst).Nodup) : ((put key value table).map Prod.fst).Nodup := by
  induction table with
  | nil => simp [put]
  | cons entry table ih =>
    obtain ⟨k, v⟩ := entry
    simp only [List.map_cons, List.nodup_cons, List.mem_map, not_exists, not_and] at h
    rw [put]
    split
    · rename_i hk
      subst hk
      simp only [List.map_cons, List.nodup_cons, List.mem_map, not_exists, not_and]
      exact h
    · rename_i hk
      simp only [List.map_cons, List.nodup_cons, List.mem_map, not_exists, not_and]
      refine ⟨?_, ih h.2⟩
      intro entry hentry heq
      rcases mem_put hentry with rfl | hmem
      · exact hk heq.symm
      · exact h.1 entry hmem heq

end ClassScope.Table
