/-!
# Tables

A table is a list of keys with values in the order in which the keys came in. Writing to a key
that is there keeps its place; a new key goes to the end. The order shows when a table is written
out and when its values are walked through.

## Contents

* `Table.get?`, `Table.insert`, `Table.erase`, `Table.ofList`.
* `get?_insert`, `get?_filter`, `get?_erase`, `get?_map_mk`: each operation through `get?`.
* `get?_eq_none_iff`, `keys_insert`, `nodup_keys_insert`: the keys of a table.
-/

namespace MentalPoker

/-- Keys with values, in the order in which the keys came in. -/
abbrev Table (κ : Type u) (α : Type v) := List (κ × α)

namespace Table

variable {κ : Type u} {α : Type v} [DecidableEq κ]

/-- The value at a key. -/
def get? (k : κ) : Table κ α → Option α
  | [] => none
  | (k', v) :: rest => if k = k' then some v else get? k rest

/-- Whether the key is there. -/
def has (k : κ) (t : Table κ α) : Bool := (get? k t).isSome

/-- Writes a value at a key, in place or at the end. -/
def insert (k : κ) (v : α) : Table κ α → Table κ α
  | [] => [(k, v)]
  | (k', v') :: rest => if k = k' then (k', v) :: rest else (k', v') :: insert k v rest

/-- The table without a key. -/
def erase (k : κ) (t : Table κ α) : Table κ α := t.filter fun entry => entry.1 ≠ k

/-- The table of a list of entries; of two entries with one key the later value counts, in the
place of the earlier. -/
def ofList (entries : List (κ × α)) : Table κ α :=
  entries.foldl (fun t entry => insert entry.1 entry.2 t) []

def keys (t : Table κ α) : List κ := t.map Prod.fst

def values (t : Table κ α) : List α := t.map Prod.snd

@[simp] theorem get?_nil (k : κ) : get? k ([] : Table κ α) = none := rfl

@[simp] theorem get?_insert_self (k : κ) (v : α) (t : Table κ α) :
    get? k (insert k v t) = some v := by
  induction t with
  | nil => simp [insert, get?]
  | cons e rest ih =>
    obtain ⟨k', v'⟩ := e
    by_cases h : k = k'
    · simp [insert, get?, h]
    · simp [insert, get?, h, ih]

theorem get?_insert_of_ne {k j : κ} (h : j ≠ k) (v : α) (t : Table κ α) :
    get? j (insert k v t) = get? j t := by
  induction t with
  | nil => simp [insert, get?, h]
  | cons e rest ih =>
    obtain ⟨k', v'⟩ := e
    by_cases hk : k = k'
    · subst hk
      simp [insert, get?, h]
    · by_cases hj : j = k'
      · simp [insert, get?, hk, hj]
      · simp [insert, get?, hk, hj, ih]

theorem get?_insert (j k : κ) (v : α) (t : Table κ α) :
    get? j (insert k v t) = if j = k then some v else get? j t := by
  by_cases h : j = k
  · rw [if_pos h, h, get?_insert_self]
  · rw [if_neg h, get?_insert_of_ne h]

/-- Entries are dropped by their keys. -/
theorem get?_filter (p : κ → Bool) (k : κ) (t : Table κ α) :
    get? k (t.filter fun entry => p entry.1) = if p k then get? k t else none := by
  induction t with
  | nil => simp
  | cons e rest ih =>
    obtain ⟨k', v'⟩ := e
    rw [List.filter_cons]
    by_cases hp : p k' = true
    · rw [if_pos hp, get?, get?, ih]
      by_cases hk : k = k'
      · rw [if_pos hk, if_pos hk, if_pos (hk ▸ hp)]
      · rw [if_neg hk, if_neg hk]
    · rw [if_neg hp, get?, ih]
      by_cases hk : k = k'
      · rw [hk, if_neg hp, if_neg hp]
      · rw [if_neg hk]

theorem get?_erase (j k : κ) (t : Table κ α) :
    get? j (erase k t) = if j = k then none else get? j t := by
  rw [erase, get?_filter fun key => decide (key ≠ k)]
  by_cases h : j = k <;> simp [h]

theorem get?_erase_of_ne {k j : κ} (h : j ≠ k) (t : Table κ α) :
    get? j (erase k t) = get? j t := by
  rw [get?_erase, if_neg h]

/-- A key that has a value stands in the table with it. -/
theorem mem_of_get?_eq_some {k : κ} {v : α} {t : Table κ α} (h : get? k t = some v) :
    (k, v) ∈ t := by
  induction t with
  | nil => simp at h
  | cons e rest ih =>
    obtain ⟨k', v'⟩ := e
    by_cases hk : k = k'
    · rw [get?, if_pos hk, Option.some.injEq] at h
      rw [hk, h]
      exact List.mem_cons_self
    · rw [get?, if_neg hk] at h
      exact List.mem_cons_of_mem _ (ih h)

/-- Erasing a key that is there makes the table shorter. -/
theorem length_erase_lt {k : κ} {v : α} {t : Table κ α} (h : get? k t = some v) :
    (erase k t).length < t.length := by
  have hmem : (k, v) ∈ t := mem_of_get?_eq_some h
  exact List.length_filter_lt_length_iff_exists.mpr ⟨(k, v), hmem, by simp⟩

/-- The table in which the value of each key is computed from the key. -/
theorem get?_map_mk (f : κ → α) (k : κ) (ks : List κ) :
    get? k (ks.map fun k => (k, f k)) = if k ∈ ks then some (f k) else none := by
  induction ks with
  | nil => rfl
  | cons k' rest ih =>
    by_cases hk : k = k'
    · simp [get?, hk]
    · simp [get?, hk, ih]

/-- A new key goes to the end. -/
theorem insert_of_get?_eq_none {k : κ} {t : Table κ α} (h : get? k t = none) (v : α) :
    insert k v t = t ++ [(k, v)] := by
  induction t with
  | nil => rfl
  | cons e rest ih =>
    obtain ⟨k', v'⟩ := e
    by_cases hk : k = k'
    · simp [get?, hk] at h
    · simp only [get?, hk, if_false] at h
      simp [insert, hk, ih h]

/-- A value is written where it stands already. -/
theorem insert_eq_self {k : κ} {v : α} {t : Table κ α} (h : get? k t = some v) :
    insert k v t = t := by
  induction t with
  | nil => cases h
  | cons e rest ih =>
    obtain ⟨k', v'⟩ := e
    by_cases hk : k = k'
    · rw [get?, if_pos hk, Option.some.injEq] at h
      rw [insert, if_pos hk, h]
    · rw [get?, if_neg hk] at h
      rw [insert, if_neg hk, ih h]

/-! ## Keys -/

/-- A table without a single value is empty. -/
theorem eq_nil_of_get?_eq_none {t : Table κ α} (h : ∀ k, get? k t = none) : t = [] := by
  cases t with
  | nil => rfl
  | cons entry rest =>
    have hhead := h entry.1
    rw [get?, if_pos rfl] at hhead
    cases hhead

/-- A key has no value just when it does not stand in the table. -/
theorem get?_eq_none_iff {k : κ} {t : Table κ α} : get? k t = none ↔ k ∉ keys t := by
  induction t with
  | nil => simp [keys]
  | cons entry rest ih =>
    rw [keys] at ih ⊢
    by_cases hk : k = entry.1
    · simp [get?, hk]
    · simp [get?, hk, ih]

/-- Where each key stands once, an entry is the value at its key. -/
theorem get?_eq_some_of_mem {k : κ} {v : α} {t : Table κ α} (hnodup : (keys t).Nodup)
    (h : (k, v) ∈ t) : get? k t = some v := by
  induction t with
  | nil => cases h
  | cons entry rest ih =>
    obtain ⟨hhead, hrest⟩ := List.nodup_cons.mp hnodup
    rcases List.mem_cons.mp h with rfl | hlater
    · rw [get?, if_pos rfl]
    · -- the key of the head does not come again
      have hk : k ≠ entry.1 := fun he => hhead (he ▸ List.mem_map_of_mem hlater)
      rw [get?, if_neg hk]
      exact ih hrest hlater

theorem keys_insert (k : κ) (v : α) (t : Table κ α) :
    keys (insert k v t) = if k ∈ keys t then keys t else keys t ++ [k] := by
  induction t with
  | nil => rfl
  | cons entry rest ih =>
    simp only [keys] at ih ⊢
    by_cases hk : k = entry.1
    · simp [insert, hk]
    · rw [insert, if_neg hk, List.map_cons, ih]
      by_cases hmem : k ∈ rest.map Prod.fst
      · simp [hmem]
      · simp [hmem, hk]

theorem nodup_keys_insert (k : κ) (v : α) {t : Table κ α} (h : (keys t).Nodup) :
    (keys (insert k v t)).Nodup := by
  rw [keys_insert]
  split
  · exact h
  · next hnew => exact List.nodup_append.mpr ⟨h, List.pairwise_singleton _ k, by
      rintro a ha _ hk rfl
      exact hnew (List.mem_singleton.mp hk ▸ ha)⟩

theorem keys_subset_insert (k : κ) (v : α) (t : Table κ α) : keys t ⊆ keys (insert k v t) := by
  intro j hj
  rw [keys_insert]
  split
  · exact hj
  · exact List.mem_append_left [k] hj

end Table

end MentalPoker
