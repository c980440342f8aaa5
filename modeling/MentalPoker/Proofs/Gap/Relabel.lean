import MentalPoker.Gap

/-!
# Gap buffers do not look into their items

A gap buffer goes by numbers. Whatever is done to the items, without regard to the numbers, is done
to those that wait and to those that are released, and changes nothing else: no release, no missing
number.
-/

namespace MentalPoker

namespace Table

variable {κ : Type u} {α : Type v} {β : Type w} [DecidableEq κ]

/-- The table with every value replaced. -/
def mapValues (f : α → β) (t : Table κ α) : Table κ β := t.map fun entry => (entry.1, f entry.2)

@[simp] theorem get?_mapValues (f : α → β) (k : κ) (t : Table κ α) :
    get? k (mapValues f t) = (get? k t).map f := by
  induction t with
  | nil => rfl
  | cons entry rest ih =>
    by_cases hk : k = entry.1
    · simp [mapValues, get?, hk]
    · simpa [mapValues, get?, hk] using ih

@[simp] theorem has_mapValues (f : α → β) (k : κ) (t : Table κ α) :
    has k (mapValues f t) = has k t := by
  rw [has, get?_mapValues, Option.isSome_map, has]

theorem insert_mapValues (f : α → β) (k : κ) (a : α) (t : Table κ α) :
    insert k (f a) (mapValues f t) = mapValues f (insert k a t) := by
  induction t with
  | nil => rfl
  | cons entry rest ih =>
    by_cases hk : k = entry.1
    · simp [mapValues, insert, hk]
    · simpa [mapValues, insert, hk] using ih

theorem erase_mapValues (f : α → β) (k : κ) (t : Table κ α) :
    erase k (mapValues f t) = mapValues f (erase k t) := by
  rw [erase, mapValues, List.filter_map]
  rfl

omit [DecidableEq κ] in
@[simp] theorem keys_mapValues (f : α → β) (t : Table κ α) : keys (mapValues f t) = keys t := by
  rw [keys, mapValues, List.map_map]
  rfl

omit [DecidableEq κ] in
@[simp] theorem length_mapValues (f : α → β) (t : Table κ α) :
    (mapValues f t).length = t.length :=
  List.length_map _

end Table

namespace GapBuffer

variable {α : Type} {β : Type}

/-- The buffer with every item replaced. -/
def map (f : α → β) (b : GapBuffer α) : GapBuffer β := ⟨b.expected, Table.mapValues f b.pending⟩

def Arrival.map (f : α → β) (a : Arrival α) : Arrival β :=
  ⟨a.buffer.map f, a.missing, Table.mapValues f a.ready⟩

@[simp] theorem absent_mapValues (f : α → β) (pending : Table Int α) (low high : Int) :
    absent (Table.mapValues f pending) low high = absent pending low high := by
  simp only [absent, Table.has_mapValues]

/-- Induction on the fuel, as the draining goes. -/
theorem drainFrom_map (f : α → β) (fuel : Nat) (b : GapBuffer α) :
    drainFrom fuel (b.map f)
      = ((drainFrom fuel b).1.map f, Table.mapValues f (drainFrom fuel b).2) := by
  induction fuel generalizing b with
  | zero => rfl
  | succ fuel ih =>
    have hget : Table.get? (b.map f).expected (b.map f).pending
        = (Table.get? b.expected b.pending).map f := Table.get?_mapValues f _ _
    rw [drainFrom, drainFrom, hget]
    cases Table.get? b.expected b.pending with
    | none => rfl
    | some a =>
      have hnext : (⟨(b.map f).expected + 1, Table.erase (b.map f).expected (b.map f).pending⟩
          : GapBuffer β) = map f ⟨b.expected + 1, Table.erase b.expected b.pending⟩ := by
        rw [map, map, Table.erase_mapValues]
      simp only [Option.map_some, hnext, ih]
      rfl

theorem drain_map (f : α → β) (b : GapBuffer α) :
    (b.map f).drain = (b.drain.1.map f, Table.mapValues f b.drain.2) := by
  rw [drain, map, Table.length_mapValues]
  exact drainFrom_map f _ b

/-- An arrival that was not released before is kept, and then released if nothing is missing in
front of it. -/
theorem arrive_of_le {b : GapBuffer α} {id : Int} (h : ¬ id < b.expected) (a : α) :
    b.arrive id a =
      let c : GapBuffer α := ⟨b.expected, Table.insert id a b.pending⟩
      match absent c.pending c.expected id with
      | [] => ⟨c.drain.1, [], c.drain.2⟩
      | missing => ⟨c, missing, []⟩ :=
  if_neg h

/-- **A live arrival** does to replaced items what it does to the items. -/
theorem arrive_map (f : α → β) (b : GapBuffer α) (id : Int) (a : α) :
    (b.map f).arrive id (f a) = (b.arrive id a).map f := by
  by_cases hlt : id < b.expected
  · rw [arrive_of_lt hlt, arrive_of_lt (b := b.map f) hlt]
    rfl
  · have hkept : (⟨(b.map f).expected, Table.insert id (f a) (b.map f).pending⟩ : GapBuffer β)
        = map f ⟨b.expected, Table.insert id a b.pending⟩ := by
      simp only [map, Table.insert_mapValues]
    rw [arrive_of_le hlt, arrive_of_le (b := b.map f) hlt, hkept]
    generalize (⟨b.expected, Table.insert id a b.pending⟩ : GapBuffer α) = c
    have habsent : absent (c.map f).pending (c.map f).expected id
        = absent c.pending c.expected id := absent_mapValues f _ _ _
    simp only [habsent, drain_map]
    cases absent c.pending c.expected id <;> rfl

theorem keep_map (f : α → β) (b : GapBuffer α) (item : Int × α) :
    (b.map f).keep (item.1, f item.2) = (b.keep item).map f := by
  rw [keep, keep, apply_ite (map f)]
  simp only [map, Table.insert_mapValues]

/-- **Fetched items** do the same. -/
theorem fetched_map (f : α → β) (b : GapBuffer α) (items : List (Int × α)) :
    (b.map f).fetched (Table.mapValues f items)
      = ((b.fetched items).1.map f, Table.mapValues f (b.fetched items).2) := by
  have hkeep : (Table.mapValues f items).foldl keep (b.map f) = (items.foldl keep b).map f := by
    induction items generalizing b with
    | nil => rfl
    | cons item items ih =>
      show (Table.mapValues f items).foldl keep ((b.map f).keep (item.1, f item.2)) = _
      rw [keep_map, ih]
      rfl
  rw [fetched, hkeep, drain_map]
  rfl

@[simp] theorem missing_map (f : α → β) (b : GapBuffer α) : (b.map f).missing = b.missing := by
  simp only [missing, newest?, map, Table.keys_mapValues, absent_mapValues]

@[simp] theorem hasPending_map (f : α → β) (b : GapBuffer α) :
    (b.map f).hasPending = b.hasPending := by
  rw [hasPending, hasPending, map, Table.mapValues, List.isEmpty_map]

end GapBuffer

end MentalPoker
