import MentalPoker.Gap

/-!
# What a gap buffer releases

The two ways into a gap buffer are one. A live arrival is refused a release when numbers are
missing in front of it, a fetch never is; but a buffer that stands still has its next number
missing anyway, so releasing would bring nothing. Hence a live arrival does what a fetch of that
one item does, and all that follows is about keeping items and draining.

## The architecture

* **`between`**: runs of numbers, and how they join.
* **`Drained`**: what a release does, stated through `Table.get?`; `drain_drained` is the one
  induction on the draining itself.
* **`Settled`**: the next number does not wait. Every buffer is settled after a release.
* **`latest?`**: the last item with a number, in the order in which items came; `get?_keepAll`
  says that a buffer holds the last ones.
* **`arrive_eq_drain`**: the live arrival as a fetch of one item.
-/

namespace MentalPoker

namespace GapBuffer

variable {α : Type}

/-! ## Runs of numbers -/

theorem mem_between {id low high : Int} : id ∈ between low high ↔ low ≤ id ∧ id < high := by
  simp only [between, List.mem_map, List.mem_range]
  constructor
  · rintro ⟨k, hk, rfl⟩
    omega
  · rintro ⟨hlow, hhigh⟩
    exact ⟨(id - low).toNat, by omega, by omega⟩

@[simp] theorem between_self (n : Int) : between n n = [] := by
  simp [between]

/-- A run that is not empty begins with its lower end. -/
theorem between_cons {low high : Int} (h : low < high) :
    between low high = low :: between (low + 1) high := by
  have hlen : (high - low).toNat = (high - (low + 1)).toNat + 1 := by omega
  simp only [between, hlen, List.range_succ_eq_map, List.map_cons, List.map_map]
  refine List.cons_eq_cons.mpr ⟨by simp, List.map_congr_left fun k _ => ?_⟩
  simp only [Function.comp_apply]
  omega

/-- Runs that touch join. Induction on the length of the first. -/
theorem between_append {a b c : Int} (hab : a ≤ b) (hbc : b ≤ c) :
    between a b ++ between b c = between a c := by
  obtain ⟨n, hn⟩ : ∃ n : Nat, (b - a).toNat = n := ⟨_, rfl⟩
  induction n generalizing a with
  | zero =>
    have hba : b = a := by omega
    rw [hba, between_self, List.nil_append]
  | succ n ih =>
    rw [between_cons (by omega : a < b), between_cons (by omega : a < c), List.cons_append]
    rw [ih (by omega) (by omega)]

/-! ## Draining -/

/-- What a release does: `ready` goes out of `b`, and `b'` is left. -/
structure Drained (b b' : GapBuffer α) (ready : List (Int × α)) : Prop where
  /-- The numbers go out in order, each once, from the next one on. -/
  ids : ready.map Prod.fst = between b.expected b'.expected
  le : b.expected ≤ b'.expected
  /-- What goes out waited under its number. -/
  waited : ∀ entry ∈ ready, Table.get? entry.1 b.pending = some entry.2
  /-- The release stops where nothing waits. -/
  stops : Table.get? b'.expected b.pending = none
  /-- All else goes on waiting. -/
  rest : ∀ id, Table.get? id b'.pending =
    if b.expected ≤ id ∧ id < b'.expected then none else Table.get? id b.pending

/-- What goes out has a number between the two marks. -/
theorem Drained.range {b b' : GapBuffer α} {ready : List (Int × α)} (h : Drained b b' ready)
    {entry : Int × α} (hentry : entry ∈ ready) :
    b.expected ≤ entry.1 ∧ entry.1 < b'.expected := by
  have hmem : entry.1 ∈ ready.map Prod.fst := List.mem_map_of_mem hentry
  rw [h.ids] at hmem
  exact mem_between.mp hmem

/-- Nothing goes out when the next number does not wait. -/
theorem Drained.refl {b : GapBuffer α} (h : Table.get? b.expected b.pending = none) :
    Drained b b [] where
  ids := by simp
  le := Int.le_refl _
  waited := by simp
  stops := h
  rest id := by rw [if_neg (by omega)]

/-- One number more in front of a release. -/
theorem Drained.cons {b b' : GapBuffer α} {a : α} {ready : List (Int × α)}
    (ha : Table.get? b.expected b.pending = some a)
    (h : Drained ⟨b.expected + 1, Table.erase b.expected b.pending⟩ b' ready) :
    Drained b b' ((b.expected, a) :: ready) := by
  have hle : b.expected + 1 ≤ b'.expected := h.le
  have hne (id : Int) (hid : b.expected + 1 ≤ id) : id ≠ b.expected := by omega
  refine ⟨?_, by omega, ?_, ?_, ?_⟩
  · rw [List.map_cons, h.ids, between_cons (by omega : b.expected < b'.expected)]
  · intro entry hentry
    rcases List.mem_cons.mp hentry with rfl | hentry
    · exact ha
    · have hwaited := h.waited entry hentry
      rwa [Table.get?_erase_of_ne (hne _ (h.range hentry).1)] at hwaited
  · have hstops := h.stops
    rwa [Table.get?_erase_of_ne (hne _ hle)] at hstops
  · intro id
    have hrest := h.rest id
    simp only at hrest
    rw [hrest, Table.get?_erase]
    by_cases hid : id = b.expected
    · -- the number that went out in front: the rest starts above it, and it was erased
      rw [if_neg (by omega), if_pos hid, if_pos (by omega)]
    · rw [if_neg hid]
      have hiff : (b.expected + 1 ≤ id ∧ id < b'.expected)
          ↔ (b.expected ≤ id ∧ id < b'.expected) := by omega
      simp only [hiff]

/-- The draining with enough fuel. Induction on the fuel: each number that goes out makes the
table shorter, so the fuel outlasts the table. -/
theorem drainFrom_drained (fuel : Nat) (b : GapBuffer α) (h : b.pending.length ≤ fuel) :
    Drained b (drainFrom fuel b).1 (drainFrom fuel b).2 := by
  induction fuel generalizing b with
  | zero =>
    have hnil : b.pending = [] := List.length_eq_zero_iff.mp (by omega)
    exact .refl (by rw [hnil, Table.get?_nil])
  | succ fuel ih =>
    rw [drainFrom]
    cases ha : Table.get? b.expected b.pending with
    | none => exact .refl ha
    | some a =>
      -- one entry fewer, so what is left of the fuel is enough
      have hlt := Table.length_erase_lt ha
      exact .cons ha (ih _ (by simp only; omega))

theorem drain_drained (b : GapBuffer α) : Drained b b.drain.1 b.drain.2 :=
  drainFrom_drained _ b (Nat.le_refl _)

/-- The next number does not wait, so nothing is held back that could go out. -/
def Settled (b : GapBuffer α) : Prop := Table.get? b.expected b.pending = none

theorem settled_start (first : Int) : (start first : GapBuffer α).Settled := rfl

theorem Drained.settled {b b' : GapBuffer α} {ready : List (Int × α)} (h : Drained b b' ready) :
    b'.Settled := by
  rw [Settled, h.rest, if_neg (by omega)]
  exact h.stops

/-- A settled buffer releases nothing. -/
theorem Settled.drain {b : GapBuffer α} (h : b.Settled) : b.drain = (b, []) := by
  unfold GapBuffer.drain
  cases b.pending.length with
  | zero => rfl
  | succ n =>
    have hnone : Table.get? b.expected b.pending = none := h
    rw [drainFrom, hnone]

/-! ## Keeping -/

/-- The last item with a number, of items in the order in which they came. -/
def latest? (id : Int) (items : List (Int × α)) : Option α :=
  (items.filter fun item => item.1 = id).getLast?.map Prod.snd

@[simp] theorem latest?_nil (id : Int) : latest? id ([] : List (Int × α)) = none := rfl

theorem latest?_append (id : Int) (xs ys : List (Int × α)) :
    latest? id (xs ++ ys) = (latest? id ys).or (latest? id xs) := by
  simp only [latest?, List.filter_append, List.getLast?_append]
  cases (ys.filter fun item => item.1 = id).getLast? <;> simp

theorem latest?_singleton (id : Int) (item : Int × α) :
    latest? id [item] = if id = item.1 then some item.2 else none := by
  by_cases h : id = item.1
  · simp [latest?, h]
  · have h' : item.1 ≠ id := fun he => h he.symm
    simp [latest?, h, h']

theorem latest?_cons (id : Int) (item : Int × α) (items : List (Int × α)) :
    latest? id (item :: items) =
      (latest? id items).or (if id = item.1 then some item.2 else none) := by
  rw [← List.singleton_append, latest?_append, latest?_singleton]

/-- A number has a last item just when an item with it came. -/
theorem latest?_eq_none {id : Int} {items : List (Int × α)} :
    latest? id items = none ↔ id ∉ items.map Prod.fst := by
  induction items with
  | nil => simp
  | cons item items ih =>
    rw [latest?_cons, Option.or_eq_none_iff, ih]
    by_cases h : id = item.1
    · simp [h]
    · simp [h]

/-- The last item with a number is one of the items. -/
theorem mem_of_latest?_eq_some {id : Int} {a : α} {items : List (Int × α)}
    (h : latest? id items = some a) : (id, a) ∈ items := by
  obtain ⟨⟨id', a'⟩, hlast, rfl⟩ := Option.map_eq_some_iff.mp h
  have hmem := List.mem_filter.mp (List.mem_of_getLast? hlast)
  have hid : id' = id := by simpa using hmem.2
  exact hid ▸ hmem.1

/-- Puts items into the buffer one after another. -/
def keepAll (b : GapBuffer α) (items : List (Int × α)) : GapBuffer α := items.foldl keep b

@[simp] theorem keep_expected (b : GapBuffer α) (item : Int × α) :
    (b.keep item).expected = b.expected := by
  unfold keep
  split <;> rfl

theorem get?_keep (b : GapBuffer α) (item : Int × α) (id : Int) :
    Table.get? id (b.keep item).pending =
      if id = item.1 ∧ b.expected ≤ id then some item.2 else Table.get? id b.pending := by
  unfold keep
  by_cases h : b.expected ≤ item.1
  · rw [if_pos h, Table.get?_insert]
    by_cases hid : id = item.1
    · rw [if_pos hid, if_pos ⟨hid, by omega⟩]
    · rw [if_neg hid, if_neg fun hh => hid hh.1]
  · rw [if_neg h, if_neg (by omega)]

@[simp] theorem keepAll_expected (b : GapBuffer α) (items : List (Int × α)) :
    (b.keepAll items).expected = b.expected := by
  induction items generalizing b with
  | nil => rfl
  | cons item items ih =>
    show ((b.keep item).keepAll items).expected = b.expected
    rw [ih, keep_expected]

/-- After keeping some items a number that was not released holds the last item that came with
it. Induction on the items, over any buffer. -/
theorem get?_keepAll (b : GapBuffer α) (items : List (Int × α)) (id : Int) :
    Table.get? id (b.keepAll items).pending =
      if b.expected ≤ id then (latest? id items).or (Table.get? id b.pending)
      else Table.get? id b.pending := by
  induction items generalizing b with
  | nil => simp [keepAll]
  | cons item items ih =>
    show Table.get? id ((b.keep item).keepAll items).pending = _
    rw [ih, keep_expected, get?_keep, latest?_cons]
    by_cases hle : b.expected ≤ id
    · rw [if_pos hle, if_pos hle, Option.or_assoc]
      by_cases hid : id = item.1
      · rw [if_pos ⟨hid, hle⟩, if_pos hid, Option.some_or]
      · rw [if_neg fun h => hid h.1, if_neg hid, Option.none_or]
    · rw [if_neg hle, if_neg hle, if_neg fun h => hle h.2]

theorem fetched_eq_drain (b : GapBuffer α) (items : List (Int × α)) :
    b.fetched items = (b.keepAll items).drain := rfl

/-! ## Live arrivals -/

/-- The three things that can happen to a live arrival: it was released before; numbers are missing
in front of it, so it is kept; or it is kept and what is in order goes out. -/
theorem arrive_cases (b : GapBuffer α) (id : Int) (a : α) :
    (id < b.expected ∧ b.arrive id a = ⟨b, [], []⟩)
      ∨ (b.expected ≤ id ∧ absent (b.keep (id, a)).pending b.expected id ≠ []
        ∧ b.arrive id a
          = ⟨b.keep (id, a), absent (b.keep (id, a)).pending b.expected id, []⟩)
      ∨ (b.expected ≤ id ∧ absent (b.keep (id, a)).pending b.expected id = []
        ∧ b.arrive id a = ⟨(b.keep (id, a)).drain.1, [], (b.keep (id, a)).drain.2⟩) := by
  by_cases h : id < b.expected
  · exact .inl ⟨h, arrive_of_lt h a⟩
  · have hle : b.expected ≤ id := by omega
    have hkeep : b.keep (id, a) = { b with pending := Table.insert id a b.pending } := by
      rw [keep, if_pos hle]
    rw [hkeep]
    unfold arrive
    rw [if_neg h]
    cases hm : absent (Table.insert id a b.pending) b.expected id with
    | nil => exact .inr (.inr ⟨hle, rfl, by simp only [hm]⟩)
    | cons m ms => exact .inr (.inl ⟨hle, List.cons_ne_nil m ms, by simp only [hm]⟩)

/-- A number that the buffer refuses, having released it, changes nothing. -/
theorem keep_of_lt {b : GapBuffer α} {id : Int} (h : id < b.expected) (a : α) :
    b.keep (id, a) = b := by
  rw [keep, if_neg (by simp only; omega)]

/-- **A live arrival is a fetch of one item.** A settled buffer lacks its next number, so when
numbers are missing in front of the arrival, releasing would bring nothing. -/
theorem arrive_eq_drain {b : GapBuffer α} (hb : b.Settled) (id : Int) (a : α) :
    ((b.arrive id a).buffer, (b.arrive id a).ready) = (b.keep (id, a)).drain := by
  rcases arrive_cases b id a with ⟨hlt, h⟩ | ⟨hle, hmiss, h⟩ | ⟨_, _, h⟩
  · rw [h, keep_of_lt hlt, hb.drain]
  · -- the arrival is not itself the next number, else nothing would be missing
    have hne : b.expected ≠ id := by
      intro he
      apply hmiss
      rw [he, absent, between_self, List.filter_nil]
    have hkept : (b.keep (id, a)).Settled := by
      rw [Settled, keep_expected, get?_keep, if_neg fun hh => hne hh.1]
      exact hb
    rw [h, hkept.drain]
  · rw [h]

end GapBuffer

end MentalPoker
