import MentalPoker.Proofs.Gap.Closing

/-!
# Gaps that are open

What waits in a gap buffer is ahead of the next number (`Ahead`): a delivery releases what it can,
and takes in nothing that was released before. So the next number is missing whenever anything
waits, and it is missing in front of a live arrival just when the arrival is ahead of it. A buffer
in which something waits and one with an open gap are the same.
-/

namespace MentalPoker

namespace GapBuffer

variable {α : Type}

/-- All that waits is ahead of the next number. -/
def Ahead (b : GapBuffer α) : Prop := ∀ id a, Table.get? id b.pending = some a → b.expected < id

theorem ahead_start (first : Int) : (start first : GapBuffer α).Ahead := fun _ _ h => nomatch h

theorem Ahead.settled {b : GapBuffer α} (h : b.Ahead) : b.Settled := by
  rw [Settled]
  cases hget : Table.get? b.expected b.pending with
  | none => rfl
  | some a => exact absurd (h _ a hget) (Int.lt_irrefl _)

/-! ## Deliveries -/

/-- Items are kept only from the next number on. -/
theorem Ahead.le_of_keepAll {b : GapBuffer α} (h : b.Ahead) {items : List (Int × α)} {id : Int}
    {a : α} (hget : Table.get? id (b.keepAll items).pending = some a) : b.expected ≤ id := by
  rw [get?_keepAll] at hget
  split at hget
  · next hle => exact hle
  · exact Int.le_of_lt (h id a hget)

/-- A delivery leaves only what is ahead. -/
theorem Ahead.deliver {b : GapBuffer α} (h : b.Ahead) (d : Delivery α) : (b.deliver d).1.Ahead := by
  rw [deliver_eq_drain h.settled]
  have hd := drain_drained (b.keepAll d.items)
  intro id a hget
  have hstays := hget
  rw [hd.rest] at hstays
  split at hstays
  · cases hstays
  · next hout =>
    have hlow := h.le_of_keepAll hstays
    have hne : id ≠ (b.keepAll d.items).drain.1.expected := by
      rintro rfl
      cases hd.settled.symm.trans hget
    rw [keepAll_expected] at hout
    omega

theorem Ahead.deliverAll {b : GapBuffer α} (h : b.Ahead) (ds : List (Delivery α)) :
    (b.deliverAll ds).1.Ahead := by
  induction ds generalizing b with
  | nil => exact h
  | cons d ds ih => exact ih (h.deliver d)

/-! ## What is missing -/

/-- The next number is missing in front of every number that is ahead of it. -/
theorem Settled.absent_ne_nil {b : GapBuffer α} (h : b.Settled) {high : Int}
    (hhigh : b.expected < high) : absent b.pending b.expected high ≠ [] :=
  List.ne_nil_of_mem (mem_absent.mpr ⟨Int.le_refl _, hhigh, h⟩)

/-- There is a gap in front of an arrival just when it is ahead of the next number. -/
theorem Settled.hasGap_arrive {b : GapBuffer α} (h : b.Settled) (id : Int) (a : α) :
    (b.arrive id a).hasGap = true ↔ b.expected < id := by
  rw [Arrival.hasGap, Bool.not_eq_true', List.isEmpty_eq_false_iff, missing_arrive]
  constructor
  · intro hgap
    obtain ⟨m, hm⟩ := List.exists_mem_of_ne_nil _ hgap
    obtain ⟨hlow, hhigh, _⟩ := mem_absent.mp hm
    omega
  · exact h.absent_ne_nil

/-- The greatest number that waits does wait. -/
theorem waits_of_newest? {b : GapBuffer α} {newest : Int} (h : b.newest? = some newest) :
    ∃ a, Table.get? newest b.pending = some a := by
  have hmem : newest ∈ Table.keys b.pending := List.max?_mem h
  cases hget : Table.get? newest b.pending with
  | some a => exact ⟨a, rfl⟩
  | none => exact absurd hmem (Table.get?_eq_none_iff.mp hget)

/-- **An open gap.** Numbers are missing just when something waits. -/
theorem Ahead.missing_ne_nil_iff {b : GapBuffer α} (h : b.Ahead) :
    b.missing ≠ [] ↔ b.hasPending = true := by
  rw [missing, hasPending, Bool.not_eq_true', List.isEmpty_eq_false_iff]
  cases hnewest : b.newest? with
  | none =>
    have hempty : b.pending = [] := List.map_eq_nil_iff.mp (List.max?_eq_none_iff.mp hnewest)
    simp [hempty]
  | some newest =>
    obtain ⟨a, hget⟩ := waits_of_newest? hnewest
    have hmissing := h.settled.absent_ne_nil (h newest a hget)
    have hwaits : b.pending ≠ [] := List.ne_nil_of_mem (Table.mem_of_get?_eq_some hget)
    exact ⟨fun _ => hwaits, fun _ => hmissing⟩

theorem Ahead.missing_eq_nil {b : GapBuffer α} (h : b.Ahead) (hnothing : b.hasPending = false) :
    b.missing = [] := by
  by_contra hopen
  cases (h.missing_ne_nil_iff.mp hopen).symm.trans hnothing

/-- After an arrival with a gap in front of it something waits. -/
theorem hasPending_arrive_of_hasGap {b : GapBuffer α} {id : Int} {a : α}
    (h : (b.arrive id a).hasGap = true) : (b.arrive id a).buffer.hasPending = true := by
  rcases arrive_cases b id a with ⟨_, harrive⟩ | ⟨hle, _, harrive⟩ | ⟨_, _, harrive⟩
  · rw [harrive] at h
    cases h
  · have hget : Table.get? id (b.keep (id, a)).pending = some a := by
      rw [get?_keep, if_pos ⟨rfl, hle⟩]
    rw [harrive, hasPending, Bool.not_eq_true', List.isEmpty_eq_false_iff]
    exact List.ne_nil_of_mem (Table.mem_of_get?_eq_some hget)
  · rw [harrive] at h
    cases h

end GapBuffer

end MentalPoker
