import Mathlib.Data.List.Nodup
import MentalPoker.Proofs.Gap.History

/-!
# Gaps that close

A buffer moves past a number once every number up to it came, in whatever order and by whatever
way. There are two sides to it. Seen from one state: a number that came is released or waits
(`Has`), no delivery takes that back, and a settled buffer that has all numbers up to one has
released them (`lt_expected_of_has`). Seen over a whole history: when what came is a complete
series, just that series was released, and nothing is left (`deliverAll_of_complete`).
-/

namespace MentalPoker

/-- Lists of entries with the same keys in the same order, each key once, are equal when one holds
no other entries than the other. -/
theorem Table.eq_of_keys_eq {κ : Type u} {β : Type v} {xs ys : Table κ β}
    (hkeys : xs.map Prod.fst = ys.map Prod.fst) (hnodup : (ys.map Prod.fst).Nodup)
    (hsub : ∀ entry ∈ xs, entry ∈ ys) : xs = ys := by
  induction xs generalizing ys with
  | nil =>
    rw [List.map_nil] at hkeys
    exact (List.map_eq_nil_iff.mp hkeys.symm).symm
  | cons x xs ih =>
    cases ys with
    | nil => cases hkeys
    | cons y ys =>
      rw [List.map_cons, List.map_cons, List.cons.injEq] at hkeys
      rw [List.map_cons, List.nodup_cons] at hnodup
      obtain ⟨hhead, htail⟩ := hkeys
      have hx : x = y := by
        rcases List.mem_cons.mp (hsub x List.mem_cons_self) with hxy | hlater
        · exact hxy
        · exact absurd (hhead ▸ List.mem_map_of_mem hlater) hnodup.1
      have hrest : ∀ entry ∈ xs, entry ∈ ys := by
        intro entry hentry
        rcases List.mem_cons.mp (hsub entry (List.mem_cons_of_mem x hentry)) with rfl | hlater
        · -- the key of the head does not come again
          exact absurd (htail ▸ List.mem_map_of_mem hentry) hnodup.1
        · exact hlater
      rw [hx, ih htail hnodup.2 hrest]

namespace GapBuffer

variable {α : Type}

/-! ## From one state on -/

/-- The number came: it was released, or it waits. -/
def Has (b : GapBuffer α) (id : Int) : Prop :=
  id < b.expected ∨ (Table.get? id b.pending).isSome = true

/-- A settled buffer that has every number up to one has released them all. -/
theorem lt_expected_of_has {b : GapBuffer α} (hb : b.Settled) {n : Int}
    (h : ∀ m, m ≤ n → b.Has m) : n < b.expected := by
  by_contra hle
  rcases h b.expected (by omega) with hlt | hwaits
  · omega
  · have hnone : Table.get? b.expected b.pending = none := hb
    rw [hnone] at hwaits
    cases hwaits

theorem settled_deliver {b : GapBuffer α} (hb : b.Settled) (d : Delivery α) :
    (b.deliver d).1.Settled := by
  rw [deliver_eq_drain hb]
  exact (drain_drained _).settled

/-- A delivery never moves the next number back. -/
theorem expected_le_deliver {b : GapBuffer α} (hb : b.Settled) (d : Delivery α) :
    b.expected ≤ (b.deliver d).1.expected := by
  have hle := (drain_drained (b.keepAll d.items)).le
  rw [keepAll_expected] at hle
  rw [deliver_eq_drain hb]
  exact hle

/-- What was released or waits before a release was released or waits after it. -/
theorem Drained.has {b b' : GapBuffer α} {ready : List (Int × α)} (h : Drained b b' ready)
    {id : Int} (hid : b.Has id) : b'.Has id := by
  by_cases hlt : id < b'.expected
  · exact .inl hlt
  · rcases hid with hreleased | hwaits
    · have hle := h.le
      omega
    · refine .inr ?_
      rw [h.rest, if_neg (by omega)]
      exact hwaits

theorem Has.keepAll {b : GapBuffer α} {id : Int} (h : b.Has id) (items : List (Int × α)) :
    (b.keepAll items).Has id := by
  rcases h with hreleased | hwaits
  · exact .inl (by rwa [keepAll_expected])
  · refine .inr ?_
    rw [get?_keepAll]
    split
    · rw [Option.isSome_or, hwaits, Bool.or_true]
    · exact hwaits

theorem has_keepAll_of_mem (b : GapBuffer α) {items : List (Int × α)} {item : Int × α}
    (h : item ∈ items) : (b.keepAll items).Has item.1 := by
  by_cases hlt : item.1 < b.expected
  · exact .inl (by rwa [keepAll_expected])
  · refine .inr ?_
    rw [get?_keepAll, if_pos (by omega), Option.isSome_or]
    have hcame : latest? item.1 items ≠ none := by
      rw [Ne, latest?_eq_none, not_not]
      exact List.mem_map_of_mem h
    rw [Option.isSome_iff_ne_none.mpr hcame, Bool.true_or]

/-- A delivery takes no number back. -/
theorem Has.deliver {b : GapBuffer α} (hb : b.Settled) {id : Int} (h : b.Has id)
    (d : Delivery α) : (b.deliver d).1.Has id := by
  rw [deliver_eq_drain hb]
  exact (drain_drained _).has (h.keepAll d.items)

/-- What a delivery brings came. -/
theorem has_deliver_of_mem {b : GapBuffer α} (hb : b.Settled) {d : Delivery α} {item : Int × α}
    (h : item ∈ d.items) : (b.deliver d).1.Has item.1 := by
  rw [deliver_eq_drain hb]
  exact (drain_drained _).has (has_keepAll_of_mem b h)

/-- Deliveries leave the buffer settled and take no number back. -/
theorem Has.deliverAll {b : GapBuffer α} (hb : b.Settled) (ds : List (Delivery α)) :
    (b.deliverAll ds).1.Settled ∧ ∀ id, b.Has id → (b.deliverAll ds).1.Has id := by
  induction ds generalizing b with
  | nil => exact ⟨hb, fun _ h => h⟩
  | cons d ds ih =>
    obtain ⟨hsettled, hkeeps⟩ := ih (settled_deliver hb d)
    exact ⟨hsettled, fun id h => hkeeps id (h.deliver hb d)⟩

/-! ## A gap in front of an arrival -/

theorem mem_absent {pending : Table Int α} {low high id : Int} :
    id ∈ absent pending low high ↔ low ≤ id ∧ id < high ∧ Table.get? id pending = none := by
  rw [absent, List.mem_filter, mem_between, and_assoc, Bool.not_eq_true', Table.has,
    Option.isSome_eq_false_iff, Option.isNone_iff_eq_none]

/-- The numbers that are missing in front of an arrival are those from the next one up to it that do
not wait; the arrival itself is none of them. -/
theorem missing_arrive (b : GapBuffer α) (id : Int) (a : α) :
    (b.arrive id a).missing = absent b.pending b.expected id := by
  have hkept : absent (b.keep (id, a)).pending b.expected id = absent b.pending b.expected id := by
    refine List.filter_congr fun m hm => ?_
    have hlt := (mem_between.mp hm).2
    rw [Table.has, Table.has, get?_keep, if_neg fun h => absurd h.1 (show m ≠ id by omega)]
  rcases arrive_cases b id a with ⟨hlt, h⟩ | ⟨_, _, h⟩ | ⟨_, hnone, h⟩
  · -- a number that was released has nothing missing in front of it
    have hnothing : between b.expected id = [] := by
      rw [between, show (id - b.expected).toNat = 0 by omega, List.range_zero, List.map_nil]
    rw [h, absent, hnothing, List.filter_nil]
  · rw [h, hkept]
  · rw [h, ← hkept, hnone]

theorem mem_missing_arrive {b : GapBuffer α} {id m : Int} {a : α} :
    m ∈ (b.arrive id a).missing ↔ b.expected ≤ m ∧ m < id ∧ Table.get? m b.pending = none := by
  rw [missing_arrive, mem_absent]

/-- After an arrival every number up to it came, or is missing in front of it. -/
theorem missing_or_has_arrive {b : GapBuffer α} (hb : b.Settled) (id : Int) (a : α) {m : Int}
    (h : m ≤ id) : m ∈ (b.arrive id a).missing ∨ (b.arrive id a).buffer.Has m := by
  have hkeeps : b.Has m → (b.arrive id a).buffer.Has m := fun hm => hm.deliver hb (.live id a)
  by_cases hid : m = id
  · have hitem : (id, a) ∈ (Delivery.live id a).items := List.mem_singleton.mpr rfl
    exact .inr (hid ▸ has_deliver_of_mem hb hitem)
  · by_cases hlt : m < b.expected
    · exact .inr (hkeeps (.inl hlt))
    · cases hget : Table.get? m b.pending with
      | none => exact .inl (mem_missing_arrive.mpr ⟨by omega, by omega, hget⟩)
      | some x => exact .inr (hkeeps (.inr (by rw [hget, Option.isSome_some])))

/-! ## Complete histories -/

theorem nodup_between (low high : Int) : (between low high).Nodup :=
  List.nodup_range.map fun a b (h : low + (a : Int) = low + b) => by omega

/-- **A complete series** that came in any way was released as it is, and nothing is left. -/
theorem deliverAll_of_complete {first last : Int} (hle : first ≤ last) {items : List (Int × α)}
    (hitems : items.map Prod.fst = between first last) {ds : List (Delivery α)}
    (h : ∀ item, item ∈ history ds ↔ item ∈ items) :
    (start first).deliverAll ds = (start last, items) := by
  have htracks := tracks_deliverAll first ds
  have hcame (id : Int) : id ∈ (history ds).map Prod.fst ↔ first ≤ id ∧ id < last := by
    rw [← mem_between, ← hitems]
    simp only [List.mem_map, h]
  have hexpected : ((start first).deliverAll ds).1.expected = last := by
    have hlow := htracks.le
    have hawaited := htracks.awaited
    rw [hcame] at hawaited
    by_contra hne
    -- the next number is not below the end of the series, so the end itself must have come
    have hend := (hcame last).mp (htracks.came last hle (by omega))
    omega
  have hpending : ((start first).deliverAll ds).1.pending = [] := by
    refine Table.eq_nil_of_get?_eq_none fun id => ?_
    rw [htracks.pending]
    split
    · rw [latest?_eq_none, hcame]
      omega
    · rfl
  have hreleased : ((start first).deliverAll ds).2 = items := by
    refine Table.eq_of_keys_eq ?_ ?_ fun item hitem => (h item).mp (mem_history_of_released hitem)
    · rw [ids_deliverAll, hexpected, hitems]
    · rw [hitems]
      exact nodup_between first last
  refine Prod.ext ?_ hreleased
  calc ((start first).deliverAll ds).1
      = ⟨((start first).deliverAll ds).1.expected, ((start first).deliverAll ds).1.pending⟩ := rfl
    _ = start last := by rw [hexpected, hpending, start]

end GapBuffer

end MentalPoker
