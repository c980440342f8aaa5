import Mathlib.Data.List.Induction
import Mathlib.Order.Bounds.Defs
import MentalPoker.Proofs.Gap.Release

/-!
# Gap buffers over whole histories

A gap buffer is followed from its start through any series of live arrivals and fetched batches.
The history is all that came, in the order in which it came; the buffer itself forgets most of it.

## The crux

The state of the buffer is determined by the history (`Tracks`): the next number is the first that
never came, and what waits is the last item of each greater number that came. A delivery extends
the history by its items, keeps them and drains (`deliver_eq_drain`), and every item that goes out
is the last one of its number up to then (`Tracks.released`).
-/

namespace MentalPoker

namespace GapBuffer

variable {α : Type}

/-! ## Deliveries -/

/-- What comes to a gap buffer. -/
inductive Delivery (α : Type) where
  /-- An item of the live feed. -/
  | live (id : Int) (item : α)
  /-- The items that a fetch brought. -/
  | batch (items : List (Int × α))

/-- The items of a delivery with their numbers. -/
def Delivery.items : Delivery α → List (Int × α)
  | live id item => [(id, item)]
  | batch items => items

/-- Takes a delivery; what is released stands beside the buffer. -/
def deliver (b : GapBuffer α) : Delivery α → GapBuffer α × List (Int × α)
  | .live id item => ((b.arrive id item).buffer, (b.arrive id item).ready)
  | .batch items => b.fetched items

/-- Takes deliveries one after another; all that is released stands beside the buffer. -/
def deliverAll (b : GapBuffer α) : List (Delivery α) → GapBuffer α × List (Int × α)
  | [] => (b, [])
  | d :: rest =>
    let (b, first) := b.deliver d
    let (b, more) := b.deliverAll rest
    (b, first ++ more)

/-- All that came with some deliveries. -/
def history (ds : List (Delivery α)) : List (Int × α) := ds.flatMap Delivery.items

theorem history_append (ds es : List (Delivery α)) :
    history (ds ++ es) = history ds ++ history es :=
  List.flatMap_append

theorem deliverAll_append (b : GapBuffer α) (ds es : List (Delivery α)) :
    b.deliverAll (ds ++ es) =
      (((b.deliverAll ds).1.deliverAll es).1,
        (b.deliverAll ds).2 ++ ((b.deliverAll ds).1.deliverAll es).2) := by
  induction ds generalizing b with
  | nil => rfl
  | cons d ds ih => simp only [List.cons_append, deliverAll, ih, List.append_assoc]

theorem deliverAll_singleton (b : GapBuffer α) (d : Delivery α) :
    b.deliverAll [d] = b.deliver d := by
  simp only [deliverAll, List.append_nil]

/-- Live or fetched, the items of a delivery are kept and what is in order goes out. -/
theorem deliver_eq_drain {b : GapBuffer α} (hb : b.Settled) (d : Delivery α) :
    b.deliver d = (b.keepAll d.items).drain := by
  cases d with
  | live id item => exact arrive_eq_drain hb id item
  | batch items => exact fetched_eq_drain b items

/-! ## What waits -/

/-- Every item that waits has a property. -/
def Waiting (P : α → Prop) (b : GapBuffer α) : Prop :=
  ∀ id a, Table.get? id b.pending = some a → P a

theorem waiting_start (P : α → Prop) (first : Int) : (start first).Waiting P := by
  intro id a h
  cases h

theorem Waiting.keepAll {P : α → Prop} {b : GapBuffer α} (h : b.Waiting P)
    {items : List (Int × α)} (hitems : ∀ item ∈ items, P item.2) : (b.keepAll items).Waiting P := by
  intro id a hget
  rw [get?_keepAll] at hget
  split at hget
  · rcases Option.or_eq_some_iff.mp hget with hlatest | ⟨_, hold⟩
    · exact hitems _ (mem_of_latest?_eq_some hlatest)
    · exact h id a hold
  · exact h id a hget

theorem Waiting.drain {P : α → Prop} {b : GapBuffer α} (h : b.Waiting P) :
    b.drain.1.Waiting P ∧ ∀ item ∈ b.drain.2, P item.2 := by
  have hd := drain_drained b
  refine ⟨fun id a hget => ?_, fun item hitem => h _ _ (hd.waited item hitem)⟩
  rw [hd.rest] at hget
  split at hget
  · cases hget
  · exact h id a hget

/-- What a delivery leaves waiting and what it releases waited before or came with it. -/
theorem Waiting.deliver {P : α → Prop} {b : GapBuffer α} (h : b.Waiting P) {d : Delivery α}
    (hd : ∀ item ∈ d.items, P item.2) :
    (b.deliver d).1.Waiting P ∧ ∀ item ∈ (b.deliver d).2, P item.2 := by
  have hkept := h.keepAll hd
  cases d with
  | live id a =>
    rcases arrive_cases b id a with ⟨_, harrive⟩ | ⟨_, _, harrive⟩ | ⟨_, _, harrive⟩
    · rw [GapBuffer.deliver, harrive]
      exact ⟨h, fun item hitem => nomatch hitem⟩
    · rw [GapBuffer.deliver, harrive]
      exact ⟨hkept, fun item hitem => nomatch hitem⟩
    · rw [GapBuffer.deliver, harrive]
      exact hkept.drain
  | batch items => exact hkept.drain

theorem Waiting.deliverAll {P : α → Prop} {b : GapBuffer α} (h : b.Waiting P)
    {ds : List (Delivery α)} (hds : ∀ d ∈ ds, ∀ item ∈ d.items, P item.2) :
    (b.deliverAll ds).1.Waiting P ∧ ∀ item ∈ (b.deliverAll ds).2, P item.2 := by
  induction ds generalizing b with
  | nil => exact ⟨h, fun item hitem => nomatch hitem⟩
  | cons d ds ih =>
    obtain ⟨hd, hrest⟩ := List.forall_mem_cons.mp hds
    obtain ⟨hwaiting, hfirst⟩ := h.deliver hd
    obtain ⟨hwaiting', hmore⟩ := ih hwaiting hrest
    exact ⟨hwaiting', List.forall_mem_append.mpr ⟨hfirst, hmore⟩⟩

/-! ## The history in the buffer -/

/-- How the history shows in the buffer. -/
structure Tracks (first : Int) (past : List (Int × α)) (b : GapBuffer α) : Prop where
  le : first ≤ b.expected
  /-- What was released came. -/
  came : ∀ id, first ≤ id → id < b.expected → id ∈ past.map Prod.fst
  /-- The next number did not come. -/
  awaited : b.expected ∉ past.map Prod.fst
  /-- The last item of every other number waits. -/
  pending : ∀ id, Table.get? id b.pending = if b.expected ≤ id then latest? id past else none

theorem tracks_start (first : Int) : Tracks first [] (start first : GapBuffer α) where
  le := Int.le_refl _
  came id h h' := by
    simp only [start] at h'
    omega
  awaited := by simp
  pending id := by rw [latest?_nil, ite_self]; rfl

theorem Tracks.settled {first : Int} {past : List (Int × α)} {b : GapBuffer α}
    (h : Tracks first past b) : b.Settled := by
  rw [Settled, h.pending, if_pos (Int.le_refl _), latest?_eq_none]
  exact h.awaited

/-- Keeping items that come after a history continues it. -/
theorem Tracks.get?_keepAll {first : Int} {past : List (Int × α)} {b : GapBuffer α}
    (h : Tracks first past b) (items : List (Int × α)) (id : Int) :
    Table.get? id (b.keepAll items).pending =
      if b.expected ≤ id then latest? id (past ++ items) else none := by
  rw [GapBuffer.get?_keepAll, h.pending, latest?_append]
  by_cases hle : b.expected ≤ id
  · simp only [if_pos hle]
  · simp only [if_neg hle]

theorem Tracks.drained {first : Int} {past : List (Int × α)} {b : GapBuffer α}
    (h : Tracks first past b) (d : Delivery α) :
    Drained (b.keepAll d.items) (b.deliver d).1 (b.deliver d).2 := by
  rw [deliver_eq_drain h.settled]
  exact drain_drained _

/-- **The step.** A delivery extends the history that the buffer shows. -/
theorem Tracks.deliver {first : Int} {past : List (Int × α)} {b : GapBuffer α}
    (h : Tracks first past b) (d : Delivery α) :
    Tracks first (past ++ d.items) (b.deliver d).1 := by
  have hd := h.drained d
  have hle : b.expected ≤ (b.deliver d).1.expected := by simpa using hd.le
  have hfirst := h.le
  refine ⟨by omega, ?_, ?_, ?_⟩
  · intro id hlow hhigh
    by_cases hold : id < b.expected
    · rw [List.map_append]
      exact List.mem_append_left _ (h.came id hlow hold)
    · -- the number went out with this delivery, so it waited, so it came
      have hmem : id ∈ (b.deliver d).2.map Prod.fst := by
        rw [hd.ids, keepAll_expected, mem_between]
        omega
      obtain ⟨entry, hentry, rfl⟩ := List.mem_map.mp hmem
      have hwaited := hd.waited entry hentry
      rw [h.get?_keepAll, if_pos (by omega)] at hwaited
      by_contra hnot
      rw [latest?_eq_none.mpr hnot] at hwaited
      cases hwaited
  · have hstops := hd.stops
    rw [h.get?_keepAll, if_pos hle] at hstops
    exact latest?_eq_none.mp hstops
  · intro id
    rw [hd.rest, h.get?_keepAll, keepAll_expected]
    by_cases hnew : (b.deliver d).1.expected ≤ id
    · rw [if_neg (by omega), if_pos (by omega), if_pos hnew]
    · rw [if_neg hnew]
      by_cases hold : b.expected ≤ id
      · rw [if_pos (by omega)]
      · rw [if_neg (by omega), if_neg hold]

/-- An item that goes out is the last one of its number up to and including the delivery. -/
theorem Tracks.released {first : Int} {past : List (Int × α)} {b : GapBuffer α}
    (h : Tracks first past b) (d : Delivery α) :
    ∀ entry ∈ (b.deliver d).2, latest? entry.1 (past ++ d.items) = some entry.2 := by
  intro entry hentry
  have hd := h.drained d
  have hlow : b.expected ≤ entry.1 := by
    have hrange := (hd.range hentry).1
    rwa [keepAll_expected] at hrange
  have hwaited := hd.waited entry hentry
  rwa [h.get?_keepAll, if_pos hlow] at hwaited

/-- **The run.** The whole history shows in the buffer. Induction from the last delivery back. -/
theorem tracks_deliverAll (first : Int) (ds : List (Delivery α)) :
    Tracks first (history ds) ((start first).deliverAll ds).1 := by
  induction ds using List.reverseRecOn with
  | nil => exact tracks_start first
  | append_singleton ds d ih =>
    rw [deliverAll_append, deliverAll_singleton, history_append]
    have hsingle : history [d] = d.items := List.flatMap_singleton ..
    rw [hsingle]
    exact ih.deliver d

/-- What was released came. -/
theorem mem_history_of_released {first : Int} {ds : List (Delivery α)} {entry : Int × α}
    (h : entry ∈ ((start first).deliverAll ds).2) : entry ∈ history ds := by
  induction ds using List.reverseRecOn with
  | nil => cases h
  | append_singleton ds d ih =>
    rw [deliverAll_append, deliverAll_singleton, List.mem_append] at h
    rw [history_append, show history [d] = d.items from List.flatMap_singleton ..]
    rcases h with hold | hnew
    · exact List.mem_append_left _ (ih hold)
    · exact mem_of_latest?_eq_some ((tracks_deliverAll first ds).released d entry hnew)

/-- The numbers go out in order, each once. -/
theorem ids_deliverAll (first : Int) (ds : List (Delivery α)) :
    ((start first).deliverAll ds).2.map Prod.fst
      = between first ((start first).deliverAll ds).1.expected := by
  induction ds using List.reverseRecOn with
  | nil => exact (between_self first).symm
  | append_singleton ds d ih =>
    have htracks := tracks_deliverAll first ds
    have hd := htracks.drained d
    have hle := hd.le
    rw [keepAll_expected] at hle
    rw [deliverAll_append, deliverAll_singleton, List.map_append, ih, hd.ids, keepAll_expected]
    exact between_append htracks.le hle

/-- **Exactly-once release in order.** Over any series of deliveries: the released numbers are those
from `first` up to the next one; the next one is the least that never came; the last item of every
greater number that came is kept and nothing else is; and each item that a delivery releases is the
last one that came with its number up to and including that delivery. -/
theorem released_exactly_once (first : Int) (ds : List (Delivery α)) :
    ((start first).deliverAll ds).2.map Prod.fst
        = between first ((start first).deliverAll ds).1.expected
      ∧ IsLeast {id | first ≤ id ∧ id ∉ (history ds).map Prod.fst}
          ((start first).deliverAll ds).1.expected
      ∧ (∀ id, Table.get? id ((start first).deliverAll ds).1.pending =
          if ((start first).deliverAll ds).1.expected ≤ id then latest? id (history ds) else none)
      ∧ ∀ before d after, ds = before ++ d :: after →
          ∀ entry ∈ (((start first).deliverAll before).1.deliver d).2,
            latest? entry.1 (history (before ++ [d])) = some entry.2 := by
  have htracks := tracks_deliverAll first ds
  refine ⟨ids_deliverAll first ds, ⟨⟨htracks.le, htracks.awaited⟩, ?_⟩, htracks.pending, ?_⟩
  · rintro id ⟨hlow, hnever⟩
    by_contra hlt
    exact hnever (htracks.came id hlow (by omega))
  · intro before d after _ entry hentry
    rw [history_append, show history [d] = d.items from List.flatMap_singleton ..]
    exact (tracks_deliverAll first before).released d entry hentry

/-- The number 2 waits for a batch that brings 0 twice and for a late 1. -/
example :
    ((start 0).deliverAll [.live 2 'c', .batch [(0, 'z'), (0, 'a'), (5, 'f')], .live 1 'b']).2
      = [(0, 'a'), (1, 'b'), (2, 'c')] := by
  decide

end GapBuffer

end MentalPoker
