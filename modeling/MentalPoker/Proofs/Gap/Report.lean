import MentalPoker.Proofs.Gap.Open

/-!
# What a gap buffer reports

A gap buffer reports numbers as missing in two places: in front of a live arrival, and in front of
all that waits. Both reports are runs of numbers from which those that wait are left out, and nothing
in them looks at the arrival being early as such. They are exact for a reason that does not show
there: a buffer never holds back its own next number. So that number is missing in front of whatever
is ahead of it, the run in front of an early arrival is never empty, and no early arrival is taken
for one that closes the gap.

## The architecture

* **`Reachable`**: the buffers that come up; `Reachable.ahead` is the invariant that carries the rest.
* **`Settled.arrive_early`**: all that an early arrival does.
* **`Ahead.mem_missing`**: the numbers in front of all that waits.
-/

namespace MentalPoker

namespace GapBuffer

variable {α : Type}

/-! ## Buffers that come up -/

/-- A buffer starts at some number, and a buffer that is reset starts at one again. From there on it
takes deliveries. -/
inductive Reachable : GapBuffer α → Prop where
  | start (first : Int) : Reachable (start first)
  | deliver {b : GapBuffer α} (h : Reachable b) (d : Delivery α) : Reachable (b.deliver d).1

theorem Reachable.ahead {b : GapBuffer α} (h : b.Reachable) : b.Ahead := by
  induction h with
  | start first => exact ahead_start first
  | deliver _ d ih => exact ih.deliver d

/-! ## Runs without what waits -/

theorem pairwise_between (low high : Int) : (between low high).Pairwise (· < ·) := by
  have hrange : (List.range (high - low).toNat).Pairwise (· < ·) := List.pairwise_lt_range
  refine List.pairwise_map.mpr (hrange.imp fun {j k} hjk => ?_)
  show low + (j : Int) < low + (k : Int)
  omega

theorem pairwise_absent (pending : Table Int α) (low high : Int) :
    (absent pending low high).Pairwise (· < ·) :=
  (pairwise_between low high).filter _

theorem absent_of_le (pending : Table Int α) {low high : Int} (h : high ≤ low) :
    absent pending low high = [] := by
  have hnone : (high - low).toNat = 0 := by omega
  rw [absent, between, hnone, List.range_zero, List.map_nil, List.filter_nil]

/-- The next number is the first that is missing. -/
theorem Settled.head?_absent {b : GapBuffer α} (h : b.Settled) {high : Int}
    (hhigh : b.expected < high) :
    (absent b.pending b.expected high).head? = some b.expected := by
  have hnext : Table.get? b.expected b.pending = none := h
  have hkept : (!Table.has b.expected b.pending) = true := by
    rw [Table.has, hnext]
    rfl
  rw [absent, between_cons hhigh, List.filter_cons, if_pos hkept, List.head?_cons]

theorem mem_pendingIds {b : GapBuffer α} {id : Int} :
    id ∈ b.pendingIds ↔ Table.get? id b.pending ≠ none := by
  rw [pendingIds, List.mem_mergeSort, Ne, Table.get?_eq_none_iff, not_not]

/-! ## In front of an arrival -/

/-- An early arrival is kept, and nothing else happens. -/
theorem Settled.arrive_early {b : GapBuffer α} (h : b.Settled) {id : Int} (hid : b.expected < id)
    (a : α) : b.arrive id a = ⟨b.keep (id, a), absent b.pending b.expected id, []⟩ := by
  have hmissing : (b.arrive id a).missing = absent b.pending b.expected id := missing_arrive b id a
  rcases arrive_cases b id a with ⟨hlt, _⟩ | ⟨_, _, harrive⟩ | ⟨_, _, harrive⟩
  · omega
  · rw [harrive] at hmissing ⊢
    rw [← hmissing]
  · -- a release would need a run in which nothing is missing, but the next number is
    rw [harrive] at hmissing
    exact absurd hmissing.symm (h.absent_ne_nil hid)

/-- What waits after an early arrival is what waited before, and the arrival. -/
theorem mem_pendingIds_keep {b : GapBuffer α} {id : Int} (hid : b.expected ≤ id) (a : α) (m : Int) :
    m ∈ (b.keep (id, a)).pendingIds ↔ m = id ∨ m ∈ b.pendingIds := by
  rw [mem_pendingIds, mem_pendingIds, get?_keep]
  by_cases hm : m = id
  · have hle : b.expected ≤ m := by omega
    simp [hm, hid]
  · simp [hm]

/-! ## In front of all that waits -/

/-- The greatest number that waits is there as soon as any number waits, and not below it. -/
theorem exists_newest?_ge {b : GapBuffer α} {m : Int} (h : m ∈ b.pendingIds) :
    ∃ newest ∈ b.newest?, m ≤ newest := by
  have hkey : m ∈ Table.keys b.pending := by
    rwa [pendingIds, List.mem_mergeSort] at h
  obtain ⟨newest, hnewest⟩ :=
    Option.isSome_iff_exists.mp (List.isSome_max?_of_ne_nil (List.ne_nil_of_mem hkey))
  exact ⟨newest, hnewest, (List.max?_eq_some_iff.mp hnewest).2 m hkey⟩

/-- What is missing are the numbers from the next one to the greatest that waits, without those
that wait. -/
theorem mem_missing {b : GapBuffer α} {m : Int} :
    m ∈ b.missing ↔ (∃ newest ∈ b.newest?, b.expected ≤ m ∧ m ≤ newest) ∧ m ∉ b.pendingIds := by
  rw [mem_pendingIds, not_not, missing]
  cases hnewest : b.newest? with
  | none => simp
  | some newest =>
    -- the greatest number that waits is no missing one, so the bound may take it in
    obtain ⟨a, hwaits⟩ := waits_of_newest? hnewest
    have hbelow (hnone : Table.get? m b.pending = none) : m < newest ↔ m ≤ newest := by
      have hne : m ≠ newest := by
        rintro rfl
        cases hnone.symm.trans hwaits
      omega
    simp only [mem_absent, Option.mem_def, Option.some.injEq, exists_eq_left']
    constructor
    · rintro ⟨hlow, hhigh, hnone⟩
      exact ⟨⟨hlow, (hbelow hnone).mp hhigh⟩, hnone⟩
    · rintro ⟨⟨hlow, hhigh⟩, hnone⟩
      exact ⟨hlow, (hbelow hnone).mpr hhigh, hnone⟩

/-- What is missing and what waits make up the run from the next number to the greatest that
waits. -/
theorem Ahead.missing_or_waits {b : GapBuffer α} (h : b.Ahead) (m : Int) :
    m ∈ b.missing ∨ m ∈ b.pendingIds
      ↔ ∃ newest ∈ b.newest?, b.expected ≤ m ∧ m ≤ newest := by
  constructor
  · rintro (hmissing | hwaits)
    · exact (mem_missing.mp hmissing).1
    · obtain ⟨newest, hnewest, hle⟩ := exists_newest?_ge hwaits
      obtain ⟨a, hget⟩ := Option.ne_none_iff_exists'.mp (mem_pendingIds.mp hwaits)
      have hahead : b.expected < m := h m a hget
      exact ⟨newest, hnewest, by omega, hle⟩
  · intro hrun
    by_cases hwaits : m ∈ b.pendingIds
    · exact .inr hwaits
    · exact .inl (mem_missing.mpr ⟨hrun, hwaits⟩)

/-- **The reports are exact.** In every buffer that comes up: there is a gap in front of an arrival
just when it is ahead of the next number, and then nothing is released, the next number stays, the
arrival waits with all that waited before, and the report lists the numbers in front of it that do
not wait, in ascending order from the next one on. Otherwise it lists nothing. The numbers that hold
back what waits and the numbers that wait have none in common and are together those from the next
one to the greatest that waits; none is missing only where nothing waits. -/
theorem reports_are_exact {b : GapBuffer α} (h : b.Reachable) (id : Int) (a : α) :
    let r := b.arrive id a
    (r.hasGap = true ↔ b.expected < id)
      ∧ (b.expected < id →
          r.ready = [] ∧ r.buffer.expected = b.expected
            ∧ (∀ m, m ∈ r.buffer.pendingIds ↔ m = id ∨ m ∈ b.pendingIds)
            ∧ r.missing.head? = some b.expected ∧ r.missing.Pairwise (· < ·)
            ∧ ∀ m, m ∈ r.missing ↔ b.expected ≤ m ∧ m < id ∧ m ∉ b.pendingIds)
      ∧ (id ≤ b.expected → r.missing = [])
      ∧ (∀ m ∈ b.missing, m ∉ b.pendingIds)
      ∧ (∀ m, m ∈ b.missing ∨ m ∈ b.pendingIds
          ↔ ∃ newest ∈ b.newest?, b.expected ≤ m ∧ m ≤ newest)
      ∧ (b.missing = [] ↔ b.hasPending = false) := by
  intro r
  have hahead : b.Ahead := h.ahead
  have hsettled : b.Settled := hahead.settled
  refine ⟨hsettled.hasGap_arrive id a, fun hid => ?_, fun hid => ?_,
    fun m hm => (mem_missing.mp hm).2, hahead.missing_or_waits, ?_⟩
  · have hr : r = ⟨b.keep (id, a), absent b.pending b.expected id, []⟩ :=
      hsettled.arrive_early hid a
    rw [hr]
    refine ⟨rfl, keep_expected b (id, a), mem_pendingIds_keep (by omega) a,
      hsettled.head?_absent hid, pairwise_absent b.pending b.expected id, fun m => ?_⟩
    rw [mem_absent, mem_pendingIds, not_not]
  · show (b.arrive id a).missing = []
    rw [missing_arrive]
    exact absent_of_le b.pending hid
  · have hopen : b.missing ≠ [] ↔ b.hasPending = true := hahead.missing_ne_nil_iff
    rw [← not_iff_not, Bool.not_eq_false]
    exact hopen

/-- A buffer that released 0 and in which 3 and 5 wait. -/
def threeAndFive : GapBuffer Char :=
  (((start 0).deliver (.live 0 'a')).1.deliver (.batch [(5, 'f'), (3, 'd')])).1

/-- The number 4 arrives between two that wait. -/
theorem reports_are_exact_between :
    threeAndFive.Reachable ∧ (threeAndFive.arrive 4 'e').hasGap = true
      ∧ (threeAndFive.arrive 4 'e').ready = []
      ∧ (∀ m, m ∈ (threeAndFive.arrive 4 'e').missing ↔ 1 ≤ m ∧ m < 4 ∧ m ∉ [5, 3])
      ∧ threeAndFive.missing ≠ [] := by
  have hreached : threeAndFive.Reachable := .deliver (.deliver (.start 0) _) _
  obtain ⟨hgap, hearly, -, -, -, hnone⟩ := reports_are_exact hreached 4 'e'
  have hahead : threeAndFive.expected < 4 := by decide
  obtain ⟨hready, -, -, -, -, hmissing⟩ := hearly hahead
  have hwaits (m : Int) : m ∈ threeAndFive.pendingIds ↔ m ∈ [5, 3] := List.mem_mergeSort
  simp only [hwaits] at hmissing
  exact ⟨hreached, hgap.mpr hahead, hready, hmissing, fun h => by cases hnone.mp h⟩

end GapBuffer

end MentalPoker
