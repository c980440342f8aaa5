import Mathlib.Data.Set.Function
import Mathlib.Order.Interval.Set.Defs
import MentalPoker.Hand.Narrator
import MentalPoker.Proofs.Hand.Layout

/-!
# Deck positions and the cards of a table

The slots of a table are walked through in two ways. The deck gives two positions to each seat
before it comes to the next one; the deal goes round the table, and round once more. Shares are
addressed in the first way and cards are laid out in the second, so the two have to meet the same
slots, and each of them once.

## The crux

Of a table of `n` seats, the deal brings `(k mod n, k div n)` in its `k`-th place, and the deck has
`(p div 2, p mod 2)` at its position `p`. Either way the first `2 n` numbers are used up by the
slots (`getElem?_dealOrder`, `bijOn_ofPosition`), and no other position finds a seat
(`shareTarget?_eq_some_iff`).
-/

namespace MentalPoker

variable {n : Nat}

/-! ## Places in the deal -/

theorem getElem?_dealRound {seat : Nat} (hseat : seat < n) (index : Int) :
    (dealRound n index)[seat]? = some ⟨seat, index⟩ := by
  rw [dealRound, List.getElem?_map, List.getElem?_range hseat, Option.map_some]

theorem length_dealRound (n : Nat) (index : Int) : (dealRound n index).length = n := by
  rw [dealRound, List.length_map, List.length_range]

theorem length_dealOrder (n : Nat) : (dealOrder n).length = 2 * n := by
  rw [dealOrder_eq, List.length_append, length_dealRound, length_dealRound, Int.toNat_natCast]
  omega

/-- The deal goes round the table twice. -/
theorem getElem?_dealOrder {k : Nat} (hk : k < 2 * n) :
    (dealOrder n)[k]? = some ⟨(k % n : Nat), (k / n : Nat)⟩ := by
  rw [dealOrder_eq, Int.toNat_natCast]
  by_cases hfirst : k < n
  · rw [List.getElem?_append_left (by rwa [length_dealRound]), getElem?_dealRound hfirst,
      Nat.mod_eq_of_lt hfirst, Nat.div_eq_of_lt hfirst]
    rfl
  · -- the second round begins at `n`
    have hlater : n ≤ k := Nat.le_of_not_lt hfirst
    have hseat : k - n < n := by omega
    have hmod : k % n = k - n := by rw [Nat.mod_eq_sub_mod hlater, Nat.mod_eq_of_lt hseat]
    have hdiv : k / n = 1 := Nat.div_eq_of_lt_le (by omega) (by omega)
    rw [List.getElem?_append_right (by rwa [length_dealRound]), length_dealRound,
      getElem?_dealRound hseat, hmod, hdiv]
    rfl

/-! ## Positions of the deck -/

theorem ofPosition_mem_dealOrder_iff {position : Nat} :
    Slot.ofPosition position ∈ dealOrder n ↔ position < 2 * n := by
  rw [mem_dealOrder, Slot.ofPosition_natCast]
  simp only
  omega

/-- The slots of a table have the first positions of the deck, one each. -/
theorem bijOn_ofPosition (n : Nat) :
    Set.BijOn (fun position : Nat => Slot.ofPosition position) (Set.Iio (2 * n))
      {slot | slot ∈ dealOrder n} := by
  refine ⟨fun position hposition => ofPosition_mem_dealOrder_iff.mpr hposition, ?_, ?_⟩
  · intro position _ other _ hsame
    simp only [Slot.ofPosition_natCast, Slot.mk.injEq] at hsame
    omega
  · intro slot hslot
    obtain ⟨hlow, hhigh, hindex⟩ := mem_dealOrder.mp hslot
    obtain ⟨position, hposition⟩ := Int.eq_ofNat_of_zero_le
      (show 0 ≤ 2 * slot.seat + slot.index by omega)
    have hfound : Slot.ofPosition position = slot :=
      (Slot.ofPosition_eq_iff hindex).mpr hposition.symm
    refine ⟨position, ofPosition_mem_dealOrder_iff.mp ?_, hfound⟩
    rwa [hfound]

/-! ## Addresses of shares -/

namespace Narrator

variable {c : HandContext} {position : Nat} {slot : Slot}

theorem shareTarget?_eq_some_iff :
    shareTarget? c position = some slot
      ↔ position < 2 * c.playerCount ∧ slot = Slot.ofPosition position := by
  have hseat : (Slot.ofPosition position).seat < c.playerCount ↔ position < 2 * c.playerCount := by
    rw [Slot.ofPosition_natCast]
    simp only
    omega
  rw [shareTarget?]
  simp only [hseat, Option.ite_none_right_eq_some, Option.some.injEq]
  rw [eq_comm]

theorem exists_shareTarget?_iff :
    (∃ slot, shareTarget? c position = some slot) ↔ position < 2 * c.playerCount := by
  simp only [shareTarget?_eq_some_iff, exists_and_left, exists_eq, and_true]

/-- The slots that shares can be addressed to are those of the table. -/
theorem mem_dealOrder_iff_exists_position :
    slot ∈ dealOrder c.playerCount ↔ ∃ position : Nat, shareTarget? c position = some slot := by
  constructor
  · intro hslot
    obtain ⟨position, hposition, hfound⟩ := (bijOn_ofPosition c.playerCount).surjOn hslot
    exact ⟨position, shareTarget?_eq_some_iff.mpr ⟨hposition, hfound.symm⟩⟩
  · rintro ⟨position, hposition⟩
    obtain ⟨hlow, rfl⟩ := shareTarget?_eq_some_iff.mp hposition
    exact ofPosition_mem_dealOrder_iff.mpr hlow

end Narrator

namespace HandState

/-- The deal that is accepted lays out the cards of the table. -/
theorem cards_of_startDealing {s t : HandState} {deck : List Card}
    (h : s.step? (.startDealing deck) = some t) : t.cards = s.seededCards := by
  rw [step?, startDealing?] at h
  split at h
  · cases h
  · cases h
    rfl

end HandState

/-- **Shares reach every card of a table, and nothing else.** The deal of `n` seats has `2 n` slots,
no slot twice, and goes round the table: the `k`-th of them is `(k mod n, k div n)`. The first `2 n`
positions of the deck belong to these slots, each position to another one. So a share for a table of
`n` players is accepted just when its position is one of the first `2 n`, and the cards that an
accepted deal lays out for `n` players are those that shares are accepted for. -/
theorem positions_cover_the_table (n : Nat) :
    ((dealOrder n).length = 2 * n ∧ (dealOrder n).Nodup
        ∧ ∀ k < 2 * n, (dealOrder n)[k]? = some ⟨(k % n : Nat), (k / n : Nat)⟩)
      ∧ Set.BijOn (fun position : Nat => Slot.ofPosition position) (Set.Iio (2 * n))
          {slot | slot ∈ dealOrder n}
      ∧ ∀ c : HandContext, c.playerCount = n →
          (∀ position : Nat,
            ((∃ slot, Narrator.shareTarget? c position = some slot) ↔ position < 2 * n)
              ∧ ∀ slot, Narrator.shareTarget? c position = some slot →
                  slot = Slot.ofPosition position)
            ∧ ∀ (s t : HandState) (deck : List Card), s.playerCount = n →
                s.step? (.startDealing deck) = some t → ∀ slot card,
                  (Table.get? slot t.cards = some card
                    ↔ (∃ position : Nat, Narrator.shareTarget? c position = some slot)
                      ∧ card = .seeded slot
                          (if slot.seat = s.viewerSeat then s.viewerKey else .null) n) := by
  refine ⟨⟨length_dealOrder n, nodup_dealOrder n, fun k => getElem?_dealOrder⟩,
    bijOn_ofPosition n, ?_⟩
  rintro c rfl
  refine ⟨fun position => ⟨Narrator.exists_shareTarget?_iff, fun slot hslot =>
    (Narrator.shareTarget?_eq_some_iff.mp hslot).2⟩, ?_⟩
  intro s t deck hplayers hdeal slot card
  rw [HandState.cards_of_startDealing hdeal, HandState.get?_seededCards, hplayers,
    Option.ite_none_right_eq_some, Narrator.mem_dealOrder_iff_exists_position, Option.some.injEq,
    @eq_comm _ card]

/-- The share at the last position of a table of two is for the second card of the second seat, and
the deal lays out that card. -/
theorem positions_cover_the_table_heads_up :
    ∃ (c : HandContext) (s t : HandState),
      c.playerCount = 2 ∧ s.playerCount = 2 ∧ s.step? (.startDealing []) = some t
        ∧ Narrator.shareTarget? c 3 = some ⟨1, 1⟩
        ∧ Table.get? ⟨1, 1⟩ t.cards = some (.seeded ⟨1, 1⟩ .null 2)
        ∧ ¬ ∃ slot, Narrator.shareTarget? c 4 = some slot := by
  let c : HandContext := { HandContext.fresh with playerCount := 2 }
  let s : HandState := { HandState.fresh with playerCount := 2, phase := .shuffling }
  let t : HandState := s.step (.startDealing [])
  have hdeal : s.step? (.startDealing []) = some t := rfl
  have htarget : Narrator.shareTarget? c 3 = some ⟨1, 1⟩ := by decide
  obtain ⟨-, -, hrouting⟩ := positions_cover_the_table 2
  obtain ⟨hpositions, hcards⟩ := hrouting c rfl
  exact ⟨c, s, t, rfl, rfl, hdeal, htarget,
    (hcards s t [] rfl hdeal ⟨1, 1⟩ _).mpr ⟨⟨3, htarget⟩, rfl⟩,
    fun hbeyond => absurd ((hpositions 4).1.mp hbeyond) (by decide)⟩

end MentalPoker
