import MentalPoker.Text

/-!
# Hole card slots

A slot is a place for one hole card: a seat and an index within the seat. The deck gives its
first positions to the seats in turn, two to each; the cards are dealt round by round, so the
first card of every seat comes before the second of any.

## Contents

* `Slot.ofPosition`: the slot of a deck position.
* `dealOrder`: the slots of a table in the order of dealing.
* `Slot.ofPosition_eq_iff`, `mem_dealOrder`: the position of a slot, and the slots of a table.
-/

namespace MentalPoker

/-- The seat of the player who looks on. -/
def viewerSeat : Int := 0

/-- The seat that is given for whoever has none. -/
def unknownSeat : Int := -1

/-- The count of players that is assumed until a hand says otherwise. -/
def usualPlayers : Nat := 7

/-- The most seats that a table has. -/
def mostSeats : Nat := 9

/-- A place for a hole card. -/
structure Slot where
  seat : Int
  index : Int
  deriving DecidableEq, Repr, Inhabited

namespace Slot

/-- The slot of a deck position: two to a seat, in the order of the seats. -/
def ofPosition (position : Int) : Slot := ⟨position.fdiv 2, position.fmod 2⟩

/-- Positions of the deck are counted from zero. -/
theorem ofPosition_natCast (position : Nat) :
    ofPosition position = ⟨(position / 2 : Nat), (position % 2 : Nat)⟩ := by
  rw [ofPosition, Int.fdiv_eq_ediv_of_nonneg _ (by decide),
    Int.fmod_eq_emod_of_nonneg _ (by decide)]
  rfl

/-- The one position of a slot. -/
theorem ofPosition_eq_iff {position : Nat} {slot : Slot} (h : slot.index = 0 ∨ slot.index = 1) :
    ofPosition position = slot ↔ (position : Int) = 2 * slot.seat + slot.index := by
  obtain ⟨seat, index⟩ := slot
  rw [ofPosition_natCast, Slot.mk.injEq]
  simp only at h ⊢
  omega

/-- Slots are listed by seat, then by index. -/
def before (a b : Slot) : Bool := a.seat < b.seat || (a.seat == b.seat && a.index ≤ b.index)

end Slot

/-- The first card of every seat, then the second of every seat. -/
def dealOrder (players : Int) : List Slot :=
  [0, 1].flatMap fun index => (List.range players.toNat).map fun (seat : Nat) => ⟨seat, index⟩

/-- Every slot that is dealt belongs to a seat of the table. -/
theorem mem_dealOrder {players : Int} {slot : Slot} :
    slot ∈ dealOrder players ↔
      0 ≤ slot.seat ∧ slot.seat < players ∧ (slot.index = 0 ∨ slot.index = 1) := by
  obtain ⟨seat, index⟩ := slot
  simp only [dealOrder, List.mem_flatMap, List.mem_cons, List.not_mem_nil, or_false, List.mem_map,
    List.mem_range, Slot.mk.injEq]
  constructor
  · rintro ⟨i, hi, s, hs, rfl, rfl⟩
    exact ⟨by omega, by omega, hi⟩
  · rintro ⟨h0, h1, hi⟩
    exact ⟨index, hi, seat.toNat, by omega, by omega, rfl⟩

end MentalPoker
