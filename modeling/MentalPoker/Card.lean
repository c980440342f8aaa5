import MentalPoker.Schema

/-!
# Playing cards

Cards that lie face up. The wire gives ranks as numbers from 2 to 14, the ace being the highest;
in the code of a card the suits follow one another with thirteen ranks each.

## Contents

* `Rank`, `Suit`, `Card`, with their labels.
* `Card.code`, `Card.ofCode?`: cards as numbers below 52, and `ofCode?_code`.
* `Card.ordered`: the deck in the order of the codes.
-/

namespace MentalPoker

/-! ## Ranks and suits -/

/-- A rank, counted from the deuce. -/
abbrev Rank := Fin 13

namespace Rank

/-- The number of the rank on the wire. -/
def number (r : Rank) : Int := r.val + 2

/-- The rank with a number. -/
def ofNumber? (n : Int) : Option Rank :=
  if h : 2 ≤ n ∧ n ≤ 14 then some ⟨(n - 2).toNat, by omega⟩ else none

/-- The labels from the deuce to the ace. -/
def labels : List Text :=
  ["2", "3", "4", "5", "6", "7", "8", "9", "10", "J", "Q", "K", "A"].map text

def label (r : Rank) : Text := labels[r.val]

theorem ofNumber?_number (r : Rank) : ofNumber? r.number = some r := by
  revert r
  decide

/-- The complaint about a number, shown as it stands, that no rank has. -/
def complaint (shown : Text) : Text :=
  text "Invalid rank: " ++ shown ++ text ". Must be between 2 and 14."

end Rank

inductive Suit where
  | spades
  | hearts
  | diamonds
  | clubs
  deriving DecidableEq, Repr, Inhabited

namespace Suit

/-- The suits in the order of the codes. -/
def all : List Suit := [spades, hearts, diamonds, clubs]

def index : Suit → Fin 4
  | spades => 0
  | hearts => 1
  | diamonds => 2
  | clubs => 3

def ofIndex (i : Fin 4) : Suit := all[i.val]

def name : Suit → Text
  | spades => text "spades"
  | hearts => text "hearts"
  | diamonds => text "diamonds"
  | clubs => text "clubs"

def symbol : Suit → Text
  | spades => text "♠"
  | hearts => text "♥"
  | diamonds => text "♦"
  | clubs => text "♣"

theorem ofIndex_index (s : Suit) : ofIndex s.index = s := by
  cases s <;> rfl

end Suit

/-! ## Cards -/

structure Card where
  rank : Rank
  suit : Suit
  deriving DecidableEq, Repr, Inhabited

namespace Card

/-- Rank and symbol of the suit. -/
def label (c : Card) : Text := c.rank.label ++ c.suit.symbol

/-- The place of the card in the ordered deck. -/
def code (c : Card) : Nat := c.suit.index.val * 13 + c.rank.val

/-- The card with a code. -/
def ofCode? (n : Int) : Option Card :=
  if h : 0 ≤ n ∧ n < 52 then
    some ⟨⟨n.toNat % 13, by omega⟩, Suit.ofIndex ⟨n.toNat / 13, by omega⟩⟩
  else none

theorem ofCode?_code (c : Card) : ofCode? c.code = some c := by
  obtain ⟨⟨r, hr⟩, s⟩ := c
  have hs := s.index.isLt
  have hlt : s.index.val * 13 + r < 52 := by omega
  have hdiv : (s.index.val * 13 + r) / 13 = s.index.val := by omega
  have hmod : (s.index.val * 13 + r) % 13 = r := by omega
  have hrange : (0 : Int) ≤ (s.index.val * 13 + r : Nat) ∧
      ((s.index.val * 13 + r : Nat) : Int) < 52 := by omega
  simp only [ofCode?, code, hrange, and_self, dite_true, Int.toNat_natCast, hdiv, hmod, Fin.eta,
    Suit.ofIndex_index]

/-- The deck in the order of the codes. -/
def ordered : List Card :=
  Suit.all.flatMap fun suit => (List.finRange 13).map fun rank => ⟨rank, suit⟩

def toJson (c : Card) : Json :=
  Json.object [("rank", .int c.rank.number), ("suit", .str c.suit.name)]

open Schema in
/-- A card on the wire: a rank and the name of a suit. -/
def check (v : Json) : Checked Card :=
  (Check.model "Card" v).andThen fun members =>
    Card.mk
      <$> required (.plain "rank") members (Check.range 2 12)
      <*> required (.plain "suit") members
        (Check.word .enumeration (Suit.all.map fun s => (s.name, s)))

end Card

end MentalPoker
