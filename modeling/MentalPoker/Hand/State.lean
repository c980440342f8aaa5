import MentalPoker.Card
import MentalPoker.Json
import MentalPoker.Slot

/-!
# The picture of a hand

What is known of one hand from outside: how far the shuffle is, which cards were dealt, which
shares arrived for each of them, and whose faces may be shown. Only cards of the viewer's seat are
ever shown.

## Contents

* `CardProgress`: what is known of one hole card.
* `HandState`: the whole picture, starting at `HandState.fresh`.
* `HandState.toJson`: the picture as the viewer's interface shows it.
-/

namespace MentalPoker

/-- The phase of a hand as the viewer sees it. -/
inductive HandPhase where
  | idle
  | shuffling
  | dealing
  | complete
  deriving DecidableEq, Repr, Inhabited

namespace HandPhase

def name : HandPhase → Text
  | idle => text "idle"
  | shuffling => text "shuffling"
  | dealing => text "dealing"
  | complete => text "complete"

/-- The phase from which a phase may be entered. -/
def predecessor? : HandPhase → Option HandPhase
  | idle => none
  | shuffling => some idle
  | dealing => some shuffling
  | complete => some dealing

end HandPhase

/-! ## Cards -/

/-- What is known of a hole card. Shares are kept under the key of their contributor. -/
structure CardProgress where
  position : Int
  targetSeat : Int
  targetKey : Json
  blinding : Table Text Text
  unblinding : Table Text Text
  /-- How many shares of each kind the card needs. -/
  required : Int
  dealt : Bool
  decryptable : Bool
  revealed : Bool
  face : Option Card
  /-- A reveal arrived, whether or not it was shown. -/
  revealReceived : Bool
  deriving DecidableEq

namespace CardProgress

/-- A card of which nothing but its place is known. -/
def seeded (slot : Slot) (key : Json) (required : Int) : CardProgress where
  position := slot.index
  targetSeat := slot.seat
  targetKey := key
  blinding := []
  unblinding := []
  required := required
  dealt := false
  decryptable := false
  revealed := false
  face := none
  revealReceived := false

/-- The shares of both kinds. -/
def collected (c : CardProgress) : Nat := c.blinding.length + c.unblinding.length

/-- The shares of both kinds that are needed. -/
def totalRequired (c : CardProgress) : Int := c.required * 2

def hasAllShares (c : CardProgress) : Bool :=
  c.required ≤ c.blinding.length && c.required ≤ c.unblinding.length

/-- The collected part of all shares, as a fraction that is at most one; zero when none is
needed. -/
def shareProgress (c : CardProgress) : Rat :=
  let total := c.totalRequired
  Rat.divInt (if 0 < total ∧ total ≤ c.collected then total else c.collected) total

/-- The line that says how the card is getting on. -/
def statusText (c : CardProgress) : Text :=
  match c.revealed, c.face with
  | true, some card => card.label
  | _, _ =>
    if c.hasAllShares then text "All shares collected"
    else if c.collected = 0 then text "Waiting for shares..."
    else
      text "Collecting shares (" ++ Text.ofNat c.collected ++ text "/"
        ++ Text.ofInt c.totalRequired ++ text ")..."

/-- The members of a card as the interface shows it. -/
def members (c : CardProgress) : List (String × Json) :=
  [("position", .int c.position),
    ("target_seat", .int c.targetSeat),
    ("target_public_key", c.targetKey),
    ("blinding_shares", Json.nat c.blinding.length),
    ("partial_unblinding_shares", Json.nat c.unblinding.length),
    ("required_shares_per_type", .int c.required),
    ("dealt", .bool c.dealt),
    ("decryptable", .bool c.decryptable),
    ("revealed", .bool c.revealed),
    ("display_card", Json.ofOption Card.toJson c.face),
    ("status", .str c.statusText)]

end CardProgress

/-! ## Hands -/

/-- The picture of a hand. -/
structure HandState where
  gameId : Option Int
  handId : Option Int
  /-- The key of the player at the viewer's seat; null when it is not known. -/
  viewerKey : Json
  viewerSeat : Int
  playerCount : Int
  phase : HandPhase
  totalSteps : Int
  currentStep : Int
  /-- A deck for the show only; it has nothing to do with the encrypted one. -/
  displayDeck : List Card
  cards : Table Slot CardProgress
  dealQueue : List Slot
  /-- The highest number of an envelope that was applied. -/
  lastSeqId : Int
  status : Text
  error : Option Text
  deriving DecidableEq

namespace HandState

/-- Before anything is known. -/
def fresh : HandState where
  gameId := none
  handId := none
  viewerKey := .null
  viewerSeat := MentalPoker.viewerSeat
  playerCount := usualPlayers
  phase := .idle
  totalSteps := 0
  currentStep := 0
  displayDeck := []
  cards := []
  dealQueue := []
  lastSeqId := -1
  status := text "Initializing..."
  error := none

/-- The shuffle in percent: the quotient as a binary64 number, times one hundred, to the nearest
integer with ties to even. -/
def shufflePercent (s : HandState) : Int :=
  if s.totalSteps ≤ 0 then 0
  else (((Binary64.divInt s.currentStep s.totalSteps).mulNat 100).roundEven?).getD 0

/-- The cards with their slots, by seat and index. -/
def sortedCards (s : HandState) : List (Slot × CardProgress) :=
  s.cards.mergeSort fun a b => a.1.before b.1

/-- The cards of a seat, by position. -/
def cardsForSeat (s : HandState) (seat : Int) : List CardProgress :=
  ((s.cards.filter fun entry => entry.1.seat = seat).map Prod.snd).mergeSort
    fun a b => a.position ≤ b.position

/-- Both cards of the viewer lie face up. -/
def viewerCardsRevealed (s : HandState) : Bool :=
  let cards := s.cardsForSeat s.viewerSeat
  cards.length = 2 && cards.all (·.revealed)

def slotMembers (slot : Slot) : List (String × Json) :=
  [("seat", .int slot.seat), ("card_index", .int slot.index)]

/-- The picture as the interface shows it. -/
def toJson (s : HandState) : Json :=
  Json.object [
    ("game_id", Json.ofOption .int s.gameId),
    ("hand_id", Json.ofOption .int s.handId),
    ("viewer_public_key", s.viewerKey),
    ("viewer_seat", .int s.viewerSeat),
    ("player_count", .int s.playerCount),
    ("phase", .str s.phase.name),
    ("total_shuffle_steps", .int s.totalSteps),
    ("current_shuffle_step", .int s.currentStep),
    ("shuffle_progress", .int s.shufflePercent),
    ("cards", .arr (s.sortedCards.map fun (slot, card) =>
      Json.object (slotMembers slot ++ card.members))),
    ("deal_queue", .arr (s.dealQueue.map fun slot => Json.object (slotMembers slot))),
    ("last_seq_id", .int s.lastSeqId),
    ("status_message", .str s.status),
    ("error_message", Json.ofOption .str s.error)]

end HandState

end MentalPoker
