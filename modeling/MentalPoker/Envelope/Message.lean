import MentalPoker.Envelope.Bet
import MentalPoker.Envelope.Hex

/-!
# Protocol messages

The closed set of messages that players and shufflers sign. Decks, proofs and shares are checked
for their form only.

## Contents

* `Message`: the eight kinds of message, the four betting rounds being one constructor.
* `Message.check`, `Message.toJson`.
-/

namespace MentalPoker

/-- An encrypted deck: 52 ciphertexts. -/
abbrev Deck := { cards : List Hex // cards.length = 52 }

/-- Two of a thing, for the two hole cards of a player. -/
abbrev Pair (α : Type) := { items : List α // items.length = 2 }

/-- A betting round. -/
inductive Street where
  | preflop
  | flop
  | turn
  | river
  deriving DecidableEq, Repr

namespace Street

def all : List Street := [preflop, flop, turn, river]

/-- The tag of a player's message in the round. -/
def tag : Street → Text
  | preflop => text "player_preflop"
  | flop => text "player_flop"
  | turn => text "player_turn"
  | river => text "player_river"

end Street

/-- A share of the work on one card, for one player. -/
structure Share where
  position : Fin 256
  share : Hex
  target : Hex
  deriving DecidableEq

/-- A message of the protocol. -/
inductive Message where
  | shuffle (turn : Fin 65536) (deckIn deckOut : Deck) (proof : Hex)
  | blinding (share : Share)
  | partialUnblinding (share : Share)
  | bet (street : Street) (bet : Bet)
  | showdown (proofs : Pair Hex) (positions : Pair (Fin 256)) (ciphertexts : Pair Hex)
  deriving DecidableEq

namespace Message

open Schema

/-- The tag of the message on the wire. -/
def tag : Message → Text
  | shuffle .. => text "shuffle"
  | blinding _ => text "blinding"
  | partialUnblinding _ => text "partial_unblinding"
  | bet street _ => street.tag
  | showdown .. => text "showdown"

/-! ## Writing -/

def hexes (items : List Hex) : Json := .arr (items.map Hex.toJson)

def shareMembers (s : Share) : List (String × Json) :=
  [("card_in_deck_position", Json.nat s.position.val), ("share", s.share.toJson),
    ("target_player_public_key", s.target.toJson)]

/-- The members besides the tag. -/
def members : Message → List (String × Json)
  | shuffle turn deckIn deckOut proof =>
    [("turn_index", Json.nat turn.val), ("deck_in", hexes deckIn.1),
      ("deck_out", hexes deckOut.1), ("proof", proof.toJson)]
  | blinding share => shareMembers share
  | partialUnblinding share => shareMembers share
  | bet _ b => [("action", b.toJson)]
  | showdown proofs positions ciphertexts =>
    [("chaum_pedersen_proofs", hexes proofs.1),
      ("card_in_deck_position", .arr (positions.1.map fun p => Json.nat p.val)),
      ("hole_ciphertexts", hexes ciphertexts.1)]

def toJson (m : Message) : Json := Json.object (("type", .str m.tag) :: m.members)

/-! ## Reading -/

def checkDeck (v : Json) : Checked Deck := Check.listOf 52 Hex.check v

def checkShare (members : Table Text Json) : Checked Share :=
  Share.mk
    <$> required (.wire "card_in_deck_position") members (Check.upTo 255)
    <*> required (.wire "share") members Hex.check
    <*> required (.wire "target_player_public_key") members Hex.check

def checkShuffle (members : Table Text Json) : Checked Message :=
  shuffle
    <$> required (.wire "turn_index") members (Check.upTo 65535)
    <*> required (.wire "deck_in") members checkDeck
    <*> required (.wire "deck_out") members checkDeck
    <*> required (.wire "proof") members Hex.check

def checkBet (street : Street) (members : Table Text Json) : Checked Message :=
  bet street <$> required (.wire "action") members Bet.ofJson

def checkShowdown (members : Table Text Json) : Checked Message :=
  showdown
    <$> required (.wire "chaum_pedersen_proofs") members (Check.listOf 2 Hex.check)
    <*> required (.wire "card_in_deck_position") members (Check.listOf 2 (Check.upTo 255))
    <*> required (.wire "hole_ciphertexts") members (Check.listOf 2 Hex.check)

/-- How the members of a message with each tag are checked. -/
def branches : List (Text × (Table Text Json → Checked Message)) :=
  [(text "shuffle", checkShuffle),
    (text "blinding", fun members => blinding <$> checkShare members),
    (text "partial_unblinding", fun members => partialUnblinding <$> checkShare members)]
  ++ (Street.all.map fun street => (street.tag, checkBet street))
  ++ [(text "showdown", checkShowdown)]

/-- A message on the wire. -/
def check (v : Json) : Checked Message := Check.tagged "type" branches v

end Message

end MentalPoker
