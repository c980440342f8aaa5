import MentalPoker.Hand.Action
import MentalPoker.Hand.State
import MentalPoker.Number.Shortest

/-!
# Reports on hands

For diagnosis: actions with all that they carry, the picture of a hand with all that it holds, and
what one picture has that another has not.

## Contents

* `Action.report`: an action with its name and its members.
* `HandState.report`: a picture in full.
* `HandState.changes`: what differs between two pictures.
-/

namespace MentalPoker

/-! ## Actions -/

def Card.labels (cards : List Card) : Json := .arr (cards.map fun c => .str c.label)

namespace Action

/-- What an action carries. -/
def members : Action → List (String × Json)
  | initGame gameId handId players key =>
    [("game_id", .int gameId), ("hand_id", .int handId), ("player_count", .int players),
      ("public_key", key)]
  | setViewerKey key => [("public_key", key)]
  | shuffleProgress current total => [("current_step", .int current), ("total_steps", .int total)]
  | startDealing deck => [("client_deck", Card.labels deck)]
  | cardDealt slot | cardDecryptable slot => HandState.slotMembers slot
  | shareReceived _ r =>
    HandState.slotMembers r.slot ++ [("from_seat", .int r.fromSeat),
      ("contributor", Json.ofOption .str r.contributor), ("share", Json.ofOption .str r.share)]
  | cardRevealed slot card => HandState.slotMembers slot ++ [("card", card.toJson)]
  | updateStatus message => [("message", .str message)]
  | setError error => [("error", Json.ofOption .str error)]
  | eventProcessed seqId => [("seq_id", .int seqId)]
  | startShuffle | shuffleComplete | handComplete => []

def report (a : Action) : Json := .arr [.str a.name, Json.object a.members]

end Action

/-! ## Pictures -/

/-- The members of an object, some of them replaced or added. -/
def Json.override (v : Json) (members : List (String × Json)) : Json :=
  .obj (members.foldl (fun t (k, x) => Table.insert (text k) x t) (v.members?.getD []))

namespace CardProgress

def sharesReport (shares : Table Text Text) : Json := .obj (shares.map fun (k, v) => (k, .str v))

/-- A fraction as the nearest binary64 number, with six places. -/
def fractionText (r : Rat) : Text := (Binary64.ofRatio (r.num < 0) r.num.natAbs r.den).fixed 6

/-- A card with every share. -/
def report (slot : Slot) (c : CardProgress) : Json :=
  (Json.object (HandState.slotMembers slot ++ c.members)).override [
    ("blinding_shares", sharesReport c.blinding),
    ("partial_unblinding_shares", sharesReport c.unblinding),
    ("reveal_received", .bool c.revealReceived),
    ("has_all_shares", .bool c.hasAllShares),
    ("share_progress", .str (fractionText c.shareProgress))]

end CardProgress

namespace HandState

/-- The cards in full, by seat and index. -/
def cardReports (s : HandState) : List (Slot × Json) :=
  s.sortedCards.map fun (slot, c) => (slot, c.report slot)

/-- The picture in full. -/
def report (s : HandState) : Json :=
  s.toJson.override [
    ("client_deck", Card.labels s.displayDeck),
    ("deal_queue", .arr (s.dealQueue.map fun slot => .arr [.int slot.seat, .int slot.index])),
    ("viewer_cards_revealed", .bool s.viewerCardsRevealed),
    ("cards", .arr (s.cardReports.map Prod.snd))]

/-- What the new picture has that the old one has not: members, and cards that are new or changed.
When a card is gone, all cards are given. -/
def changes (old new : HandState) : Json :=
  let before := old.report.members?.getD []
  let members := (new.report.members?.getD []).filter fun (k, v) =>
    k ≠ text "cards" && Table.get? k before ≠ some v
  let cleared := old.cardReports.any fun (slot, _) => !Table.has slot new.cardReports
  let cards :=
    if cleared then new.cardReports
    else new.cardReports.filter fun (slot, v) => Table.get? slot old.cardReports ≠ some v
  .obj (members
    ++ (if cards.isEmpty then [] else [(text "cards", .arr (cards.map Prod.snd))])
    ++ (if cleared then [(text "cards_cleared", .bool true)] else []))

end HandState

end MentalPoker
