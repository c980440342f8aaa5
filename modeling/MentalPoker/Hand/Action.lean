import MentalPoker.Card
import MentalPoker.Json
import MentalPoker.Slot

/-!
# Actions on a hand

Every change of the picture of a hand is one of the actions below. They carry data only; what they
do is in `HandState.step?`.
-/

namespace MentalPoker

/-- The two kinds of share that a card needs before it can be read. -/
inductive ShareKind where
  | blinding
  | unblinding
  deriving DecidableEq, Repr

namespace ShareKind

/-- The word for the kind in status lines. -/
def word : ShareKind → Text
  | blinding => text "blinding"
  | unblinding => text "unblinding"

end ShareKind

/-- A share for the card at a slot. Who contributed it is told by a key, or else by a seat. -/
structure ShareReceipt where
  slot : Slot
  fromSeat : Int
  contributor : Option Text
  share : Option Text
  deriving DecidableEq

/-- A change of the picture of a hand. Keys of players are opaque values, null when unknown. -/
inductive Action where
  | initGame (gameId handId players : Int) (viewerKey : Json)
  | setViewerKey (key : Json)
  | startShuffle
  | shuffleProgress (current total : Int)
  | shuffleComplete
  | startDealing (deck : List Card)
  | handComplete
  | cardDealt (slot : Slot)
  | shareReceived (kind : ShareKind) (receipt : ShareReceipt)
  | cardDecryptable (slot : Slot)
  | cardRevealed (slot : Slot) (card : Card)
  | updateStatus (message : Text)
  | setError (error : Option Text)
  | eventProcessed (seqId : Int)
  deriving DecidableEq

namespace Action

/-- The name of the action. -/
def name : Action → Text
  | initGame .. => text "init_game"
  | setViewerKey _ => text "set_viewer_public_key"
  | startShuffle => text "start_shuffle"
  | shuffleProgress .. => text "shuffle_progress"
  | shuffleComplete => text "shuffle_complete"
  | startDealing _ => text "start_dealing"
  | handComplete => text "hand_complete"
  | cardDealt _ => text "card_dealt"
  | shareReceived .blinding _ => text "blinding_share_received"
  | shareReceived .unblinding _ => text "partial_unblinding_share_received"
  | cardDecryptable _ => text "card_decryptable"
  | cardRevealed .. => text "card_revealed"
  | updateStatus _ => text "update_status"
  | setError _ => text "set_error"
  | eventProcessed _ => text "event_processed"

end Action

end MentalPoker
