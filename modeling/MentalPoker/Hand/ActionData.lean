import MentalPoker.Hand.Transition

/-!
# Actions as data

An action can be given by its name and a table of data. Names that no action has are passed over;
an action that lacks data that it needs is no action. Some data are needed only in states that the
action would change.

## Contents

* `Action.Reading`, `Action.ofData`: what a name and some data stand for.
* `Action.Reading.isMissedIn`: data are lacking in a state.
-/

namespace MentalPoker.Action

/-- What a name and some data stand for. -/
inductive Reading where
  | action (a : Action)
  /-- No action has the name. -/
  | unknown
  /-- The action needs more data. -/
  | incomplete
  /-- The action needs more data where it changes the state; here it is with others in their
  place. -/
  | doubtful (a : Action)

namespace Reading

def ofOption? : Option Action → Reading
  | some a => action a
  | none => incomplete

def action? : Reading → Option Action
  | action a | doubtful a => some a
  | _ => none

/-- Data are lacking that are needed in the state. -/
def isMissedIn (s : HandState) : Reading → Bool
  | action _ | unknown => false
  | incomplete => true
  | doubtful a => (s.step? a).isSome

end Reading

/-! ## Data -/

/-- An integer among the data; booleans count as 0 and 1. -/
def int? (data : Json) (key : String) : Option Int :=
  match data.member key with
  | .int n => some n
  | .bool b => some (if b then 1 else 0)
  | _ => none

def text? (data : Json) (key : String) : Option Text :=
  match data.member key with
  | .str t => some t
  | _ => none

def slot? (data : Json) : Option Slot := do
  return ⟨← int? data "seat", ← int? data "card_index"⟩

def card? (v : Json) : Option Card := (Card.check v).toOption

/-- The deck for the show; without one it is empty. -/
def deck (data : Json) : List Card :=
  match data.member "client_deck" with
  | .arr items => items.filterMap card?
  | _ => []

/-- A share. The seat that it comes from is needed only if there is no key for its contributor. -/
def shareReading (kind : ShareKind) (data : Json) : Reading :=
  let contributor := text? data "contributor"
  let from_ := int? data "from_seat"
  match slot? data with
  | none => .incomplete
  | some slot =>
    let a := shareReceived kind ⟨slot, from_.getD unknownSeat, contributor, text? data "share"⟩
    if from_.isSome || contributor.any (fun t => !t.isEmpty) then .action a else .doubtful a

def progressReading (data : Json) : Reading :=
  match int? data "current_step", int? data "total_steps" with
  | some current, some total => .action (shuffleProgress current total)
  | _, _ => .doubtful (shuffleProgress 0 0)

/-- A card that is shown. At other seats than the viewer's its face does not matter. -/
def revealed? (data : Json) : Option Action := do
  let slot ← slot? data
  let face := card? (data.member "card")
  if slot.seat = viewerSeat then return cardRevealed slot (← face)
  else return cardRevealed slot (face.getD default)

/-- Actions that need their data, or none, whatever the state. -/
def plainReaders : List (Text × (Json → Option Action)) :=
  [(text "init_game", fun data => do
      return initGame (← int? data "game_id") (← int? data "hand_id") (← int? data "player_count")
        (data.member "public_key")),
    (text "set_viewer_public_key", fun data =>
      if data.has "public_key" then some (setViewerKey (data.member "public_key")) else none),
    (text "start_shuffle", fun _ => some startShuffle),
    (text "shuffle_complete", fun _ => some shuffleComplete),
    (text "start_dealing", fun data => some (startDealing (deck data))),
    (text "hand_complete", fun _ => some handComplete),
    (text "card_dealt", fun data => (slot? data).map cardDealt),
    (text "card_decryptable", fun data => (slot? data).map cardDecryptable),
    (text "card_revealed", revealed?),
    (text "update_status", fun data => (text? data "message").map updateStatus),
    (text "set_error", fun data => some (setError (text? data "error"))),
    (text "event_processed", fun data => (int? data "seq_id").map eventProcessed)]

/-- The names of actions, each with how its data are read. -/
def readers : List (Text × (Json → Reading)) :=
  [(text "shuffle_progress", progressReading),
    (text "blinding_share_received", shareReading .blinding),
    (text "partial_unblinding_share_received", shareReading .unblinding)]
  ++ plainReaders.map fun (name, read) => (name, fun data => .ofOption? (read data))

/-- What a name and some data stand for. -/
def ofData (name : Text) (data : Json) : Reading :=
  match Table.get? name readers with
  | none => .unknown
  | some read => read data

end MentalPoker.Action
