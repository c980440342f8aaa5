import MentalPoker.Feed.Event
import MentalPoker.Hand.Action
import MentalPoker.Hand.State

/-!
# From events to actions

The narrator tells the events of a feed as actions on the picture of a hand, and gives cues to the
presentation. What it has to remember from one event to the next is its context: how many shuffles
it saw, how many there will be, and whether the deal has begun. Envelopes must come to it in their
order; that is the work of the gap buffer.

## Contents

* `HandContext`: what is remembered between events.
* `Narrator.effects`: what an event leads to, step by step.
* `Narrator.perform`: the steps up to the first action that nobody takes.
-/

namespace MentalPoker

/-- What is remembered from one event of a hand to the next. -/
structure HandContext where
  shuffleCount : Nat
  /-- How many shuffles the hand will have, if that was announced. -/
  shuffleTotal : Option Nat
  dealingStarted : Bool
  shuffleCompleted : Bool
  viewerKey : Json
  playerCount : Nat
  /-- It was already said that the count of shuffles is unknown. -/
  missingTotalReported : Bool
  deriving DecidableEq

namespace HandContext

def fresh : HandContext where
  shuffleCount := 0
  shuffleTotal := none
  dealingStarted := false
  shuffleCompleted := false
  viewerKey := .null
  playerCount := usualPlayers
  missingTotalReported := false

def toJson (c : HandContext) : Json :=
  Json.object [
    ("shuffle_event_count", Json.nat c.shuffleCount),
    ("total_shuffle_events", Json.ofOption Json.nat c.shuffleTotal),
    ("dealing_started", .bool c.dealingStarted),
    ("shuffle_completed", .bool c.shuffleCompleted),
    ("viewer_public_key", c.viewerKey),
    ("player_count", Json.nat c.playerCount),
    ("missing_total_reported", .bool c.missingTotalReported)]

end HandContext

/-- What the presentation is told, apart from the picture itself. -/
inductive Cue where
  | shuffleProgress (count total : Nat)
  | cardDealt (slot : Slot) (position : Nat)
  | cardReveal (slot : Slot)
  | phaseChange (phase : HandPhase)
  deriving DecidableEq

namespace Cue

def name : Cue → Text
  | shuffleProgress .. => text "on_shuffle_progress"
  | cardDealt .. => text "on_card_dealt"
  | cardReveal _ => text "on_card_reveal"
  | phaseChange _ => text "on_phase_change"

def arguments : Cue → List Json
  | shuffleProgress count total => [Json.nat count, Json.nat total]
  | cardDealt slot position => [.int slot.seat, .int slot.index, Json.nat position]
  | cardReveal slot => [.int slot.seat, .int slot.index]
  | phaseChange phase => [.str phase.name]

end Cue

namespace Narrator

/-- One step of what an event leads to. -/
inductive Effect where
  | remember (context : HandContext)
  | dispatch (action : Action)
  | cue (cue : Cue)
  deriving DecidableEq

def say (message : Text) : Effect := .dispatch (.updateStatus message)

/-! ## Notices -/

/-- The key of the first player at the viewer's seat, in the snapshot of a hand. The players stand
in a list or under keys of their own. -/
def keyInSnapshot (snapshot : Option (Table Text Json)) : Json :=
  let players := match snapshot.map fun r => Json.member "players" (.obj r) with
    | some (.obj members) => members.map Prod.snd
    | some (.arr items) => items
    | _ => []
  let isViewer : Json → Bool
    | .obj members => (Json.member "seat" (.obj members)).equalsInt viewerSeat
    | _ => false
  match players.find? isViewer with
  | some player => player.member "public_key"
  | none => .null

def playerCreated (c : HandContext) (seat : Fin 256) (key : Hex) : List Effect :=
  let joined := say (text "Player " ++ Text.ofNat (seat.val + 1) ++ text " joined")
  if (seat.val : Int) = viewerSeat then
    [.remember { c with viewerKey := key.toJson }, .dispatch (.setViewerKey key.toJson), joined]
  else [joined]

/-- The context of a hand that begins; the viewer's key stays when there is one. -/
def contextOfHand (c : HandContext) (hand : HandCreated) : HandContext where
  shuffleCount := 0
  shuffleTotal := hand.shufflerCount
  dealingStarted := false
  shuffleCompleted := false
  viewerKey := if c.viewerKey.truthy then c.viewerKey else keyInSnapshot hand.snapshot
  playerCount := hand.playerCount
  missingTotalReported := false

def handCreated (c : HandContext) (hand : HandCreated) : List Effect :=
  let c := contextOfHand c hand
  [.remember c,
    .dispatch (.initGame hand.gameId hand.handId hand.playerCount c.viewerKey),
    .dispatch .startShuffle,
    .cue (.phaseChange .shuffling)]
  ++ (match c.shuffleTotal with
    | some total => [.dispatch (.shuffleProgress 0 total)]
    | none => [])
  ++ [say (text "Hand started - shuffling deck...")]

def communityDecrypted (cards : List Card) : List Effect :=
  [say (text "Community cards: " ++ Text.join (text " ") (cards.map Card.label))]

def cardDecryptable (seat : Fin 256) (index : Fin 2) : List Effect :=
  [.dispatch (.cardDecryptable ⟨seat.val, index.val⟩),
    say (if (seat.val : Int) = viewerSeat then
        text "Your card " ++ Text.ofNat (index.val + 1) ++ text " is ready to reveal!"
      else text "Player " ++ Text.ofNat seat.val ++ text "'s card ready")]

/-- The face of another player's card is never told. -/
def holeCardDecrypted (seat : Fin 256) (index : Fin 2) (card : Card) : List Effect :=
  [.dispatch (.cardRevealed ⟨seat.val, index.val⟩ card),
    .cue (.cardReveal ⟨seat.val, index.val⟩),
    say (if (seat.val : Int) = viewerSeat then
        text "Your " ++ card.label ++ text " revealed!"
      else text "Player " ++ Text.ofNat seat.val ++ text " card revealed")]

def handCompleted : List Effect :=
  [.dispatch .handComplete, .cue (.phaseChange .complete), say (text "Hand complete!")]

/-! ## Envelopes -/

/-- One more shuffle. Without an announced total the shuffles are only counted, and that is said
once. -/
def shuffled (c : HandContext) : List Effect :=
  let c := { c with shuffleCount := c.shuffleCount + 1 }
  match c.shuffleTotal with
  | none =>
    let progress := .dispatch (.shuffleProgress c.shuffleCount 0)
    if c.missingTotalReported then [.remember c, progress]
    else
      [.remember { c with missingTotalReported := true },
        .dispatch (.setError (some (text "Shuffle progress unavailable: shuffler count unknown"))),
        progress]
  | some total =>
    [.remember c,
      .dispatch (.shuffleProgress c.shuffleCount total),
      .cue (.shuffleProgress c.shuffleCount total)]
    ++ (if total ≤ c.shuffleCount && !c.shuffleCompleted then
        [.remember { c with shuffleCompleted := true }, .dispatch .shuffleComplete]
      else [])

/-- The cards of a table are dealt one after another. -/
def dealt (players : Nat) : List Effect :=
  (dealOrder players).zipIdx.flatMap fun (slot, position) =>
    [.dispatch (.cardDealt slot), .cue (.cardDealt slot position)]

/-- The deal begins. A shuffle that was not seen to end has ended by now. -/
def dealingStarted (deck : List Card) (c : HandContext) : List Effect :=
  let c := { c with dealingStarted := true }
  [.remember c]
  ++ (if c.shuffleCompleted then []
    else [.remember { c with shuffleCompleted := true }, .dispatch .shuffleComplete])
  ++ [.dispatch (.startDealing deck), .cue (.phaseChange .dealing)]
  ++ dealt c.playerCount

/-- The slot of the card at a deck position, if it is a hole card of the table. -/
def shareTarget? (c : HandContext) (position : Nat) : Option Slot :=
  let slot := Slot.ofPosition position
  if slot.seat < c.playerCount then some slot else none

def shareReceived (c : HandContext) (kind : ShareKind) (actor : Actor) (s : Share) :
    List Effect :=
  match shareTarget? c s.position.val with
  | none => []
  | some slot =>
    [.dispatch (.shareReceived kind
      ⟨slot, actor.seat, some actor.contributor, some s.share.text⟩)]

/-- A recorded envelope. The first blinding share marks the beginning of the deal; messages about
bets and the showdown say nothing about dealing. -/
def envelope (deck : List Card) (c : HandContext) (f : Finalized) : List Effect :=
  .dispatch (.eventProcessed f.seqId) ::
    match f.message with
    | .shuffle .. => shuffled c
    | .blinding s =>
      (if c.dealingStarted then [] else dealingStarted deck c)
        ++ shareReceived c .blinding f.envelope.actor s
    | .partialUnblinding s => shareReceived c .unblinding f.envelope.actor s
    | .bet .. => []
    | .showdown .. => []

/-! ## Events -/

/-- What an event leads to. `deck` is the deck for the show. -/
def effects (deck : List Card) (c : HandContext) : FeedEvent → List Effect
  | .playerCreated _ seat _ key => playerCreated c seat key
  | .handCreated hand => handCreated c hand
  | .gameEvent f => envelope deck c f
  | .communityDecrypted _ _ cards => communityDecrypted cards
  | .cardDecryptable _ _ seat index => cardDecryptable seat index
  | .holeCardDecrypted _ _ seat index card => holeCardDecrypted seat index card
  | .handCompleted _ _ => handCompleted

/-- What the bare kind of an event leads to, when nothing else of the event can be read: the end
of a hand needs nothing else, and a new hand at least sets the count of shuffles back. -/
def effectsOfKind (c : HandContext) : FeedEvent.Kind → List Effect
  | .handCompleted => handCompleted
  | .handCreated => [.remember { c with shuffleCount := 0 }]
  | _ => []

/-- Takes the steps one by one, up to and including the first action that is refused. -/
def perform (refuses : Action → Bool) : HandContext → List Effect → HandContext × List Effect
  | c, [] => (c, [])
  | _, .remember c :: rest => perform refuses c rest
  | c, .dispatch a :: rest =>
    if refuses a then (c, [.dispatch a])
    else
      let (last, done) := perform refuses c rest
      (last, .dispatch a :: done)
  | c, .cue cue :: rest =>
    let (last, done) := perform refuses c rest
    (last, .cue cue :: done)

end Narrator

end MentalPoker
