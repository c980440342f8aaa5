import MentalPoker.Hand.Action
import MentalPoker.Hand.State

/-!
# Transitions of a hand

What each action does to the picture of a hand. An action that does not fit leaves the picture
alone: a phase is entered only from the one before it, and a card that was not dealt is not
touched. Such an action gives no new picture at all, so nobody is told about it.

Status lines write out whatever integers an action brings. Those of a hand were read, so they have
no more than `Numeral.maxDigits` digits; the status line that longer ones would give means nothing.

## Contents

* `HandState.step?`: the new picture, or nothing.
* `HandState.step`, `HandState.run`: the picture afterwards in any case.
-/

namespace MentalPoker.HandState

/-! ## Steps -/

/-- Enters a phase from its predecessor. -/
def enter? (s : HandState) (phase : HandPhase) : Option HandState :=
  if phase.predecessor? = some s.phase then some { s with phase := phase } else none

/-- Changes the card at a slot. -/
def updateCard? (s : HandState) (slot : Slot) (f : CardProgress → CardProgress) :
    Option HandState :=
  (Table.get? slot s.cards).map fun card =>
    { s with cards := Table.insert slot (f card) s.cards }

def say (s : HandState) (message : Text) : HandState := { s with status := message }

/-- The card at a slot, as the viewer's status lines call it, counted from one. -/
def ordinal (slot : Slot) : Text := Text.ofInt (slot.index + 1)

/-- A new hand. The viewer's key stays when the new hand brings none. -/
def initGame (s : HandState) (gameId handId players : Int) (key : Json) : HandState :=
  { fresh with
    gameId := some gameId
    handId := some handId
    viewerKey := if key.truthy then key else s.viewerKey
    playerCount := players
    status := text "Game " ++ Text.ofInt gameId ++ text " initialized with " ++ Text.ofInt players
      ++ text " players" }

def shuffleProgress? (s : HandState) (current total : Int) : Option HandState :=
  if s.phase = .shuffling then
    let message :=
      if 0 < total then
        text "Shuffling deck: " ++ Text.ofInt current ++ text "/" ++ Text.ofInt total
      else text "Shuffling deck: step " ++ Text.ofInt current
    some { s with currentStep := current, totalSteps := total, status := message }
  else none

/-- The cards of a table that nobody knows anything about. -/
def seededCards (s : HandState) : Table Slot CardProgress :=
  (dealOrder s.playerCount).map fun slot =>
    (slot, .seeded slot (if slot.seat = s.viewerSeat then s.viewerKey else .null) s.playerCount)

/-- The cards come onto the table once in a hand. A hand that was seen from the shuffle on enters
its dealing phase with them. -/
def startDealing? (s : HandState) (deck : List Card) : Option HandState :=
  if !s.cards.isEmpty || s.phase = .complete then none
  else
    some { s with
      displayDeck := deck
      cards := s.seededCards
      dealQueue := dealOrder s.playerCount
      status := text "Dealing hole cards..."
      phase := if s.phase = .shuffling then .dealing else s.phase }

def cardDealt? (s : HandState) (slot : Slot) : Option HandState :=
  (s.updateCard? slot fun card => { card with dealt := true }).map fun s =>
    s.say (text "Card " ++ ordinal slot ++ text " dealt to "
      ++ (if slot.seat = s.viewerSeat then text "you"
        else text "Player " ++ Text.ofInt slot.seat))

/-- The text itself unless it is absent or empty. -/
def orElseText (t : Option Text) (other : Text) : Text :=
  match t with
  | some (c :: cs) => c :: cs
  | _ => other

/-- The key under which a share is counted. -/
def contributorOf (r : ShareReceipt) : Text :=
  orElseText r.contributor (text "seat:" ++ Text.ofInt r.fromSeat)

/-- The share, or a stand-in that names where it came from. -/
def shareOf (kind : ShareKind) (r : ShareReceipt) : Text :=
  orElseText r.share (kind.word ++ text "_share_from_" ++ contributorOf r)

/-- The shares of a kind. -/
def sharesOf (kind : ShareKind) (card : CardProgress) : Table Text Text :=
  match kind with
  | .blinding => card.blinding
  | .unblinding => card.unblinding

/-- A share counts once for each contributor. -/
def addShare (kind : ShareKind) (r : ShareReceipt) (card : CardProgress) : CardProgress :=
  match kind with
  | .blinding =>
    { card with blinding := Table.insert (contributorOf r) (shareOf kind r) card.blinding }
  | .unblinding =>
    { card with unblinding := Table.insert (contributorOf r) (shareOf kind r) card.unblinding }

def shareReceived? (s : HandState) (kind : ShareKind) (r : ShareReceipt) : Option HandState :=
  (Table.get? r.slot s.cards).map fun card =>
    let card := addShare kind r card
    let s := { s with cards := Table.insert r.slot card s.cards }
    if r.slot.seat = s.viewerSeat then
      s.say (text "Collecting " ++ kind.word ++ text " shares for your card " ++ ordinal r.slot
        ++ text "... (" ++ Text.ofNat (sharesOf kind card).length ++ text "/"
        ++ Text.ofInt card.required ++ text ")")
    else s

def cardDecryptable? (s : HandState) (slot : Slot) : Option HandState :=
  (s.updateCard? slot fun card => { card with decryptable := true }).map fun s =>
    if slot.seat = s.viewerSeat then
      s.say (text "Your card " ++ ordinal slot ++ text " is ready to reveal!")
    else s

/-- The viewer's cards are shown; of other cards it is only noted that a reveal arrived. -/
def cardRevealed? (s : HandState) (slot : Slot) (face : Card) : Option HandState :=
  if slot.seat = s.viewerSeat then
    (s.updateCard? slot fun card =>
      { card with revealed := true, face := some face, revealReceived := true }).map fun s =>
        s.say (text "Your card " ++ ordinal slot ++ text " revealed!")
  else s.updateCard? slot fun card => { card with revealReceived := true }

/-! ## Actions -/

/-- The picture after an action, if the action fits. -/
def step? (s : HandState) : Action → Option HandState
  | .initGame gameId handId players key => some (s.initGame gameId handId players key)
  | .setViewerKey key => some { s with viewerKey := key }
  | .startShuffle =>
    (s.enter? .shuffling).map fun s =>
      { s with currentStep := 0, status := text "Starting shuffle protocol..." }
  | .shuffleProgress current total => s.shuffleProgress? current total
  | .shuffleComplete =>
    (s.enter? .dealing).map fun s =>
      s.say (text "Shuffle complete! Preparing to deal cards...")
  | .startDealing deck => s.startDealing? deck
  | .handComplete => (s.enter? .complete).map fun s => s.say (text "Hand complete!")
  | .cardDealt slot => s.cardDealt? slot
  | .shareReceived kind receipt => s.shareReceived? kind receipt
  | .cardDecryptable slot => s.cardDecryptable? slot
  | .cardRevealed slot face => s.cardRevealed? slot face
  | .updateStatus message => some (s.say message)
  | .setError error => some { s with error := error }
  | .eventProcessed seqId => some { s with lastSeqId := max s.lastSeqId seqId }

/-- The picture after an action. -/
def step (s : HandState) (a : Action) : HandState := (s.step? a).getD s

/-- The picture after some actions. -/
def run (s : HandState) (actions : List Action) : HandState := actions.foldl step s

theorem run_append (s : HandState) (xs ys : List Action) :
    s.run (xs ++ ys) = (s.run xs).run ys := by
  simp [run]

end MentalPoker.HandState
