import MentalPoker.Session

/-!
# Reactions of a session

How a session reacts to what happens to it: to the events of its feed, to the life of the
connection, and to rounds of recovery.

The rules, in short. An envelope that arrives ahead of the next number waits, and a round of
recovery is started unless one is under way. A new hand, a feed that opens anew and a reset each
cancel the round that is under way, so nothing of it is used afterwards. Rounds that leave a gap
are counted; from a certain count on the gap is called a stall, which is said once and taken back
when the gap closes.

## Contents

* `SessionInput`: what happens to a session.
* `Session.react`: the reaction to it.
* `Session.run`: the reactions to a series of inputs.
* `Session.runShuffled`: the same with a deck of its own for every deal.
-/

namespace MentalPoker

/-- What happens to a session. -/
inductive SessionInput where
  | start
  | opened
  | failed (message : Text)
  | completed
  /-- An event of the feed. -/
  | event (e : FeedEvent)
  /-- An event of which only the kind can be read. -/
  | kindOnly (kind : FeedEvent.Kind)
  /-- A hand announced outside the feed, with the viewer's key if it is known. -/
  | beginHand (e : FeedEvent) (key : Option Text)
  /-- The round of recovery under way has come to an end. -/
  | recovered (result : Except Failure RecoveryResult)
  | listen (listener : Nat)
  | unlisten (listener : Nat)
  | reset
  | close

/-- An input, and the deck that is shuffled should it come to a deal. One deck will do: a hand is
dealt once, and the input that announces a hand does not deal it. -/
structure ShuffledInput where
  input : SessionInput
  deck : List Card

/-- Inputs at which the same deck would be dealt. -/
def ShuffledInput.ofDeck (deck : List Card) (inputs : List SessionInput) : List ShuffledInput :=
  inputs.map (ShuffledInput.mk · deck)

namespace Session

/-! ## The picture -/

/-- Replaces the picture and tells the listeners. -/
def assign (state : HandState) : Step := fun s =>
  ({ s with state := state }, .changed state :: s.listeners.map fun l => .told l state)

/-- Does an action to the picture. An action that does not fit changes nothing and is not told. -/
def dispatch (a : Action) : Step := fun s =>
  match s.state.step? a with
  | none => (s, [])
  | some state => assign state s

/-- One step of what the narrator says. -/
def follow : Narrator.Effect → Step
  | .remember c => modify fun s => { s with context := c }
  | .dispatch a => dispatch a
  | .cue c => emit (.cue c)

/-- All that the narrator says. -/
def followAll (effects : List Narrator.Effect) : Step := inOrder (effects.map follow)

/-! ## Stalls and resets -/

def cancelRecovery : Step := modify fun s => { s with recovery := none }

/-- A stall that was said is taken back. -/
def clearStall : Step := fun s =>
  let stalled := s.stalled
  let s := { s with stallRounds := 0, stalled := false }
  if stalled then dispatch (.setError none) s else (s, [])

/-- Everything about the hand is forgotten. -/
def resetPipeline : Step :=
  inOrder [
    cancelRecovery,
    modify fun s =>
      { s with buffer := .start 0, context := .fresh, stallRounds := 0, stalled := false },
    assign .fresh]

/-! ## Events -/

/-- Applies an envelope: the narrator tells what it means. -/
def applyOne (deck : List Card) (f : Finalized) : Step :=
  thenDo (emit (.applied f))
    (depending fun s => followAll (Narrator.envelope deck s.context f))

/-- Applies envelopes in the order of their release. -/
def applyReady (deck : List Card) (ready : List (Int × Finalized)) : Step :=
  inOrder (ready.map fun entry => applyOne deck entry.2)

/-- Starts a round of recovery unless one is under way. -/
def requestRecovery (r : Recovery) : Step := fun s =>
  match s.recovery with
  | some _ => (s, [])
  | none => ({ s with recovery := some r }, [.recover r])

/-- An envelope of the live feed. -/
def envelope (deck : List Card) (f : Finalized) : Step := fun s =>
  let arrival := s.buffer.arrive f.seqId f
  inOrder [
    modify fun s => { s with buffer := arrival.buffer },
    applyReady deck arrival.ready,
    if arrival.hasGap then
      requestRecovery ⟨f.envelope.gameId, f.envelope.handId, arrival.missing⟩
    else depending fun s => if s.buffer.hasPending then skip else clearStall] s

/-- The numbers of envelopes start again with a new hand. -/
def prepareHand : Step :=
  inOrder [cancelRecovery, modify fun s => { s with buffer := .start 0 }, clearStall]

/-- An event of the feed: envelopes go through the gap buffer, all else goes to the narrator at
once. -/
def event (deck : List Card) (e : FeedEvent) : Step :=
  match e with
  | .gameEvent f => envelope deck f
  | .handCreated hand =>
    thenDo prepareHand
      (depending fun s => followAll (Narrator.effects deck s.context (.handCreated hand)))
  | e => depending fun s => followAll (Narrator.effects deck s.context e)

/-- An event of which only the kind can be read. A new hand is prepared, but cannot begin. -/
def kindOnly : FeedEvent.Kind → Step
  | .handCreated => prepareHand
  | kind => depending fun s => followAll (Narrator.effectsOfKind s.context kind)

/-- A hand that is announced outside the feed. -/
def beginHand (deck : List Card) (e : FeedEvent) (key : Option Text) : Step :=
  match key with
  | some (c :: cs) =>
    thenDo (modify fun s => { s with context := { s.context with viewerKey := .str (c :: cs) } })
      (event deck e)
  | _ => event deck e

/-! ## Recovery -/

/-- After a round: with no gap left there is no stall; a gap that stays is one more round. -/
def countRound (attempts : Int) : Step := fun s =>
  match s.buffer.missing with
  | [] => clearStall s
  | missing =>
    let s := { s with stallRounds := s.stallRounds + 1 }
    if attempts ≤ s.stallRounds && !s.stalled then
      dispatch (.setError (some (text "Waiting for missing events ("
        ++ Text.ofNat missing.length ++ text " outstanding)"))) { s with stalled := true }
    else (s, [])

/-- What a round brought goes through the gap buffer. -/
def mergeFetched (deck : List Card) (envelopes : List Finalized) : Step := fun s =>
  let (buffer, ready) := s.buffer.fetched (envelopes.map fun f => ((f.seqId : Int), f))
  applyReady deck ready { s with buffer := buffer }

/-- The end of a round of recovery. Without a round under way there is nothing to end. -/
def recovered (settings : SessionSettings) (result : Except Failure RecoveryResult) : Step :=
  fun s =>
    match s.recovery with
    | none => (s, [])
    | some _ =>
      inOrder [
        cancelRecovery,
        match result with
        | .ok r => mergeFetched settings.deck r.envelopes
        | .error _ => skip,
        countRound settings.stallAttempts] s

/-! ## Connection -/

/-- Why a session cannot start. -/
def startFault? (settings : SessionSettings) (s : Session) : Option Text :=
  if s.active || settings.hasTransport then none
  else some (text "Session has no live feed transport")

/-- Connects the transport, if there is one that is not connected. -/
def start (settings : SessionSettings) : Step := fun s =>
  if s.active || !settings.hasTransport then (s, [])
  else ({ s with status := .connecting, active := true }, [.connect])

/-- The feed is open. When it opens anew, envelopes of the old connection would only disturb. -/
def opening : Step := fun s =>
  inOrder [
    if s.opened then resetPipeline else skip,
    modify fun s => { s with opened := true, status := .connected },
    dispatch (.setError none)] s

def failed (message : Text) : Step :=
  thenDo (modify fun s => { s with status := .error }) (dispatch (.setError (some message)))

def completed : Step := modify fun s => { s with status := .completed, active := false }

def disconnect : Step := fun s =>
  if s.active then ({ s with active := false }, [.disconnect]) else (s, [])

def reset : Step :=
  inOrder [
    disconnect,
    modify fun s => { s with opened := false, status := .idle },
    resetPipeline]

/-! ## Inputs -/

/-- The reaction to an input. -/
def react (settings : SessionSettings) : SessionInput → Step
  | .start => start settings
  | .opened => opening
  | .failed message => failed message
  | .completed => completed
  | .event e => event settings.deck e
  | .kindOnly kind => kindOnly kind
  | .beginHand e key => beginHand settings.deck e key
  | .recovered result => recovered settings result
  | .listen l => modify fun s => { s with listeners := s.listeners ++ [l] }
  | .unlisten l => modify fun s => { s with listeners := s.listeners.erase l }
  | .reset => reset
  | .close => thenDo reset (if settings.hasTransport then emit .close else skip)

/-- The reactions to a series of inputs. -/
def run (settings : SessionSettings) (inputs : List SessionInput) : Step :=
  inOrder (inputs.map (react settings))

/-- The reactions to a series of inputs that bring their decks, so that every deal has its own. The
deck of the settings is not dealt. -/
def runShuffled (settings : SessionSettings) (inputs : List ShuffledInput) : Step :=
  inOrder (inputs.map fun i => react { settings with deck := i.deck } i.input)

end Session

end MentalPoker
