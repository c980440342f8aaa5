import MentalPoker.Session.Reaction

/-!
# Sessions as tasks

While a session reacts it calls others: its listeners, each time the picture is replaced, and those
who take its cues. Any of them may fail, and what he raises goes up to the first place that catches
it. There are three such places. Every single call catches all that comes of it. The narrator
passes over an event when something of certain kinds is raised while he tells it, so that the rest
of the event is lost; and what a round of recovery brought is given up when anything is raised.

What can be raised here are errors. A cancellation of the task that makes a call, or a request to
exit, is meant to go past all three places and ends the session with them; neither is among
`Raised`.

Here the reactions of a session are written out with what is raised and what is caught. As nothing
gets past the calls, they are those of `Session.react`, whatever the listeners do.

## Contents

* `Raised`, `Surroundings`: what others raise when they are called.
* `Change`: what is asked of the picture.
* `Task`, with `Task.call` and `Task.safeCall`.
* `Task.react`, `Task.run`: the reactions.
-/

namespace MentalPoker

/-- What is asked of the picture of a session: an action, or to start again. -/
inductive Change where
  | action (a : Action)
  | restart

namespace Session

/-- What is raised in a task: errors, all of which a call catches. -/
inductive Raised where
  /-- Something is missing, or has a wrong type or value. -/
  | unfit
  | other
  deriving DecidableEq, Repr

/-- What the one who was called last raises, if anything. It may depend on all that was done so far,
which ends with this call. -/
abbrev Surroundings := List SessionEffect → Option Raised

structure TaskState where
  session : Session
  /-- All that was asked of the picture. -/
  asked : List Change
  /-- All that was done outside. -/
  done : List SessionEffect

abbrev Task := ExceptT Raised (StateM TaskState)

namespace Task

variable (w : Surroundings)

/-! ## Calls -/

def session : Task Session := return (← get).session

/-- A part in which nobody is called. -/
def perform (f : Step) : Task Unit :=
  modifyThe TaskState fun st =>
    { st with session := (f st.session).1, done := st.done ++ (f st.session).2 }

def ask (change : Change) : Task Unit :=
  modifyThe TaskState fun st => { st with asked := st.asked ++ [change] }

def call (e : SessionEffect) : Task Unit := do
  perform (emit e)
  (w (← get).done).elim (pure ()) throw

/-- A call, and every error that it raises ends there. -/
def safeCall (e : SessionEffect) : Task Unit := tryCatch (call w e) fun _ => pure ()

/-! ## The picture -/

/-- Each listener is told the picture that the session has by then. -/
def notify : List Nat → Task Unit
  | [] => pure ()
  | l :: rest => do
    let s ← session
    safeCall w (.told l s.state)
    notify rest

/-- Replaces the picture and tells those who listen by then. -/
def assign (state : HandState) : Task Unit := do
  perform fun s => ({ s with state := state }, [.changed state])
  let s ← session
  notify w s.listeners

def dispatch (a : Action) : Task Unit := do
  ask (.action a)
  let s ← session
  match s.state.step? a with
  | none => pure ()
  | some state => assign w state

def follow : Narrator.Effect → Task Unit
  | .remember c => perform (Session.modify fun s => { s with context := c })
  | .dispatch a => dispatch w a
  | .cue c => safeCall w (.cue c)

def followAll : List Narrator.Effect → Task Unit
  | [] => pure ()
  | e :: rest => do
    follow w e
    followAll rest

/-- What the narrator passes over. -/
def passOver : Raised → Task Unit
  | .unfit => pure ()
  | raised => throw raised

/-- The narrator tells an event, or as much of it as he can. -/
def narrated (effects : List Narrator.Effect) : Task Unit := tryCatch (followAll w effects) passOver

/-! ## Stalls and resets -/

def clearStall : Task Unit := do
  let s ← session
  perform (Session.modify fun s => { s with stallRounds := 0, stalled := false })
  if s.stalled then dispatch w (.setError none) else pure ()

def resetPipeline : Task Unit := do
  perform cancelRecovery
  perform (Session.modify fun s =>
    { s with buffer := .start 0, context := .fresh, stallRounds := 0, stalled := false })
  ask .restart
  assign w .fresh

/-! ## Events -/

def applyOne (deck : List Card) (f : Finalized) : Task Unit := do
  perform (emit (.applied f))
  let s ← session
  narrated w (Narrator.envelope deck s.context f)

def applyReady (deck : List Card) : List (Int × Finalized) → Task Unit
  | [] => pure ()
  | entry :: ready => do
    applyOne w deck entry.2
    applyReady deck ready

/-- What an envelope leaves behind: a gap is to be filled, and a closed one is no stall. -/
def afterEnvelope (f : Finalized) (arrival : GapBuffer.Arrival Finalized) : Task Unit := do
  let s ← session
  if arrival.hasGap then
    perform (requestRecovery ⟨f.envelope.gameId, f.envelope.handId, arrival.missing⟩)
  else if s.buffer.hasPending then pure ()
  else clearStall w

def envelope (deck : List Card) (f : Finalized) : Task Unit := do
  let s ← session
  let arrival := s.buffer.arrive f.seqId f
  perform (Session.modify fun s => { s with buffer := arrival.buffer })
  applyReady w deck arrival.ready
  afterEnvelope w f arrival

def prepareHand : Task Unit := do
  perform cancelRecovery
  perform (Session.modify fun s => { s with buffer := .start 0 })
  clearStall w

/-- The narrator tells an event with what he remembers by then. -/
def narrate (deck : List Card) (e : FeedEvent) : Task Unit := do
  let s ← session
  narrated w (Narrator.effects deck s.context e)

def event (deck : List Card) (e : FeedEvent) : Task Unit :=
  match e with
  | .gameEvent f => envelope w deck f
  | .handCreated hand => do
    prepareHand w
    narrate w deck (.handCreated hand)
  | e => narrate w deck e

def kindOnly : FeedEvent.Kind → Task Unit
  | .handCreated => prepareHand w
  | kind => do
    let s ← session
    narrated w (Narrator.effectsOfKind s.context kind)

def beginHand (deck : List Card) (e : FeedEvent) (key : Option Text) : Task Unit :=
  match key with
  | some (c :: cs) => do
    perform (Session.modify fun s =>
      { s with context := { s.context with viewerKey := .str (c :: cs) } })
    event w deck e
  | _ => event w deck e

/-! ## Recovery -/

/-- A round left some numbers missing, or none. -/
def countMissing (attempts : Int) (s : Session) : List Int → Task Unit
  | [] => clearStall w
  | missing =>
    if attempts ≤ ((s.stallRounds + 1 : Nat) : Int) && !s.stalled then do
      perform (Session.modify fun s => { s with stallRounds := s.stallRounds + 1, stalled := true })
      dispatch w (.setError (some (text "Waiting for missing events ("
        ++ Text.ofNat missing.length ++ text " outstanding)")))
    else perform (Session.modify fun s => { s with stallRounds := s.stallRounds + 1 })

def countRound (attempts : Int) : Task Unit := do
  let s ← session
  countMissing w attempts s s.buffer.missing

def mergeFetched (deck : List Card) (envelopes : List Finalized) : Task Unit := do
  let s ← session
  let fetched := s.buffer.fetched (envelopes.map fun f => ((f.seqId : Int), f))
  perform (Session.modify fun s => { s with buffer := fetched.1 })
  applyReady w deck fetched.2

/-- What a round brought, or as much of it as goes through. -/
def mergeRound (deck : List Card) : Except Failure RecoveryResult → Task Unit
  | .ok r => tryCatch (mergeFetched w deck r.envelopes) fun _ => pure ()
  | .error _ => pure ()

/-- The end of a round, if one is under way. -/
def endRound (settings : SessionSettings) (result : Except Failure RecoveryResult) :
    Option Recovery → Task Unit
  | none => pure ()
  | some _ => do
    perform cancelRecovery
    mergeRound w settings.deck result
    countRound w settings.stallAttempts

def recovered (settings : SessionSettings) (result : Except Failure RecoveryResult) :
    Task Unit := do
  let s ← session
  endRound w settings result s.recovery

/-! ## Connection -/

/-- A feed that opens anew. -/
def forgetOld : Task Unit := do
  let s ← session
  if s.opened then resetPipeline w else pure ()

def opening : Task Unit := do
  forgetOld w
  perform (Session.modify fun s => { s with opened := true, status := .connected })
  dispatch w (.setError none)

def failed (message : Text) : Task Unit := do
  perform (Session.modify fun s => { s with status := .error })
  dispatch w (.setError (some message))

def reset : Task Unit := do
  perform disconnect
  perform (Session.modify fun s => { s with opened := false, status := .idle })
  resetPipeline w

/-! ## Inputs -/

/-- The reaction to an input. -/
def react (settings : SessionSettings) : SessionInput → Task Unit
  | .start => perform (start settings)
  | .opened => opening w
  | .failed message => failed w message
  | .completed => perform completed
  | .event e => event w settings.deck e
  | .kindOnly kind => kindOnly w kind
  | .beginHand e key => beginHand w settings.deck e key
  | .recovered result => recovered w settings result
  | .listen l => perform (Session.modify fun s => { s with listeners := s.listeners ++ [l] })
  | .unlisten l => perform (Session.modify fun s => { s with listeners := s.listeners.erase l })
  | .reset => reset w
  | .close => do
    reset w
    perform (if settings.hasTransport then emit .close else skip)

/-- The reactions to a series of inputs, up to one that raises something. -/
def run (settings : SessionSettings) : List SessionInput → Task Unit
  | [] => pure ()
  | input :: rest => do
    react w settings input
    run settings rest

/-- What comes of a task, and the state that it leaves. -/
def exec {α : Type} (m : Task α) (st : TaskState) : Except Raised α × TaskState :=
  StateT.run (ExceptT.run m) st

end Task

end Session

end MentalPoker
