import MentalPoker.Gap
import MentalPoker.Hand.Narrator
import MentalPoker.Hand.Transition
import MentalPoker.Recovery

/-!
# Sessions

A session follows one feed. It owns the picture of the hand and is the only one to change it: the
events of the feed go through the gap buffer and the narrator, and what the narrator says is done
to the picture. Everything that a session does outside itself is an effect: it tells its
listeners, gives cues, connects its transport, and starts rounds of recovery.

## Contents

* `Session`, starting at `Session.fresh`.
* `SessionEffect`: what a session does outside itself.
* `Session.Step`: a part of a reaction; `Session.thenDo` joins two.
-/

namespace MentalPoker

/-- How the connection to the feed stands. -/
inductive ConnectionStatus where
  | idle
  | connecting
  | connected
  | error
  | completed
  deriving DecidableEq, Repr

namespace ConnectionStatus

def name : ConnectionStatus → Text
  | idle => text "idle"
  | connecting => text "connecting"
  | connected => text "connected"
  | error => text "error"
  | completed => text "completed"

end ConnectionStatus

/-- What is fixed for the time of a session. -/
structure SessionSettings where
  /-- The session has a transport that it can connect. -/
  hasTransport : Bool
  /-- So many rounds of recovery that leave a gap are a stall. -/
  stallAttempts : Int
  /-- The deck for the show, in runs that have one deck for every deal. -/
  deck : List Card

/-- A session. -/
structure Session where
  state : HandState
  context : HandContext
  buffer : GapBuffer Finalized
  status : ConnectionStatus
  /-- The transport is connected. -/
  active : Bool
  /-- The feed was opened before. -/
  opened : Bool
  /-- The round of recovery that is under way. -/
  recovery : Option Recovery
  /-- Rounds of recovery that left the gap open. -/
  stallRounds : Nat
  stalled : Bool
  listeners : List Nat

/-- What a session does outside itself. -/
inductive SessionEffect where
  /-- The picture was replaced. -/
  | changed (state : HandState)
  /-- An envelope is applied, in the order of numbers. -/
  | applied (f : Finalized)
  /-- A listener was told the new picture. -/
  | told (listener : Nat) (state : HandState)
  | cue (cue : Cue)
  | connect
  | disconnect
  /-- The transport was closed for good. -/
  | close
  | recover (recovery : Recovery)

namespace Session

def fresh : Session where
  state := .fresh
  context := .fresh
  buffer := .start 0
  status := .idle
  active := false
  opened := false
  recovery := none
  stallRounds := 0
  stalled := false
  listeners := []

/-- The state of a session, for diagnosis. -/
def debugMembers (s : Session) : List (String × Json) :=
  [("connection_status", .str s.status.name),
    ("recovery_in_flight", .bool s.recovery.isSome),
    ("stall_rounds", Json.nat s.stallRounds),
    ("stalled", .bool s.stalled),
    ("last_seq_id", .int s.state.lastSeqId)]
  ++ s.buffer.members

/-! ## Parts of reactions -/

/-- A part of a reaction. -/
abbrev Step := Session → Session × List SessionEffect

/-- Nothing happens. -/
def skip : Step := fun s => (s, [])

/-- A change that nobody outside sees. -/
def modify (f : Session → Session) : Step := fun s => (f s, [])

def emit (e : SessionEffect) : Step := fun s => (s, [e])

/-- One part after another. -/
def thenDo (f g : Step) : Step := fun s =>
  let (s, first) := f s
  let (s, second) := g s
  (s, first ++ second)

/-- Parts one after another. -/
def inOrder (steps : List Step) : Step := steps.foldr thenDo skip

/-- A part of a reaction that depends on the session. -/
def depending (f : Session → Step) : Step := fun s => f s s

@[simp] theorem inOrder_nil : inOrder [] = skip := rfl

@[simp] theorem inOrder_cons (f : Step) (fs : List Step) :
    inOrder (f :: fs) = thenDo f (inOrder fs) := rfl

end Session

end MentalPoker
