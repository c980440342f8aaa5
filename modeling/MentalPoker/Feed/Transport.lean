import MentalPoker.Feed.Backoff
import MentalPoker.Feed.Event

/-!
# Transports

A transport brings the events of a feed to whoever is connected. It opens connections one after
another; what it does, seen from outside, is a list of steps. Some steps wait: for the next part of
the feed, or for a delay to pass. A transport that is disconnected goes no further than its next
wait.

## Contents

* `Delivery`: what a transport brings.
* `Subscriber.sees`: what a subscriber is told.
* `TransportStep`: what a transport does.
* `Reading`: what comes of one connection.
* `TransportStep.disconnectedDuring`: the steps of a transport that is disconnected on the way.
-/

namespace MentalPoker

/-- What a transport brings: an event, or an envelope from a row of the ledger's table. -/
inductive Delivery where
  | event (e : FeedEvent)
  | row (f : Finalized)

namespace Delivery

def toEvent : Delivery → FeedEvent
  | event e => e
  | row f => .gameEvent f

/-- The delivery after which a feed ends. -/
def isTerminal : Delivery → Bool
  | event e => e.isTerminal
  | row _ => false

end Delivery

/-! ## Subscribers -/

/-- Who is told what a transport does. -/
structure Subscriber where
  /-- It fails whenever it is told something. -/
  fails : Bool

namespace Subscriber

/-- What a subscriber has seen of a call, if there is one. A failure of its own ends there: it has
seen the call all the same, and nobody else learns of it. -/
def sees (subscriber : Option Subscriber) (call : α) : List α :=
  match subscriber with
  | none => []
  | some _ => [call]

end Subscriber

/-! ## Steps -/

/-- What a transport does. -/
inductive TransportStep where
  /-- It tries to connect. -/
  | connect
  | opened
  /-- It waits for the next part of the feed. -/
  | wait
  | event (d : Delivery)
  /-- It failed, and says after how many milliseconds it tries again, if it does. -/
  | error (message : Text) (retry : Option Rat)
  | complete
  | sleep (delay : Rat)
  /-- It gave back its subscription. -/
  | released

namespace TransportStep

/-- Steps at which a transport can be stopped. -/
def waits : TransportStep → Bool
  | wait | sleep _ => true
  | _ => false

/-- The steps of a transport that is disconnected by whoever takes its `n`-th delivery: it goes on
up to its next wait. -/
def disconnectedDuring : (n : Nat) → List TransportStep → List TransportStep
  | _, [] => []
  | n, .event d :: rest =>
    if n ≤ 1 then .event d :: rest.takeWhile fun step => !step.waits
    else .event d :: disconnectedDuring (n - 1) rest
  | n, step :: rest => step :: disconnectedDuring n rest

/-- Failures since the last connection that opened. -/
def attempts (steps : List TransportStep) : Nat :=
  steps.foldl (fun n step => match step with
    | opened => 0
    | sleep _ => n + 1
    | _ => n) 0

/-- How many deliveries were made. -/
def deliveries (steps : List TransportStep) : Nat :=
  steps.countP fun step => match step with
    | event _ => true
    | _ => false

end TransportStep

/-- How a transport comes to an end. -/
inductive TransportEnd where
  /-- It has nothing more to do. -/
  | finished
  /-- It was stopped by a failure. -/
  | broken (failure : Failure)
  /-- It still waits. -/
  | waiting
  deriving DecidableEq, Repr

/-- The steps of a transport, and how it stands after them. -/
structure TransportRun where
  steps : List TransportStep
  ending : TransportEnd

namespace TransportRun

/-- Steps in front of a run. -/
def after (steps : List TransportStep) (r : TransportRun) : TransportRun :=
  { r with steps := steps ++ r.steps }

/-- The run of a transport that is disconnected by whoever takes its `n`-th delivery. Without
another wait it ends as it would have ended. -/
def disconnectedDuring (n : Nat) (r : TransportRun) : TransportRun :=
  let steps := TransportStep.disconnectedDuring n r.steps
  ⟨steps, if steps.length = r.steps.length then r.ending else .waiting⟩

/-- Failures since the last connection that opened. A delay that cannot be counted follows a
failure, too. -/
def attempts (r : TransportRun) : Nat :=
  TransportStep.attempts r.steps + (if r.ending = .broken .endlessDelay then 1 else 0)

end TransportRun

/-- What comes of a part of a feed. -/
inductive ReadEnd where
  /-- The feed is over. -/
  | completed
  /-- The connection is lost. -/
  | dropped (reason : Text)
  | broken (failure : Failure)
  /-- More may come. -/
  | goesOn

/-- The steps of reading from a connection, and what comes of it. -/
structure Reading where
  steps : List TransportStep
  ending : ReadEnd

namespace Reading

def nothing : Reading := ⟨[], .goesOn⟩

/-- Reads on unless reading came to an end. -/
def andThen (r : Reading) (more : Unit → Reading) : Reading :=
  match r.ending with
  | .goesOn =>
    let next := more ()
    ⟨r.steps ++ next.steps, next.ending⟩
  | _ => r

/-- What a decoded delivery leads to: nothing if it was refused, and the end of the feed if it is
the terminal one. -/
def ofDecoded : Decoded Delivery → Reading
  | .error fault =>
    match fault.failure? with
    | none => nothing
    | some failure => ⟨[], .broken failure⟩
  | .ok d => ⟨[.event d], if d.isTerminal then .completed else .goesOn⟩

end Reading

end MentalPoker
