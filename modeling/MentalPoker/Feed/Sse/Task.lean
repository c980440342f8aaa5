import MentalPoker.Feed.Sse

/-!
# The stream transport as a task

The stream transport runs as a task of its own, and two things from outside can reach into it. A
subscriber that is told something may fail, and whoever connected the transport may disconnect it
while it waits. Either way something is raised in the task, and goes up to the first place that
catches it: failures of subscribers are caught where they are told, the loss of a connection is
caught around the reading of a stream, and a cancellation is caught nowhere.

Here the transport is written out with what is raised and what is caught. As long as nobody
disconnects it, it takes the steps of `Sse.run`, whatever its subscribers do.

## Contents

* `Surroundings`: what subscribers and whoever connected the transport do, moment by moment.
* `Task`, with `Task.await` and `Task.safeCall`.
* `Task.loop`: the whole life of the transport.
* `Task.steps`: the steps that it takes.
-/

namespace MentalPoker.Sse

/-- What is raised in a task. -/
inductive Raised where
  /-- The connection is lost. -/
  | lost (reason : Text)
  /-- Something else fails that the transport uses. -/
  | failed (failure : Failure)
  /-- A subscriber fails with an error. -/
  | subscriber
  /-- The task is cancelled. -/
  | cancelled
  /-- Nothing more happens, so that the task waits for good. -/
  | silence
  deriving DecidableEq, Repr

/-- What others do while the transport runs. It may depend on all steps so far, the last of which
is the one that it answers to. -/
structure Surroundings where
  /-- The subscriber that is told the last step fails, with an error. A cancellation or a request to
  exit that he raises would not end where he is told, and cannot be expressed. -/
  fails : List TransportStep → Bool
  /-- The transport is disconnected while it waits at the last step. -/
  disconnects : List TransportStep → Bool

structure TaskState where
  steps : List TransportStep
  backoff : Backoff

abbrev Task := ExceptT Raised (StateM TaskState)

namespace Task

variable [Json.Room] (w : Surroundings)

/-! ## Steps -/

def perform (step : TransportStep) : Task Unit :=
  modify fun st => { st with steps := st.steps ++ [step] }

/-- A step that waits. -/
def await (step : TransportStep) : Task Unit := do
  perform step
  if w.disconnects (← get).steps then throw .cancelled

/-- A subscriber is told a step. -/
def tell (step : TransportStep) : Task Unit := do
  perform step
  if w.fails (← get).steps then throw .subscriber

/-- A subscriber is told a step, and an error of his ends there. -/
def safeCall (step : TransportStep) : Task Unit :=
  tryCatch (tell w step) fun
    | .cancelled => throw .cancelled
    | _ => pure ()

/-! ## Reading -/

/-- Reads a frame, and says whether the feed is over. -/
def readFrame (f : Frame) : Task Bool :=
  match FeedEvent.Kind.ofName? f.event with
  | none => pure false
  | some _ =>
    match FeedEvent.decode (some f.event) (.text f.data) with
    | .error fault =>
      match fault.failure? with
      | none => pure false
      | some failure => throw (.failed failure)
    | .ok e => do
      safeCall w (.event (.event e))
      return e.isTerminal

def readFrames : List Frame → Task Bool
  | [] => pure false
  | f :: rest => do if ← readFrame w f then return true else readFrames rest

def raiseLoss : Loss → Task Bool
  | .dropped reason => throw (.lost reason)
  | .broken failure => throw (.failed failure)

def readChunks (s : Settings) (cut : Option Loss) (d : FrameDecoder) : List Bytes → Task Bool
  | [] => do
    await w .wait
    match cut with
    | some loss => raiseLoss loss
    | none =>
      match d.flush with
      | .error fault => throw (.failed (.charset fault))
      | .ok frames => if ← readFrames w frames then return true else return s.completeOnClose
  | chunk :: rest => do
    await w .wait
    match d.feed chunk with
    | .error fault => throw (.failed (.charset fault))
    | .ok (d, frames) => if ← readFrames w frames then return true else readChunks s cut d rest

/-- Reads one stream. A stream that opens sets the schedule back. -/
def readStream (s : Settings) (a : Answer) : Task Bool := do
  await w .connect
  match a with
  | .refused loss => raiseLoss loss
  | .stream status contentType chunks cut =>
    if let some fault := ContentType.fault? contentType then throw (.failed (.charset fault))
    else if Status.isSuccess status then
      modify fun st => { st with backoff := st.backoff.reset }
      safeCall w .opened
      if Text.hasInfix mediaType (typeOf contentType) then
        match ContentType.charset contentType with
        | .error fault => throw (.failed (.charset fault))
        | .ok charset => readChunks w s cut (.start charset) chunks
      else throw (.lost (typeReason (typeOf contentType)))
    else throw (.lost (statusReason s.url status))

/-! ## The loop -/

/-- A loss is the reason why a stream ended; all else goes on up. -/
def takeLoss : Raised → Task (Option Text)
  | .lost reason => return some reason
  | other => throw other

/-- Why a stream ended, or nothing when the feed is over with it. -/
def reasonOf (reading : Task Bool) : Task (Option Text) :=
  tryCatch (do if ← reading then return none else return some closedReason) takeLoss

/-- The delay before the next attempt, which is one more failure in any case. -/
def nextDelay : Task Rat := do
  let delay := (← get).backoff.delay
  modify fun st => { st with backoff := st.backoff.next }
  if Backoff.isEndless delay then throw (.failed .endlessDelay) else return delay

/-- Announces the delay before the next attempt, and lets it pass. -/
def retry (delay : Rat) (again : Task Unit) : Task Unit := do
  safeCall w (.error (Backoff.message delay) (some delay))
  await w (.sleep delay)
  again

/-- What follows the loss of a connection. -/
def afterLoss (s : Settings) (reason : Text) (again : Task Unit) : Task Unit :=
  if !s.reconnect then safeCall w (.error (text "Connection lost: " ++ reason) none)
  else do retry w (← nextDelay) again

/-- What follows a stream that ended for a reason, or with the feed. -/
def afterStream (s : Settings) (reason : Option Text) (again : Task Unit) : Task Unit :=
  match reason with
  | none => safeCall w .complete
  | some reason => afterLoss w s reason again

/-- The life of the transport while the server answers as listed. -/
def loop (s : Settings) : List Answer → Task Unit
  | [] => throw .silence
  | a :: rest => do afterStream w s (← reasonOf (readStream w s a)) (loop s rest)

/-- What comes of a task, and the state that it leaves. -/
def exec {α : Type} (m : Task α) (st : TaskState) : Except Raised α × TaskState :=
  StateT.run (ExceptT.run m) st

/-- The steps of a transport that is connected with a schedule. -/
def steps (s : Settings) (b : Backoff) (answers : List Answer) : List TransportStep :=
  (exec (loop w s answers) ⟨[], b.reset⟩).2.steps

end Task

end MentalPoker.Sse
