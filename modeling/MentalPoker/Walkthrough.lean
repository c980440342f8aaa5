import MentalPoker.Ledger.Demo

/-!
# Walkthroughs

A user walks through one hand: a new demo is made, its deck is shuffled, and its cards are dealt.
The shuffle and the deal each have a stream, and the end of the stream is the end of the phase.

```text
idle → loading → ready → shuffling → shuffle complete → dealing → complete
```

## Contents

* `Walkthrough`, starting at `Walkthrough.fresh`; its `Progress` is what the user sees.
* `Walkthrough.grant`: when the stream of a phase may be opened.
* `Walkthrough.react`: the reaction to an input.
-/

namespace MentalPoker

/-- The phases that have a stream. -/
inductive PhaseStream where
  | shuffle
  | deal
  deriving DecidableEq, Repr

/-- The ids of a demo. -/
structure DemoIds where
  demoId : Uuid
  gameId : Int
  handId : Int
  deriving DecidableEq, Repr

def DemoInfo.ids (info : DemoInfo) : DemoIds := ⟨info.demoId, info.gameId, info.handId⟩

namespace PhaseStream

/-- The address of the stream of a demo. -/
def url (a : LedgerAddress) (demo : DemoIds) : PhaseStream → Text
  | shuffle => a.shuffleStream demo.demoId.display
  | deal => a.dealStream demo.demoId.display

end PhaseStream

namespace Walkthrough

inductive Phase where
  | idle
  | loading
  | ready
  | shuffling
  | shuffleComplete
  | dealing
  | complete
  deriving DecidableEq, Repr

namespace Phase

def name : Phase → Text
  | idle => text "idle"
  | loading => text "loading"
  | ready => text "ready"
  | shuffling => text "shuffling"
  | shuffleComplete => text "shuffle_complete"
  | dealing => text "dealing"
  | complete => text "complete"

/-- The phase while a stream is open. -/
def during : PhaseStream → Phase
  | .shuffle => shuffling
  | .deal => dealing

/-- The phase when a stream has ended. -/
def after : PhaseStream → Phase
  | .shuffle => shuffleComplete
  | .deal => complete

end Phase

/-- When a stream was opened, and how long it was open, in ticks of a clock. -/
structure Timing where
  started : Option Int
  duration : Option Int
  deriving DecidableEq, Repr

namespace Timing

def none : Timing := ⟨.none, .none⟩

/-- A stream that was never opened took no time that is known. -/
def stop (t : Timing) (now : Int) : Timing :=
  { t with duration := t.started.map fun started => now - started }

end Timing

/-- What the user sees of a walkthrough. -/
structure Progress where
  phase : Phase
  demo : Option DemoIds
  /-- The last error; the next phase clears it. -/
  error : Option Text
  shuffle : Timing
  deal : Timing
  deriving DecidableEq, Repr

namespace Progress

def fresh : Progress := ⟨.idle, none, none, .none, .none⟩

def ready (demo : DemoIds) : Progress := { fresh with phase := .ready, demo := some demo }

def timing (p : Progress) : PhaseStream → Timing
  | .shuffle => p.shuffle
  | .deal => p.deal

def setTiming (p : Progress) (t : Timing) : PhaseStream → Progress
  | .shuffle => { p with shuffle := t }
  | .deal => { p with deal := t }

/-- A stream is opened. -/
def opening (p : Progress) (k : PhaseStream) (now : Int) : Progress :=
  { p with phase := .during k, error := none }.setTiming { p.timing k with started := some now } k

/-- A stream has ended. -/
def finish (p : Progress) (k : PhaseStream) (now : Int) : Progress :=
  { p with phase := .after k }.setTiming ((p.timing k).stop now) k

def toJson (p : Progress) : Json :=
  Json.object [
    ("phase", .str p.phase.name),
    ("demo_id", Json.ofOption (fun d => .str d.demoId.display) p.demo),
    ("game_id", Json.ofOption (fun d => .int d.gameId) p.demo),
    ("hand_id", Json.ofOption (fun d => .int d.handId) p.demo),
    ("error", Json.ofOption .str p.error),
    ("shuffle_duration", Json.ofOption .int p.shuffle.duration),
    ("deal_duration", Json.ofOption .int p.deal.duration)]

end Progress

end Walkthrough

/-- A walkthrough. -/
structure Walkthrough where
  progress : Walkthrough.Progress
  /-- The demo as the ledger announced it. -/
  info : Option DemoInfo
  /-- A demo was asked for and the reply is awaited. -/
  starting : Bool
  /-- The streams opened so far, in order. A stream is known by its place. -/
  opened : List PhaseStream
  shuffleStream : Option Nat
  dealStream : Option Nat

/-- What happens to a walkthrough. -/
inductive WalkthroughInput where
  /-- The user asks for a new demo. -/
  | start
  /-- The reply to a request for a new demo. -/
  | answered (reply : Except CallFault DemoInfo)
  /-- The user asks for a phase. -/
  | begin (phase : PhaseStream) (now : Int)
  /-- A stream has ended. -/
  | closed (stream : Nat) (now : Int)
  /-- A stream has failed. -/
  | failed (stream : Nat) (message : Text)
  | reset
  | close

/-- What a walkthrough does outside itself. -/
inductive WalkthroughEffect where
  /-- Asks the ledger for a new demo. -/
  | request
  | connect (stream : Nat) (url : Text)
  | disconnect (stream : Nat)
  /-- A stream was closed for good. -/
  | close (stream : Nat)
  deriving DecidableEq, Repr

namespace Walkthrough

def fresh : Walkthrough := ⟨.fresh, none, false, [], none, none⟩

/-- The stream of a phase that is held. -/
def held (w : Walkthrough) : PhaseStream → Option Nat
  | .shuffle => w.shuffleStream
  | .deal => w.dealStream

def setHeld (w : Walkthrough) (stream : Option Nat) : PhaseStream → Walkthrough
  | .shuffle => { w with shuffleStream := stream }
  | .deal => { w with dealStream := stream }

/-! ## Demos -/

/-- A new demo is asked for, unless a reply is awaited. -/
def start (w : Walkthrough) : Walkthrough × List WalkthroughEffect :=
  if w.starting then (w, [])
  else
    ({ w with
        starting := true
        info := none
        progress := { w.progress with phase := .loading, error := none } },
      [.request])

/-- The reply to a request. After a fault the user may ask again, and after a failure too, though
nothing is said about it. -/
def answered (w : Walkthrough) : Except CallFault DemoInfo → Walkthrough
  | .ok info => { w with starting := false, info := some info, progress := .ready info.ids }
  | .error (.failure _) => { w with starting := false }
  | .error (.ledger fault) =>
    { w with
      starting := false
      progress := { w.progress with phase := .idle, error := some fault.message } }

/-! ## Streams -/

/-- The demo whose stream may be opened: there has to be one, and its deck is shuffled before its
cards are dealt. -/
def grant (w : Walkthrough) (k : PhaseStream) : Except Text DemoIds :=
  match w.progress.demo with
  | none => .error (text "No demo ID available")
  | some demo =>
    if k = .deal ∧ w.progress.phase ≠ .shuffleComplete then
      .error (text "Shuffle must complete before dealing")
    else .ok demo

/-- The held stream of a phase is disconnected. -/
def release (w : Walkthrough) (k : PhaseStream) : Walkthrough × List WalkthroughEffect :=
  (w.setHeld none k, (w.held k).toList.map .disconnect)

/-- Opens the stream of a phase in place of the one that is held. -/
def begin (a : LedgerAddress) (w : Walkthrough) (k : PhaseStream) (now : Int) :
    Walkthrough × List WalkthroughEffect :=
  match w.grant k with
  | .error message => ({ w with progress := { w.progress with error := some message } }, [])
  | .ok demo =>
    let stream := w.opened.length
    let (w, effects) := w.release k
    ({ w.setHeld (some stream) k with
        progress := w.progress.opening k now
        opened := w.opened ++ [k] },
      effects ++ [.connect stream (k.url a demo)])

/-- The end of a stream is the end of its phase. -/
def closed (w : Walkthrough) (stream : Nat) (now : Int) : Walkthrough :=
  match w.opened[stream]? with
  | none => w
  | some k => { w.setHeld none k with progress := w.progress.finish k now }

/-! ## Resets -/

/-- Both streams are disconnected, and all is forgotten. -/
def reset (w : Walkthrough) : Walkthrough × List WalkthroughEffect :=
  let (w, first) := w.release .shuffle
  let (w, second) := w.release .deal
  ({ w with starting := false, info := none, progress := .fresh }, first ++ second)

/-- A reset that also closes the streams that were held. -/
def close (w : Walkthrough) : Walkthrough × List WalkthroughEffect :=
  let streams := w.shuffleStream.toList ++ w.dealStream.toList
  let (w, effects) := w.reset
  (w, effects ++ streams.map .close)

/-! ## Inputs -/

/-- The reaction to an input. -/
def react (a : LedgerAddress) (w : Walkthrough) :
    WalkthroughInput → Walkthrough × List WalkthroughEffect
  | .start => w.start
  | .answered reply => (w.answered reply, [])
  | .begin k now => w.begin a k now
  | .closed stream now => (w.closed stream now, [])
  | .failed _ message => ({ w with progress := { w.progress with error := some message } }, [])
  | .reset => w.reset
  | .close => w.close

/-- The reactions to a series of inputs. -/
def run (a : LedgerAddress) (w : Walkthrough) :
    List WalkthroughInput → Walkthrough × List WalkthroughEffect
  | [] => (w, [])
  | input :: rest =>
    let (w, effects) := w.react a input
    let (w, more) := run a w rest
    (w, effects ++ more)

end Walkthrough

end MentalPoker
