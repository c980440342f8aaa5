import MentalPoker.Session.Reaction
import MentalPoker.Walkthrough

/-!
# Rehearsals

A session or a walkthrough can be rehearsed without a ledger: the replies come from a script, one
for each request. A reply may be held back, and then it comes when replies are released; from then
on none is held back any more. Requests are made only when the rehearsal is told to go on, so that
inputs can be given while a round of recovery is under way.

## Contents

* `LedgerScript`: the replies that are to come.
* `Rehearsal`: a session in rehearsal, with `react`, `settle` and `release`.
* `WalkthroughRehearsal`: a walkthrough in rehearsal.
-/

namespace MentalPoker

/-! ## Scripts -/

/-- A reply, and whether it is held back. -/
structure ScriptedReply where
  reply : Reply
  held : Bool

abbrev LedgerScript := List ScriptedReply

namespace LedgerScript

/-- The reply when the script is used up: there are no messages. -/
def last : Reply := .answered 200 (Utf8.encode (text "\x7b\"messages\": []\x7d"))

/-- The next reply. -/
def next : LedgerScript → ScriptedReply × LedgerScript
  | [] => (⟨last, false⟩, [])
  | r :: rest => (r, rest)

end LedgerScript

/-! ## Sessions -/

/-- A session in rehearsal. -/
structure Rehearsal where
  session : Session
  script : LedgerScript
  /-- The reply to the round of recovery that is held back. -/
  held : Option Reply
  /-- Replies are not held back any more. -/
  released : Bool

namespace Rehearsal

variable [Json.Room]

def start (session : Session) (script : LedgerScript) : Rehearsal := ⟨session, script, none, false⟩

/-- What was seen: effects of the session, and requests to the ledger. -/
abbrev Seen := List SessionEffect × List Request

/-- The session reacts. A round that is cancelled takes its reply with it. -/
def react (settings : SessionSettings) (r : Rehearsal) (input : SessionInput) : Rehearsal × Seen :=
  let (session, effects) := Session.react settings input r.session
  ({ r with session := session, held := if session.recovery.isNone then none else r.held },
    effects, [])

/-- Lets the round of recovery that is under way make its request and take the reply. -/
def settle (settings : SessionSettings) (r : Rehearsal) : Rehearsal × Seen :=
  match r.session.recovery, r.held with
  | some round, none =>
    match round.request? with
    | none => r.react settings (.recovered (.ok Recovery.idle))
    | some request =>
      let (next, script) := r.script.next
      if next.held && !r.released then
        ({ r with script := script, held := some next.reply }, [], [request])
      else
        let (r, effects, _) :=
          { r with script := script }.react settings (.recovered (round.result next.reply))
        (r, effects, [request])
  | _, _ => (r, [], [])

/-- Gives the reply that was held back, and goes on. -/
def release (settings : SessionSettings) (r : Rehearsal) : Rehearsal × Seen :=
  let r := { r with released := true }
  match r.session.recovery, r.held with
  | some round, some reply =>
    let (r, effects, _) :=
      { r with held := none }.react settings (.recovered (round.result reply))
    let (r, more, requests) := r.settle settings
    (r, effects ++ more, requests)
  | _, _ => r.settle settings

end Rehearsal

/-! ## Walkthroughs -/

/-- A stream that a walkthrough opened, and how often it was disconnected and closed. -/
structure StreamRecord where
  url : Text
  disconnects : Nat
  closes : Nat

/-- A walkthrough in rehearsal. -/
structure WalkthroughRehearsal where
  walkthrough : Walkthrough
  script : LedgerScript
  /-- The replies that are held back. -/
  held : List Reply
  /-- Replies are not held back any more. -/
  released : Bool
  /-- The failures of requests for a new demo. -/
  failures : List Failure
  streams : List StreamRecord

namespace WalkthroughRehearsal

variable [Json.Room]

def start (script : LedgerScript) : WalkthroughRehearsal := ⟨.fresh, script, [], false, [], []⟩

/-- The reply to a request for a new demo arrives. -/
def answer (r : WalkthroughRehearsal) (reply : Reply) : WalkthroughRehearsal :=
  let found := DemoInfo.ofReply reply
  { r with
    walkthrough := r.walkthrough.answered found
    failures := match found with
      | .error (.failure f) => r.failures ++ [f]
      | _ => r.failures }

/-- A change in the record of a stream. -/
def note (r : WalkthroughRehearsal) (stream : Nat) (f : StreamRecord → StreamRecord) :
    WalkthroughRehearsal :=
  { r with streams := r.streams.modify stream f }

/-- Lets an effect happen. -/
def perform (r : WalkthroughRehearsal) : WalkthroughEffect → WalkthroughRehearsal
  | .request =>
    let (next, script) := r.script.next
    if next.held && !r.released then { r with script := script, held := r.held ++ [next.reply] }
    else { r with script := script }.answer next.reply
  | .connect _ url => { r with streams := r.streams ++ [⟨url, 0, 0⟩] }
  | .disconnect stream => r.note stream fun s => { s with disconnects := s.disconnects + 1 }
  | .close stream => r.note stream fun s => { s with closes := s.closes + 1 }

/-- The walkthrough reacts, and the effects of that happen. -/
def react (a : LedgerAddress) (r : WalkthroughRehearsal) (input : WalkthroughInput) :
    WalkthroughRehearsal × List Request :=
  let (walkthrough, effects) := r.walkthrough.react a input
  (effects.foldl perform { r with walkthrough := walkthrough },
    if effects.contains .request then [DemoInfo.request] else [])

/-- Gives the replies that were held back, in the order of their requests. -/
def release (r : WalkthroughRehearsal) : WalkthroughRehearsal :=
  r.held.foldl answer { r with held := [], released := true }

end WalkthroughRehearsal

end MentalPoker
