import MentalPoker.Viewer
import MentalPoker.Viewer.Route

/-!
# The HTTP interface

What the viewer answers to the calls of its interface. A call that is out of place is answered
with a status and a detail; before the services are set up nearly all calls are.

## Contents

* `Answer`: a status with a body.
* `readiness`: the check of the feed and the broker.
* `respond`: the answer to a call, and what the viewer does about it.
* `answer`: the answer to a request.
-/

namespace MentalPoker.Api

variable [Json.Room]

/-! ## Answers -/

/-- The body of an answer. -/
inductive Body where
  | json (v : Json)
  | text (t : Text)
  deriving DecidableEq

/-- An answer. -/
structure Answer where
  status : Nat
  body : Body
  deriving DecidableEq

namespace Answer

/-- The answer when something went wrong that no call provides for. -/
def failure : Answer := ⟨500, .text (text "Internal Server Error")⟩

/-- A JSON body is written as UTF-8, which has no form for lone surrogates, and in strict JSON,
which has none for infinite numbers. -/
def json (status : Nat) (v : Json) : Answer :=
  if v.isStrict then ⟨status, .json v⟩ else failure

/-- The answer to a call that is out of place. -/
def detail (status : Nat) (message : Text) : Answer :=
  json status (Json.object [("detail", .str message)])

/-- Answers to `HEAD` have no body. -/
def forMethod (method : Text) (a : Answer) : Answer :=
  if method = text "HEAD" then { a with body := .text [] } else a

end Answer

def okay (members : List (String × Json)) : Answer := .json 200 (Json.object members)

/-! ## Health -/

/-- What the broker answered when it was asked for a sign of life. -/
inductive BrokerCheck where
  | notConfigured
  | alive
  | failed (message : Text)
  deriving DecidableEq, Repr

namespace BrokerCheck

def members : BrokerCheck → List (String × Json)
  | notConfigured => [("status", .lit "not_configured")]
  | alive => [("status", .lit "ok")]
  | failed message => [("status", .lit "error"), ("message", .str message)]

def isFailed : BrokerCheck → Bool
  | failed _ => true
  | _ => false

end BrokerCheck

/-- The check of the live feed: it fails while the connection is in error. -/
def feedMembers : Option Session → List (String × Json)
  | none => [("status", .lit "not_configured")]
  | some s =>
    ("status", .str s.status.name) ::
      (if s.status = .error then [("message", Json.ofOption .str s.state.error)] else [])

def feedFailed : Option Session → Bool
  | none => false
  | some s => s.status = .error

/-- Whether the viewer is of use: neither the feed nor the broker fails. This answer escapes all
that is not ASCII, so any text can be written in it. -/
def readiness (live : Option Session) (broker : BrokerCheck) : Answer :=
  let degraded := feedFailed live || broker.isFailed
  ⟨if degraded then 503 else 200,
    .json (Json.object [
      ("status", .lit (if degraded then "degraded" else "ok")),
      ("checks", Json.object [
        ("live_feed", Json.object (feedMembers live)),
        ("redis", Json.object broker.members)])])⟩

/-! ## Calls -/

/-- What the interface works with. -/
structure Settings where
  viewer : ViewerSettings
  broker : BrokerCheck

/-- An answer, with the viewer after it and what the viewer did. -/
abbrev Outcome := Viewer × List ViewerEffect × Answer

/-- The walkthrough and the hand that its streams show. -/
def demoAnswer (v : Viewer) : Answer :=
  okay [("demo", v.walkthrough.progress.toJson), ("state", v.demo.state.toJson)]

def statusAnswer (v : Viewer) : Answer :=
  okay [("connection_status", .str v.live.status.name)]

/-- The answer after the reaction to some inputs. -/
def after (s : Settings) (inputs : List ViewerInput) (answer : Viewer → Answer) (v : Viewer) :
    Outcome :=
  let (v, effects) := v.run s.viewer inputs
  (v, effects, answer v)

/-- Connects the live session. -/
def connect (s : Settings) (v : Viewer) : Outcome :=
  match Session.startFault? s.viewer.live v.live with
  | some message => (v, [], .detail 409 message)
  | none => after s [.live .start] statusAnswer v

/-- Opens the stream of a phase. -/
def openPhase (s : Settings) (k : PhaseStream) (now : Int) (v : Viewer) : Outcome :=
  let answer := match v.walkthrough.grant k with
    | .error message => fun _ => .detail 409 message
    | .ok _ => demoAnswer
  after s [.walkthrough (.begin k now)] answer v

/-- The announcement of the hand of a new demo. Its ids may be such as no hand has. -/
def announce (s : Settings) (info : DemoInfo) (v : Viewer) : Outcome :=
  match info.toHandCreated with
  | .bad _ => (v, [], .failure)
  | .good hand =>
    after s [.demo (.beginHand (.handCreated hand) (some info.viewerKey))] demoAnswer v

/-- Makes a new demo in place of the old one, given the reply of the ledger. Its streams carry
envelopes only, so the hand is announced at once. -/
def createDemo (s : Settings) (reply : Reply) (v : Viewer) : Outcome :=
  let (v, effects) := v.run s.viewer
    [.walkthrough .reset, .demo .reset, .walkthrough .start,
      .walkthrough (.answered (DemoInfo.ofReply reply))]
  match v.walkthrough.progress.error, v.walkthrough.info with
  | some message, _ => (v, effects, .detail 502 message)
  | none, none => (v, effects, .failure)
  | none, some info =>
    let (v, more, answer) := announce s info v
    (v, effects ++ more, answer)

/-- The answer to a call, at the time `now` of the clock. The reply of the ledger is used if the
call asks for one. -/
def respond (s : Settings) (now : Int) (reply : Reply) (v : Viewer) : Route → Outcome
  | .health => (v, [], okay [("status", .lit "ok")])
  | .readiness => (v, [], readiness (some v.live) s.broker)
  | .session =>
    (v, [], okay [("connection_status", .str v.live.status.name), ("state", v.live.state.toJson)])
  | .sessionDebug => (v, [], okay v.live.debugMembers)
  | .connectSession => connect s v
  | .resetSession => after s [.live .reset] statusAnswer v
  | .demo => (v, [], demoAnswer v)
  | .createDemo => createDemo s reply v
  | .shuffleDemo => openPhase s .shuffle now v
  | .dealDemo => openPhase s .deal now v
  | .resetDemo => after s [.walkthrough .reset, .demo .reset] demoAnswer v

/-- The answer to a call before the services are set up. -/
def unavailable (broker : BrokerCheck) : Route → Answer
  | .health => okay [("status", .lit "ok")]
  | .readiness => readiness none broker
  | .session | .sessionDebug | .connectSession | .resetSession =>
    .detail 503 (text "Live session not initialized")
  | .demo | .createDemo | .shuffleDemo | .dealDemo | .resetDemo =>
    .detail 503 (text "Interactive demo not initialized")

/-! ## Requests -/

/-- The answer to a request that finds no call. -/
def refusal : Route.Found → Answer
  | .otherMethod => .detail 405 (Status.phrase 405)
  | .trailingSlash => ⟨307, .text []⟩
  | _ => .detail 404 (Status.phrase 404)

/-- The answer to a request; `configured` is false before the services are set up. -/
def answer (s : Settings) (configured : Bool) (now : Int) (reply : Reply)
    (method target : Text) (v : Viewer) : Outcome :=
  let method := Text.asciiUpper method
  let (v, effects, a) := match Route.find method (Route.pathOf target) with
    | .route r => if configured then respond s now reply v r else (v, [], unavailable s.broker r)
    | found => (v, [], refusal found)
  (v, effects, a.forMethod method)

end MentalPoker.Api
