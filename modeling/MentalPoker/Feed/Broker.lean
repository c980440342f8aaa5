import MentalPoker.Envelope.Row
import MentalPoker.Feed.Transport

/-!
# The broker transport

A transport over the channels of a message broker, one channel for each hand. A message is an event
of the feed, or a row of the ledger's table, which may be wrapped under the key `new`. Messages
that do not decode are dropped. Whatever goes wrong with a subscription, the transport subscribes
again after a delay; it gives every subscription back before it takes the next.

## Contents

* `Broker.decode`: a message of the channel.
* `Broker.Subscription`: what the broker does with one subscription.
* `Broker.run`: the whole life of the transport.
-/

namespace MentalPoker.Broker

variable [Json.Room]

/-- The channel of a hand, by the texts of its numbers. -/
def channelOf (game hand : Text) : Text :=
  text "ledger:events:" ++ text "game:" ++ game ++ text ":hand:" ++ hand

/-- The channel of a hand. -/
def channel (gameId handId : Int) : Text := channelOf (Text.ofInt gameId) (Text.ofInt handId)

/-! ## Messages -/

/-- The content of a message: bytes, a text, or something that is neither. -/
inductive Content where
  | bytes (b : Bytes)
  | text (t : Text)
  | other

/-- The JSON value of a message. Bytes have to be UTF-8. -/
def Content.read : Content → Decoded Json
  | .bytes b =>
    match Utf8.decode false b with
    | .ok t => (Json.ofText t).mapError .ofReader
    | .error fault => .error (.json (.encoding fault))
  | .text t => (Json.ofText t).mapError .ofReader
  | .other => .error (.notObject .null)

/-- The row that is wrapped in a value, or the value. -/
def unwrap (v : Json) : Json :=
  match v.member "new" with
  | .obj members => .obj members
  | _ => v

/-- The value is an event of the feed. -/
def isEvent (v : Json) : Bool :=
  match v.member "type" with
  | .str t => (FeedEvent.Kind.ofName? t).isSome
  | _ => false

/-- What a message brings. -/
def decode (c : Content) : Decoded Delivery :=
  match c.read with
  | .error fault => .error fault
  | .ok v =>
    let v := unwrap v
    if isEvent v then (FeedEvent.decode none (.ofJson v)).map .event
    else (Row.decode (.ofJson v)).map .row

/-! ## Subscriptions -/

/-- What a look for a message brings. -/
inductive Look where
  /-- Nothing, or a message about the subscription itself. -/
  | idle
  | message (content : Content)

/-- What the broker does with one subscription. -/
structure Subscription where
  /-- It is refused. -/
  refused : Bool
  looks : List Look
  /-- It breaks off after the last look. -/
  breaks : Bool
  /-- Giving it back fails in a way that stops the transport. -/
  stuck : Option Failure

/-- What a look leads to. A failure breaks the subscription off. -/
def readLook : Look → Reading
  | .idle => ⟨[.wait], .goesOn⟩
  | .message content =>
    let r := Reading.ofDecoded (decode content)
    ⟨.wait :: r.steps, match r.ending with
      | .broken _ => .dropped []
      | ending => ending⟩

/-- What the looks of a subscription lead to. -/
def readLooks (breaks : Bool) : List Look → Reading
  | [] => ⟨[.wait], if breaks then .dropped [] else .goesOn⟩
  | look :: rest => (readLook look).andThen fun _ => readLooks breaks rest

def read (s : Subscription) : Reading :=
  if s.refused then ⟨[.connect], .dropped []⟩
  else (⟨[.connect, .opened], .goesOn⟩ : Reading).andThen fun _ => readLooks s.breaks s.looks

/-- The schedule after a subscription: one that opened sets it back. -/
def scheduleAfter (b : Backoff) (s : Subscription) : Backoff := if s.refused then b else b.reset

/-- The end of a transport after it gave back a subscription. -/
def Subscription.endOr (s : Subscription) (ending : TransportEnd) : TransportEnd :=
  (s.stuck.map .broken).getD ending

/-- The life of the transport while the broker does as listed. A subscription is given back when
another follows, or when the transport ends. -/
def run (b : Backoff) : List Subscription → TransportRun
  | [] => ⟨[], .waiting⟩
  | s :: rest =>
    let r := read s
    let b := scheduleAfter b s
    match r.ending with
    | .completed => ⟨r.steps ++ [.complete, .released], s.endOr .finished⟩
    | .goesOn | .broken _ => ⟨r.steps, .waiting⟩
    | .dropped _ =>
      if Backoff.isEndless b.delay then
        ⟨r.steps ++ [.released], s.endOr (.broken .endlessDelay)⟩
      else
        let lost := r.steps ++ [.error (Backoff.message b.delay) (some b.delay), .sleep b.delay]
        if rest.isEmpty then ⟨lost, .waiting⟩
        else
          match s.stuck with
          | some failure => ⟨lost ++ [.released], .broken failure⟩
          | none => .after (lost ++ [.released]) (run b.next rest)

/-- The subscription that a transport took last. -/
def lastTaken? (subscriptions : List Subscription) (steps : List TransportStep) :
    Option Subscription :=
  subscriptions[steps.countP (fun step => step matches .connect) - 1]?

/-- A transport that is stopped gives its subscription back in any case. -/
def stopped (subscriptions : List Subscription) (r : TransportRun) : TransportRun :=
  match r.steps.getLast? with
  | some .released => r
  | _ =>
    ⟨r.steps ++ [.released],
      ((lastTaken? subscriptions r.steps).map fun s => s.endOr r.ending).getD r.ending⟩

end MentalPoker.Broker
