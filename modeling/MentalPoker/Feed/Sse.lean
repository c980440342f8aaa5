import MentalPoker.Feed.ContentType
import MentalPoker.Feed.Frame
import MentalPoker.Feed.Transport
import MentalPoker.Http
import MentalPoker.Json.Literal

/-!
# The stream transport

A transport over a stream of server-sent events. Frames whose name is no kind of event are passed
over, and frames that do not decode are dropped. The feed is over with the terminal event, or, for
streams that end that way, when the server closes cleanly. Any other end of a connection is a loss,
after which the transport connects again if it may.

## Contents

* `Sse.Answer`: what the server does with one request.
* `Sse.read`: reading one answer.
* `Sse.run`: the whole life of the transport.
-/

namespace MentalPoker.Sse

variable [Json.Room]

/-- What a stream transport is set up with. -/
structure Settings where
  url : Text
  /-- It connects again after a loss. -/
  reconnect : Bool
  /-- A clean close is the end of the feed. -/
  completeOnClose : Bool

/-- Why a connection ends. -/
inductive Loss where
  | dropped (reason : Text)
  /-- The connection itself fails. -/
  | broken (failure : Failure)

def Loss.ending : Loss → ReadEnd
  | dropped reason => .dropped reason
  | broken failure => .broken failure

/-- What the server does with one request. -/
inductive Answer where
  /-- There is no answer. -/
  | refused (loss : Loss)
  /-- A stream comes in chunks, and is cut or closed cleanly. -/
  | stream (status : Nat) (contentType : Text) (chunks : List Bytes) (cut : Option Loss)

/-! ## Answers that are no streams -/

/-- The word for a class of status codes. -/
def statusClass (code : Nat) : Text :=
  match code / 100 with
  | 1 => text "Informational response"
  | 3 => text "Redirect response"
  | 4 => text "Client error"
  | 5 => text "Server error"
  | _ => text "Invalid status code"

/-- Why a status is not accepted. -/
def statusReason (url : Text) (code : Nat) : Text :=
  statusClass code ++ text " '" ++ Text.ofNat code ++ text " " ++ Status.phrase code
    ++ text "' for url '" ++ url ++ text "'\nFor more information check: "
    ++ text "https://developer.mozilla.org/en-US/docs/Web/HTTP/Status/" ++ Text.ofNat code

def mediaType : Text := text "text/event-stream"

/-- Why a content type is not accepted. -/
def typeReason (found : Text) : Text :=
  text "Expected response header Content-Type to contain 'text/event-stream', got "
    ++ Json.quoted found

def closedReason : Text := text "stream closed by server"

/-- The media type in front of the parameters. -/
def typeOf (contentType : Text) : Text := (Text.splitFirst 0x3B contentType).1

/-! ## Reading -/

/-- What a frame leads to. -/
def readFrame (f : Frame) : Reading :=
  match FeedEvent.Kind.ofName? f.event with
  | none => .nothing
  | some _ => .ofDecoded ((FeedEvent.decode (some f.event) (.text f.data)).map .event)

/-- What some frames lead to, up to the end of the feed. -/
def readFrames : List Frame → Reading
  | [] => .nothing
  | f :: rest => (readFrame f).andThen fun _ => readFrames rest

/-- What the chunks of a stream lead to. -/
def readChunks (s : Settings) (cut : Option Loss) (d : FrameDecoder) : List Bytes → Reading
  | [] =>
    match cut with
    | some loss => ⟨[.wait], loss.ending⟩
    | none =>
      let r := (⟨[.wait], .goesOn⟩ : Reading).andThen fun _ =>
        match d.flush with
        | .error fault => ⟨[], .broken (.charset fault)⟩
        | .ok frames => readFrames frames
      r.andThen fun _ =>
        ⟨[], if s.completeOnClose then .completed else .dropped closedReason⟩
  | chunk :: rest =>
    match d.feed chunk with
    | .error fault => ⟨[.wait], .broken (.charset fault)⟩
    | .ok (d, frames) =>
      ((⟨[.wait], .goesOn⟩ : Reading).andThen fun _ => readFrames frames).andThen fun _ =>
        readChunks s cut d rest

/-- What an answer leads to. A stream counts as open before its content type is looked at. -/
def read (s : Settings) : Answer → Reading
  | .refused loss => ⟨[.connect], loss.ending⟩
  | .stream status contentType chunks cut =>
    if let some fault := ContentType.fault? contentType then
      ⟨[.connect], .broken (.charset fault)⟩
    else if Status.isSuccess status then
      let found := typeOf contentType
      if Text.hasInfix mediaType found then
        (⟨[.connect, .opened], .goesOn⟩ : Reading).andThen fun _ =>
          match ContentType.charset contentType with
          | .error fault => ⟨[], .broken (.charset fault)⟩
          | .ok charset => readChunks s cut (.start charset) chunks
      else ⟨[.connect, .opened], .dropped (typeReason found)⟩
    else ⟨[.connect], .dropped (statusReason s.url status)⟩

/-- The schedule after a connection: one that opened sets it back. -/
def scheduleAfter (b : Backoff) (steps : List TransportStep) : Backoff :=
  if steps.any fun step => match step with | .opened => true | _ => false then b.reset else b

/-- The life of the transport while the server answers as listed. -/
def run (s : Settings) (b : Backoff) : List Answer → TransportRun
  | [] => ⟨[], .waiting⟩
  | a :: rest =>
    let r := read s a
    let b := scheduleAfter b r.steps
    match r.ending with
    | .completed => ⟨r.steps ++ [.complete], .finished⟩
    | .broken failure => ⟨r.steps, .broken failure⟩
    | .goesOn => ⟨r.steps, .waiting⟩
    | .dropped reason =>
      if !s.reconnect then
        ⟨r.steps ++ [.error (text "Connection lost: " ++ reason) none], .finished⟩
      else if Backoff.isEndless b.delay then ⟨r.steps, .broken .endlessDelay⟩
      else
        .after (r.steps ++ [.error (Backoff.message b.delay) (some b.delay), .sleep b.delay])
          (run s b.next rest)

end MentalPoker.Sse
