import MentalPoker.Charset

/-!
# Server-sent frames

The framing of a stream of server-sent events. The bytes of a stream arrive in chunks that may cut
characters and lines anywhere. Lines end with a line feed, a carriage return or both; an empty line
ends a frame, and the lines before it are its fields. What is not ended when the stream closes is
not a frame.

## Contents

* `LineBuffer.feed`: the lines that a chunk completes.
* `FrameBuffer.feed`: the frames that some lines complete.
* `FrameDecoder`: bytes to frames.
-/

namespace MentalPoker

/-- An event of a stream: its name and its data. -/
structure Frame where
  event : Text
  data : Text
  deriving DecidableEq, Repr

/-! ## Lines -/

/-- The begun line, and a carriage return of which it is not known yet whether a line feed
follows. -/
structure LineBuffer where
  begun : Text
  heldReturn : Bool
  deriving DecidableEq, Repr

namespace LineBuffer

def empty : LineBuffer := ⟨[], false⟩

/-- The lines that are complete, and the line that is begun, of a text that does not end with a
carriage return. -/
def split (begun : Text) : Text → List Text × Text
  | [] => ([], begun)
  | 0x0D :: 0x0A :: rest =>
    let (lines, last) := split [] rest
    (begun :: lines, last)
  | c :: rest =>
    if c = 0x0D ∨ c = 0x0A then
      let (lines, last) := split [] rest
      (begun :: lines, last)
    else split (begun ++ [c]) rest

/-- Takes a text: the lines that it completes. -/
def feed (b : LineBuffer) (t : Text) : LineBuffer × List Text :=
  if t.isEmpty then (b, [])
  else
    let t := if b.heldReturn then 0x0D :: t else t
    let held := t.getLast? = some 0x0D
    let (lines, begun) := split b.begun (if held then t.dropLast else t)
    (⟨begun, held⟩, lines)

/-- The last line when the stream closes. -/
def flush (b : LineBuffer) : List Text :=
  if b.begun.isEmpty && !b.heldReturn then [] else [b.begun]

end LineBuffer

/-! ## Frames -/

/-- The fields of the begun frame; the lines of its data stand in reverse order. -/
structure FrameBuffer where
  event : Text
  data : List Text
  deriving DecidableEq, Repr

namespace FrameBuffer

def empty : FrameBuffer := ⟨[], []⟩

/-- The name of a field and its value; a blank behind the colon does not count. -/
def field (line : Text) : Text × Text :=
  let (name, value) := Text.splitFirst 0x3A line
  match value with
  | none => (name, [])
  | some (0x20 :: value) => (name, value)
  | some value => (name, value)

/-- Takes a line: the frame that it ends, if it is empty. A line that starts with a colon is a
comment. -/
def feed (b : FrameBuffer) (line : Text) : FrameBuffer × Option Frame :=
  if line.isEmpty then (empty, some ⟨b.event, Text.join [0x0A] b.data.reverse⟩)
  else
    let (name, value) := field line
    if name = text "event" then ({ b with event := value }, none)
    else if name = text "data" then ({ b with data := value :: b.data }, none)
    else (b, none)

/-- Takes lines: the frames that they end. -/
def feedAll (b : FrameBuffer) : List Text → FrameBuffer × List Frame
  | [] => (b, [])
  | line :: rest =>
    let (b, frame) := feed b line
    let (b, frames) := feedAll b rest
    (b, frame.toList ++ frames)

end FrameBuffer

/-! ## Bytes -/

/-- What is left over from the chunks so far. -/
structure FrameDecoder where
  /-- The charset in which the stream goes on. -/
  charset : Charset
  bytes : Bytes
  lines : LineBuffer
  fields : FrameBuffer

namespace FrameDecoder

def start (charset : Charset) : FrameDecoder := ⟨charset, [], .empty, .empty⟩

/-- Takes a chunk: the frames that it ends. -/
def feed (d : FrameDecoder) (chunk : Bytes) : Except CharsetFault (FrameDecoder × List Frame) :=
  if chunk.isEmpty then .ok (d, [])
  else do
    let r ← d.charset.decode false (d.bytes ++ chunk)
    let (lines, complete) := d.lines.feed r.text
    let (fields, frames) := d.fields.feedAll complete
    return (⟨r.next, r.left, lines, fields⟩, frames)

/-- The frames that the clean close of the stream ends. -/
def flush (d : FrameDecoder) : Except CharsetFault (List Frame) := do
  let r ← d.charset.decode true d.bytes
  let (lines, complete) := d.lines.feed r.text
  return (d.fields.feedAll (complete ++ lines.flush)).2

end FrameDecoder

end MentalPoker
