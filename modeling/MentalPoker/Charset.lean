import MentalPoker.Charset.Escaped
import MentalPoker.Charset.MultiByte
import MentalPoker.Charset.Punycode
import MentalPoker.Charset.Shifting
import MentalPoker.Charset.Unicode

/-!
# Charsets

The charsets in which a stream of text may come. The bytes arrive in chunks that may cut characters
anywhere: a chunk is read as far as it can be told what its bytes are, what cannot be read is
replaced, and what is left goes in front of the next chunk. A charset with marks and shifts is
itself the state of the reader: what follows is read in the charset that the last chunk has left.

## Contents

* `Charset`, with `Charset.decode`: the text of a chunk.
* `Charset.start`: a charset at the beginning of a stream.
-/

namespace MentalPoker

/-- A way to read bytes as text. -/
inductive Charset where
  | utf8
  /-- The mark of UTF-8 may stand at the beginning. -/
  | markedUtf8
  | utf7
  /-- A mark at the beginning tells the order, if it is not given. -/
  | utf16 (order : Option ByteOrder)
  | utf32 (order : Option ByteOrder)
  | page (p : CodePage)
  | multiByte (e : MultiByte)
  | tilde (shifted : Bool)
  | escape (v : EscapeVariant) (s : EscapeState)
  /-- Escapes stand for characters; in the plain form there are few of them. -/
  | escaped (plain : Bool)
  | punycode
  /-- Nothing can be read in it. -/
  | unreadable (fault : CharsetFault)
  /-- A stream in it cannot even be begun. -/
  | refused (fault : CharsetFault)
  deriving DecidableEq, Repr

namespace Charset

/-- A chunk that is read: its text, the bytes that it leaves open, and the charset in which to go
on. -/
structure Chunk where
  text : Text
  left : Bytes
  next : Charset
  deriving DecidableEq, Repr

/-- A decoder without a state of its own. -/
def decodeHeads (head : UInt8 → Bytes → ByteHead) (next : Charset) (final : Bool) (bytes : Bytes) :
    Except CharsetFault Chunk :=
  (ByteHead.readAll (fun _ b rest => (head b rest, ())) final bytes.length () bytes).map fun r =>
    ⟨r.1, r.2.1, next⟩

/-- What waits for more bytes may not be longer. -/
def openLimit : Nat := 8

/-- A decoder that waits for the rest of a character, but not forever. -/
def decodeShort (step : σ → UInt8 → Bytes → ByteHead × σ) (state : σ) (next : σ → Charset)
    (final : Bool) (bytes : Bytes) : Except CharsetFault Chunk := do
  let (text, left, state) ← ByteHead.readAll step final bytes.length state bytes
  if openLimit < left.length then throw .openTooLong
  return ⟨text, left, next state⟩

/-- The first unit tells the order of bytes, if it is the mark; without the mark nothing but an
unfinished beginning can be read. -/
def decodeMarked (unit : Nat) (head : ByteOrder → UInt8 → Bytes → ByteHead)
    (this : Charset) (ordered : ByteOrder → Charset) (final : Bool) (bytes : Bytes) :
    Except CharsetFault Chunk :=
  let isMarked (order : ByteOrder) := order.unit (bytes.take unit) = 0xFEFF
  if unit ≤ bytes.length ∧ isMarked .little then
    decodeHeads (head .little) (ordered .little) final (bytes.drop unit)
  else if unit ≤ bytes.length ∧ isMarked .big then
    decodeHeads (head .big) (ordered .big) final (bytes.drop unit)
  else do
    let chunk ← decodeHeads (head .little) this final bytes
    if unit ≤ bytes.length - chunk.left.length then throw (.unmarked (8 * unit))
    return chunk

/-- The bytes of the mark of UTF-8. -/
def utf8Mark : Bytes := [0xEF, 0xBB, 0xBF]

def decodeUtf8 (final : Bool) (bytes : Bytes) : Except CharsetFault Chunk :=
  let (text, left) := Utf8.replace final bytes
  .ok ⟨text, left, utf8⟩

/-- The text of a chunk; the last one leaves nothing open. -/
def decode (c : Charset) (final : Bool) (bytes : Bytes) : Except CharsetFault Chunk :=
  match c with
  | utf8 => decodeUtf8 final bytes
  | markedUtf8 =>
    if bytes.length < 3 && bytes.isPrefixOf utf8Mark then .ok ⟨[], bytes, markedUtf8⟩
    else if utf8Mark.isPrefixOf bytes then decodeUtf8 final (bytes.drop 3)
    else decodeUtf8 final bytes
  | utf7 => decodeHeads (Utf7.head final) utf7 final bytes
  | utf16 (some order) => decodeHeads (Utf16.head order) c final bytes
  | utf16 none => decodeMarked 2 Utf16.head c (fun order => utf16 (some order)) final bytes
  | utf32 (some order) => decodeHeads (Utf32.head order) c final bytes
  | utf32 none => decodeMarked 4 Utf32.head c (fun order => utf32 (some order)) final bytes
  | page p => .ok ⟨bytes.map p.point, [], c⟩
  | multiByte e => decodeShort (fun _ b rest => (e.head b rest, ())) () (fun _ => c) final bytes
  | tilde shifted => decodeShort Tilde.step shifted tilde final bytes
  | escape v s => decodeShort (Escape.step v) s (escape v) final bytes
  | escaped plain =>
    decodeHeads (if plain then Escaped.plainHead final else Escaped.head) c final bytes
  | punycode => (Punycode.decode bytes).map fun t => ⟨t, [], c⟩
  | unreadable fault | refused fault => .error fault

/-- The charset at the beginning of a stream. -/
def start : Charset → Except CharsetFault Charset
  | refused fault => .error fault
  | c => .ok c

end Charset

end MentalPoker
