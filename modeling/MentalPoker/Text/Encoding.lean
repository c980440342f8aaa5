import MentalPoker.Text

/-!
# Bytes as text

The Unicode encodings in which JSON may arrive. Each decoder goes through the bytes once and stops
at the first bytes that it cannot read, naming them and the reason. Surrogates that are encoded
on their own are read as code points where the caller allows it.

## Contents

* `Utf8.step`: one character, or what is wrong, at the head of some bytes.
* `Utf8.decode`, `Utf16.decode`, `Utf32.decode`: whole byte strings.
* `Utf8.replace`: a chunk of a stream, unreadable bytes replaced by U+FFFD.
* `Encoding.detect`: the encoding that the first bytes of a JSON document show.
-/

namespace MentalPoker

abbrev Bytes := List UInt8

/-- The first bytes of a document that its encoding cannot read: the half-open range of their
positions, the value of the first, and the reason. -/
structure EncodingFault where
  encoding : Text
  start : Nat
  stop : Nat
  first : Nat
  reason : Text
  deriving DecidableEq, Repr

namespace EncodingFault

/-- One bad byte is shown, several are given by their positions. -/
def message (f : EncodingFault) : Text :=
  let head := text "'" ++ f.encoding ++ text "' codec can't decode "
  let place :=
    if f.stop = f.start + 1 then
      text "byte 0x" ++ Text.hexPadded 2 f.first ++ text " in position " ++ Text.ofNat f.start
    else
      text "bytes in position " ++ Text.ofNat f.start ++ text "-" ++ Text.ofNat (f.stop - 1)
  head ++ place ++ text ": " ++ f.reason

end EncodingFault

/-! ## UTF-8 -/

namespace Utf8

/-- What stands at the head of some bytes. -/
inductive Head where
  /-- A code point, and the count of its bytes. -/
  | point (code : Nat) (size : Nat)
  /-- No character starts with this byte. -/
  | badStart
  /-- A character starts, and after `size` bytes comes one that cannot continue it. -/
  | badContinuation (size : Nat)
  /-- The bytes end inside a character. -/
  | cut
  deriving DecidableEq, Repr

def isContinuation (b : UInt8) : Bool := 0x80 ≤ b && b < 0xC0

/-- The six bits that a continuation byte carries. -/
def bits (b : UInt8) : Nat := b.toNat % 0x40

/-- The second byte of a character is in the range that its first byte leaves open. -/
def secondFits (first second : UInt8) : Bool :=
  isContinuation second
    && (if first == 0xE0 then 0xA0 ≤ second
        else if first == 0xED then second < 0xA0
        else if first == 0xF0 then 0x90 ≤ second
        else if first == 0xF4 then second < 0x90
        else true)

/-- Reads the head of `b :: rest`. -/
def step (b : UInt8) (rest : Bytes) : Head :=
  if b < 0x80 then .point b.toNat 1
  else if b < 0xC2 then .badStart
  else if b < 0xE0 then
    match rest with
    | [] => .cut
    | c :: _ =>
      if isContinuation c then .point ((b.toNat - 0xC0) * 0x40 + bits c) 2
      else .badContinuation 1
  else if b < 0xF0 then
    match rest with
    | [] => .cut
    | c :: more =>
      if secondFits b c then
        match more with
        | [] => .cut
        | d :: _ =>
          if isContinuation d then
            .point ((b.toNat - 0xE0) * 0x1000 + bits c * 0x40 + bits d) 3
          else .badContinuation 2
      else .badContinuation 1
  else if b < 0xF5 then
    match rest with
    | [] => .cut
    | c :: more =>
      if secondFits b c then
        match more with
        | [] => .cut
        | d :: last =>
          if isContinuation d then
            match last with
            | [] => .cut
            | e :: _ =>
              if isContinuation e then
                .point ((b.toNat - 0xF0) * 0x40000 + bits c * 0x1000 + bits d * 0x40 + bits e) 4
              else .badContinuation 3
          else .badContinuation 2
      else .badContinuation 1
  else .badStart

/-- The surrogate that three bytes encode on its own. -/
def surrogate? (b : UInt8) (rest : Bytes) : Option Nat :=
  match rest with
  | c :: d :: _ =>
    if b == 0xED && 0xA0 ≤ c && c < 0xC0 && isContinuation d then
      some (0xD000 + bits c * 0x40 + bits d)
    else none
  | _ => none

/-- Goes through the bytes from position `at_`; `fuel` bounds the count of characters. -/
def decodeFrom (surrogates : Bool) : (fuel at_ : Nat) → Bytes → Except EncodingFault Text
  | _, _, [] => .ok []
  | 0, _, _ :: _ => .ok []
  | fuel + 1, at_, b :: rest =>
    match (if surrogates then surrogate? b rest else none) with
    | some code => (decodeFrom surrogates fuel (at_ + 3) (rest.drop 2)).map (code :: ·)
    | none =>
      match step b rest with
      | .point code size =>
        (decodeFrom surrogates fuel (at_ + size) (rest.drop (size - 1))).map (code :: ·)
      | .badStart =>
        .error ⟨text "utf-8", at_, at_ + 1, b.toNat, text "invalid start byte"⟩
      | .badContinuation size =>
        .error ⟨text "utf-8", at_, at_ + size, b.toNat, text "invalid continuation byte"⟩
      | .cut =>
        .error ⟨text "utf-8", at_, at_ + 1 + rest.length, b.toNat,
          text "unexpected end of data"⟩

/-- The text of a byte string, or its first unreadable bytes. -/
def decode (surrogates : Bool) (bytes : Bytes) : Except EncodingFault Text :=
  decodeFrom surrogates bytes.length 0 bytes

/-- The character that stands for unreadable bytes. -/
def replacement : Nat := 0xFFFD

/-- The bytes end within a surrogate that is encoded on its own. -/
def startsSurrogate (b : UInt8) : Bytes → Bool
  | [c] => b == 0xED && 0xA0 ≤ c && isContinuation c
  | _ => false

def replaceFrom (final : Bool) : (fuel : Nat) → Bytes → Text × Bytes
  | _, [] => ([], [])
  | 0, bytes => ([], bytes)
  | fuel + 1, b :: rest =>
    let go (code size : Nat) :=
      let (more, left) := replaceFrom final fuel (rest.drop (size - 1))
      (code :: more, left)
    match step b rest with
    | .point code size => go code size
    | .badStart => go replacement 1
    | .badContinuation size =>
      if !final && startsSurrogate b rest then ([], b :: rest) else go replacement size
    | .cut => if final then ([replacement], []) else ([], b :: rest)

/-- The text of a chunk with unreadable bytes replaced, and the bytes of a character that the
chunk leaves open; the last chunk leaves none. -/
def replace (final : Bool) (bytes : Bytes) : Text × Bytes :=
  replaceFrom final bytes.length bytes

/-- The bytes of a code point; lone surrogates are encoded like other characters. -/
def encodePoint (c : Nat) : Bytes :=
  if c < 0x80 then [c.toUInt8]
  else if c < 0x800 then [(0xC0 + c / 0x40).toUInt8, (0x80 + c % 0x40).toUInt8]
  else if c < 0x10000 then
    [(0xE0 + c / 0x1000).toUInt8, (0x80 + c / 0x40 % 0x40).toUInt8, (0x80 + c % 0x40).toUInt8]
  else
    [(0xF0 + c / 0x40000).toUInt8, (0x80 + c / 0x1000 % 0x40).toUInt8,
      (0x80 + c / 0x40 % 0x40).toUInt8, (0x80 + c % 0x40).toUInt8]

def encode (t : Text) : Bytes := t.flatMap encodePoint

end Utf8

/-! ## UTF-16 and UTF-32 -/

/-- Which byte of a unit comes first. -/
inductive ByteOrder where
  | little
  | big
  deriving DecidableEq, Repr

namespace ByteOrder

/-- The value of the bytes of one unit. -/
def unit (order : ByteOrder) (bytes : Bytes) : Nat :=
  let bytes := match order with
    | .little => bytes.reverse
    | .big => bytes
  bytes.foldl (fun n b => n * 0x100 + b.toNat) 0

def name : ByteOrder → Text
  | .little => text "le"
  | .big => text "be"

end ByteOrder

namespace Utf16

/-- Surrogates that pair up make one character; others stay as they are. -/
def decodeFrom (order : ByteOrder) : (fuel at_ : Nat) → Bytes → Except EncodingFault Text
  | _, _, [] => .ok []
  | 0, _, _ => .ok []
  | _, at_, [b] =>
    .error ⟨text "utf-16-" ++ order.name, at_, at_ + 1, b.toNat, text "truncated data"⟩
  | fuel + 1, at_, a :: b :: rest =>
    let high := order.unit [a, b]
    match rest with
    | c :: d :: more =>
      let low := order.unit [c, d]
      if Text.isHighSurrogate high && Text.isLowSurrogate low then
        (decodeFrom order fuel (at_ + 4) more).map (Text.joinSurrogates high low :: ·)
      else (decodeFrom order fuel (at_ + 2) rest).map (high :: ·)
    | _ => (decodeFrom order fuel (at_ + 2) rest).map (high :: ·)

def decode (order : ByteOrder) (bytes : Bytes) : Except EncodingFault Text :=
  decodeFrom order bytes.length 0 bytes

end Utf16

namespace Utf32

def decodeFrom (order : ByteOrder) : (fuel at_ : Nat) → Bytes → Except EncodingFault Text
  | _, _, [] => .ok []
  | 0, _, _ => .ok []
  | fuel + 1, at_, a :: b :: c :: d :: rest =>
    let code := order.unit [a, b, c, d]
    if code < 0x110000 then (decodeFrom order fuel (at_ + 4) rest).map (code :: ·)
    else .error ⟨text "utf-32-" ++ order.name, at_, at_ + 4, a.toNat,
      text "code point not in range(0x110000)"⟩
  | _, at_, b :: rest =>
    .error ⟨text "utf-32-" ++ order.name, at_, at_ + 1 + rest.length, b.toNat,
      text "truncated data"⟩

def decode (order : ByteOrder) (bytes : Bytes) : Except EncodingFault Text :=
  decodeFrom order bytes.length 0 bytes

end Utf32

/-! ## Detection -/

/-- An encoding, and how many bytes of a mark stand before the text. A mark of UTF-16 or UTF-32
counts in the positions of faults, a mark of UTF-8 does not. -/
inductive Encoding where
  | utf8 (mark : Nat)
  | utf16 (order : ByteOrder) (mark : Nat)
  | utf32 (order : ByteOrder) (mark : Nat)
  deriving DecidableEq, Repr

namespace Encoding

/-- A JSON document starts with two ASCII characters, so a byte order mark or the places of zero
bytes among the first four show its encoding. -/
def detect : Bytes → Encoding
  | 0x00 :: 0x00 :: 0xFE :: 0xFF :: _ => .utf32 .big 4
  | 0xFF :: 0xFE :: 0x00 :: 0x00 :: _ => .utf32 .little 4
  | 0xFE :: 0xFF :: _ => .utf16 .big 2
  | 0xFF :: 0xFE :: _ => .utf16 .little 2
  | 0xEF :: 0xBB :: 0xBF :: _ => .utf8 3
  | a :: b :: c :: d :: _ =>
    if a = 0 then if b = 0 then .utf32 .big 0 else .utf16 .big 0
    else if b = 0 then
      if c = 0 ∧ d = 0 then .utf32 .little 0 else .utf16 .little 0
    else .utf8 0
  | [a, b] => if a = 0 then .utf16 .big 0 else if b = 0 then .utf16 .little 0 else .utf8 0
  | _ => .utf8 0

/-- The text in an encoding; surrogates that stand alone are kept. -/
def decode (encoding : Encoding) (bytes : Bytes) : Except EncodingFault Text :=
  match encoding with
  | .utf8 mark => Utf8.decode true (bytes.drop mark)
  | .utf16 order mark => Utf16.decodeFrom order bytes.length mark (bytes.drop mark)
  | .utf32 order mark => Utf32.decodeFrom order bytes.length mark (bytes.drop mark)

end Encoding

end MentalPoker
