import MentalPoker.Charset.ByteHead

/-!
# Unicode in chunks

The encodings of Unicode beside UTF-8, head by head. Surrogates that do not pair up cannot be read,
except in UTF-7, which writes Unicode with ASCII characters: a plus sign starts a run of letters and
digits that carry six bits each.

## Contents

* `Utf16.head`, `Utf32.head`: units of two and of four bytes.
* `Utf7.head`: a character, or a whole run.
-/

namespace MentalPoker

namespace Utf16

/-- What stands at the head of `b :: rest`. -/
def head (order : ByteOrder) (b : UInt8) (rest : Bytes) : ByteHead :=
  match rest with
  | [] => .cut
  | c :: more =>
    let first := order.unit [b, c]
    if Text.isHighSurrogate first then
      match more with
      | d :: e :: _ =>
        let second := order.unit [d, e]
        if Text.isLowSurrogate second then .points [Text.joinSurrogates first second] 4 else .bad 2
      | _ => .cut
    else if Text.isLowSurrogate first then .bad 2
    else .points [first] 2

end Utf16

namespace Utf32

/-- What stands at the head of `b :: rest`. -/
def head (order : ByteOrder) (b : UInt8) (rest : Bytes) : ByteHead :=
  match rest with
  | c :: d :: e :: _ =>
    let code := order.unit [b, c, d, e]
    if code < 0x110000 && !Text.isSurrogate code then .points [code] 4 else .bad 4
  | _ => .cut

end Utf32

namespace Utf7

/-- The six bits of a letter or digit. -/
def bits? (b : UInt8) : Option Nat :=
  let n := b.toNat
  if 0x41 ≤ n ∧ n ≤ 0x5A then some (n - 0x41)
  else if 0x61 ≤ n ∧ n ≤ 0x7A then some (n - 0x61 + 26)
  else if 0x30 ≤ n ∧ n ≤ 0x39 then some (n - 0x30 + 52)
  else if n = 0x2B then some 62
  else if n = 0x2F then some 63
  else none

/-- A run that goes on: its text so far, a high surrogate that waits for its partner, and the bits
that are no unit yet. -/
structure Run where
  points : Text
  high : Option Nat
  bitCount : Nat
  bits : Nat
  deriving DecidableEq, Repr

namespace Run

def start : Run := ⟨[], none, 0, 0⟩

/-- Takes a unit of 16 bits. -/
def unit (r : Run) (u : Nat) : Run :=
  match r.high with
  | some high =>
    if Text.isLowSurrogate u then
      { r with points := r.points ++ [Text.joinSurrogates high u], high := none }
    else plain { r with points := r.points ++ [high], high := none }
  | none => plain r
where
  plain (r : Run) : Run :=
    if Text.isHighSurrogate u then { r with high := some u }
    else { r with points := r.points ++ [u] }

/-- Takes six bits. -/
def add (r : Run) (six : Nat) : Run :=
  let bits := r.bits * 0x40 + six
  let bitCount := r.bitCount + 6
  if 16 ≤ bitCount then
    let left := bitCount - 16
    ({ r with bitCount := left, bits := bits % Nat.pow 2 left } : Run).unit (bits / Nat.pow 2 left)
  else { r with bitCount := bitCount, bits := bits }

/-- Bits that are left over and are no mere filling. -/
def hasLooseBits (r : Run) : Bool := 6 ≤ r.bitCount || r.bits ≠ 0

/-- The end of the run in front of a character that is not part of it: the text, and how many more
bytes it takes. A minus sign ends a run and stands for nothing; the character behind loose bits is
lost with them. -/
def close (r : Run) (b : UInt8) : Text × Nat :=
  if r.hasLooseBits then (r.points ++ [Utf8.replacement], 1)
  else (r.points ++ (if b < 0x80 then r.high.toList else []), if b = 0x2D then 1 else 0)

/-- The text of a run that the last bytes leave open. -/
def closeOpen (r : Run) : Text :=
  r.points ++ (if r.high.isSome || r.hasLooseBits then [Utf8.replacement] else [])

end Run

/-- What a run of which `size` bytes are read leads to. -/
def runHead (final : Bool) (size : Nat) (r : Run) : Bytes → ByteHead
  | [] => if final then .points r.closeOpen size else .cut
  | b :: rest =>
    match bits? b with
    | some six => runHead final (size + 1) (r.add six) rest
    | none =>
      let (ps, more) := r.close b
      .points ps (size + more)

/-- What stands at the head of `b :: rest`. -/
def head (final : Bool) (b : UInt8) (rest : Bytes) : ByteHead :=
  if b = 0x2B then
    match rest with
    | 0x2D :: _ => .points [0x2B] 2
    | c :: _ => if (bits? c).isSome then runHead final 1 .start rest else .bad 2
    | [] => runHead final 1 .start rest
  else if b < 0x80 then .points [b.toNat] 1
  else .bad 1

end Utf7

end MentalPoker
