import MentalPoker.Text.Encoding

/-!
# Code pages

Encodings of one byte for each character. A page gives the characters in rows of sixteen; the bytes
in front of the first row stand for the characters of the same number.

## Contents

* `CodePage`, with `CodePage.point`: the character of a byte.
* `CodePage.latin1`, `CodePage.ascii`: the pages without rows of their own.
-/

namespace MentalPoker

/-- A code page. -/
structure CodePage where
  /-- The first byte of the first row. -/
  start : Nat
  rows : List String
  deriving DecidableEq, Repr

namespace CodePage

/-- The code point at a place of a row. -/
def inRow (row : String) (place : Nat) : Nat := (text row)[place]?.getD Utf8.replacement

/-- The code point of a byte, which is the one for unreadable bytes where the page has none. -/
def point (p : CodePage) (b : UInt8) : Nat :=
  let n := b.toNat
  if n < p.start then n
  else
    match p.rows[(n - p.start) / 16]? with
    | some row => inRow row (n % 16)
    | none => Utf8.replacement

/-- The bytes are the first 256 code points. -/
def latin1 : CodePage := ⟨0x100, []⟩

/-- The bytes are the first 128 code points. -/
def ascii : CodePage := ⟨0x80, []⟩

end CodePage

end MentalPoker
