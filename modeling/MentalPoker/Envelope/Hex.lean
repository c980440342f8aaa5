import MentalPoker.Schema

/-!
# Hexadecimal texts

Keys, signatures, proofs and shares travel as hexadecimal digits. A `0x` or a `\x` may stand in
front of them; the database that the ledger writes to uses the second form, and bare digits occur
as well. Apart from that these values are opaque here.

## Contents

* `Hex`: the texts that fields with such values may have.
* `Hex.normalize`: every text brought to the form with `0x`.
-/

namespace MentalPoker

namespace Hex

/-- The text without one `0x` or `\x` in front. -/
def body : Text → Text
  | 0x30 :: 0x78 :: rest => rest
  | 0x5C :: 0x78 :: rest => rest
  | t => t

/-- One digit or more, with or without one of the two marks in front. -/
def isHex (t : Text) : Bool := !(body t).isEmpty && (body t).all Text.isHexDigit

/-- The pattern of such texts. -/
def pattern : Text := text "^(?:0x|\\\\x)?[0-9a-fA-F]+$"

/-- The form with `0x`: a `\x` is replaced, a `0x` stays, and bare text gets one. -/
def normalize : Text → Text
  | 0x5C :: 0x78 :: rest => 0x30 :: 0x78 :: rest
  | 0x30 :: 0x78 :: rest => 0x30 :: 0x78 :: rest
  | t => 0x30 :: 0x78 :: t

end Hex

/-- A hexadecimal text. -/
structure Hex where
  text : Text
  valid : Hex.isHex text = true
  deriving DecidableEq

namespace Hex

open Schema

def toJson (h : Hex) : Json := .str h.text

/-- A text of hexadecimal digits. -/
def check (v : Json) : Checked Hex :=
  (Check.unicodeString v).andThen fun t =>
    if h : isHex t.1 = true then .good ⟨t.1, h⟩ else .fail (.stringPattern pattern) v

end Hex

end MentalPoker
