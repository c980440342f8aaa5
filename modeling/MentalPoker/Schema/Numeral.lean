import MentalPoker.Number.Numeral

/-!
# Numerals in fields

How a field's text is read as an integer. The text is brought to its plain form first: blanks at
both ends and a plus sign go, then the zeros in front with the underscores among them, then a
point with zeros behind it, then single underscores inside. What is left has to be a zero, or
digits that do not start with one, with or without a minus sign.

Zeros go before the minus sign is looked for, so `0-7` is a numeral of minus seven; after the
minus sign none may go, so `-07` is no numeral.

## Contents

* `FieldNumeral.plain?`: the plain form.
* `FieldNumeral.read`: the integer, or why there is none.
-/

namespace MentalPoker.FieldNumeral

/-- What a text is a numeral of. -/
inductive Reading where
  | integer (n : Int)
  /-- The digits are more than a numeral may have. -/
  | tooLong
  | malformed
  deriving DecidableEq, Repr

/-- `1` to `9`. -/
def isCounting (c : Nat) : Bool := 0x31 ≤ c && c ≤ 0x39

/-! ## The plain form -/

/-- Goes on behind a zero in front: to the first digit or minus sign that counts, or to a point,
which keeps the code point `last` before it. Of nothing but zeros the last code point stays. -/
def skipZeros (last : Nat) : Text → Option Text
  | [] => some [last]
  | c :: cs =>
    if c = 0x30 ∨ c = 0x5F then skipZeros c cs
    else if isCounting c ∨ c = 0x2D then some (c :: cs)
    else if c = 0x2E then some (last :: c :: cs)
    else none

/-- The text without the zeros in front. -/
def dropZeros : Text → Option Text
  | [] => none
  | c :: cs =>
    if c = 0x30 then skipZeros c cs
    else if isCounting c ∨ c = 0x2D then some (c :: cs)
    else none

/-- The text without the plus sign in front, which no minus sign may follow. -/
def dropPlus : Text → Option Text
  | 0x2B :: 0x2D :: _ => none
  | 0x2B :: rest => some rest
  | t => some t

/-- The text without a point and zeros at its end. -/
def dropFraction (t : Text) : Text :=
  match Text.splitFirst 0x2E t with
  | (whole, some zeros) => if !zeros.isEmpty && zeros.all (· == 0x30) then whole else t
  | _ => t

/-- The text without its underscores, if each of them stands alone inside it. -/
def dropUnderscores (t : Text) : Text :=
  if t.head? = some 0x5F ∨ t.getLast? = some 0x5F ∨ Text.hasInfix [0x5F, 0x5F] t then t
  else t.filter (· != 0x5F)

/-- The plain form of a text. -/
def plain? (t : Text) : Option Text :=
  (dropPlus (Text.trimBlanks t)).bind fun t =>
    (dropZeros t).map fun t => dropUnderscores (dropFraction t)

/-! ## Reading -/

/-- The digits of a plain numeral without its sign. -/
def readDigits (negative : Bool) (t : Text) : Reading :=
  match t with
  | [0x30] => .integer 0
  | c :: _ =>
    let ds := t.takeWhile Text.isDigit
    if !isCounting c then .malformed
    else if Numeral.maxDigits < ds.length then .tooLong
    else if ds.length = t.length then .integer (Binary64.signed negative (Numeral.value ds))
    else .malformed
  | [] => .malformed

/-- What a text is a numeral of. -/
def read (t : Text) : Reading :=
  match plain? t with
  | none => .malformed
  | some (0x2D :: rest) => readDigits true rest
  | some t => readDigits false t

end MentalPoker.FieldNumeral
