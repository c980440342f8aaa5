import MentalPoker.Number.Binary64
import MentalPoker.Text.Blank
import MentalPoker.Text.Digit

/-!
# Numerals in settings

How a setting's text is read as a number. Blanks at both ends are dropped, digits of any script
count by their value, and a single underscore may stand between two digits.
-/

namespace MentalPoker.Numeral

/-- Most digits that an integer numeral may have. -/
def maxDigits : Nat := 4300

/-- Blanks become ASCII blanks and digits ASCII digits; ASCII stays as it is. -/
def toAscii (t : Text) : Text :=
  t.map fun c =>
    if c < 0x7F then c
    else if Text.isBlank c then 0x20
    else match Text.digitValue? c with
      | some d => 0x30 + d
      | none => c

/-- Digits with single underscores between them, read after a digit: the digits without the
underscores, and what follows them. -/
def digitRun : Text → Text × Text
  | [] => ([], [])
  | c :: cs =>
    if Text.isDigit c then
      let (ds, rest) := digitRun cs
      (c :: ds, rest)
    else if c = 0x5F then
      match cs with
      | d :: more =>
        if Text.isDigit d then
          let (ds, rest) := digitRun more
          (d :: ds, rest)
        else ([], c :: cs)
      | [] => ([], [c])
    else ([], c :: cs)

/-- A run that starts with a digit. -/
def digits (t : Text) : Text × Text :=
  match t with
  | c :: _ => if Text.isDigit c then digitRun t else ([], t)
  | [] => ([], [])

/-- The value of ASCII digits. -/
def value (ds : Text) : Nat := ds.foldl (fun n c => 10 * n + (c - 0x30)) 0

/-- An optional sign, true for minus, and what follows it. -/
def sign : Text → Bool × Text
  | 0x2D :: rest => (true, rest)
  | 0x2B :: rest => (false, rest)
  | t => (false, t)

/-- The integer that the text is a numeral of. -/
def readInt? (t : Text) : Option Int :=
  let (negative, body) := sign (Text.trimBlanks (toAscii t))
  match digits body with
  | (ds, []) =>
    if ds.isEmpty || maxDigits < ds.length then none
    else some (Binary64.signed negative (value ds))
  | _ => none

/-- The exponent part of a decimal: `e`, an optional sign and digits. Absent, it is zero. -/
def exponent? : Text → Option Int
  | [] => some 0
  | c :: rest =>
    if c = 0x65 ∨ c = 0x45 then
      let (negative, body) := sign rest
      match digits body with
      | (ds, []) => if ds.isEmpty then none else some (Binary64.signed negative (value ds))
      | _ => none
    else none

/-- The decimal without a sign: digits, a point and digits, and an exponent. -/
def readDecimal? (negative : Bool) (t : Text) : Option Binary64 :=
  let (whole, rest) := digits t
  let (fraction, rest) := match rest with
    | 0x2E :: more => digits more
    | _ => ([], rest)
  if whole.isEmpty && fraction.isEmpty then none
  else (exponent? rest).map fun e =>
    Binary64.ofDecimal negative (value (whole ++ fraction)) (e - fraction.length)

/-- The number that the text is a numeral of: a decimal, an infinity or `nan`. -/
def readFloat? (t : Text) : Option Binary64 :=
  let (negative, body) := sign (Text.trimBlanks (toAscii t))
  let word := Text.asciiLower body
  if word = text "inf" ∨ word = text "infinity" then some (.infinite negative)
  else if word = text "nan" then some .nan
  else readDecimal? negative body

end MentalPoker.Numeral
