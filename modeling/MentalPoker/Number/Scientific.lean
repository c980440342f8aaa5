import MentalPoker.Number.Shortest

/-!
# Scientific texts of binary64 numbers

Decimal texts of a number rounded to a given count of digits: with an exponent
(`Binary64.scientific`), or in whichever layout suits its size (`Binary64.general`). Ties of the
exact value go to the even digit.
-/

namespace MentalPoker.Binary64

/-- The first `count` digits of a number that is not zero, rounded, and its decimal exponent. -/
def leading (count mantissa : Nat) (exponent : Int) : Nat × Int :=
  let (num, den) := ratio mantissa exponent
  let first := position num den - 1
  let (n, d) := shifted num den (first - count + 1)
  let digits := divEven n d
  if digits < tenTo count then (digits, first) else (digits / 10, first + 1)

/-- The digits of a number and its decimal exponent; zero has zeros only. -/
def leadingDigits (count mantissa : Nat) (exponent : Int) : Text × Int :=
  if mantissa = 0 then (List.replicate count 0x30, 0)
  else
    let (digits, e) := leading count mantissa exponent
    (Text.ofNat digits, e)

/-- An exponent with its sign, of at least two digits. -/
def exponentText (e : Int) : Text :=
  let size := Text.ofNat e.natAbs
  text (if e < 0 then "e-" else "e+") ++ (if size.length < 2 then 0x30 :: size else size)

/-- One digit, a point when something follows it or when it is asked for, and the other digits. -/
def pointed (point : Bool) (digits : Text) : Text :=
  digits.take 1 ++ (if point || 1 < digits.length then text "." else []) ++ digits.drop 1

/-- Zeros at the end are dropped. -/
def trimZeros (digits : Text) : Text := Text.dropTrailing 0x30 digits

/-- What stands instead of digits in the texts of `nan` and of the infinities. -/
def special? : Binary64 → Option Text
  | .nan => some (text "nan")
  | .infinite _ => some (text "inf")
  | .finite .. => none

def isNegative : Binary64 → Bool
  | .nan => false
  | .infinite s => s
  | .finite s _ _ => s

/-- The size of the number with `places` places after the point; the point is kept without places
when it is asked for. -/
def fixedSize (point : Bool) (places : Nat) : Binary64 → Text
  | .finite _ m e =>
    fixed places (.finite false m e) ++ (if point && places = 0 then text "." else [])
  | x => (special? x).getD []

/-- The size of the number as one digit, `places` more, and an exponent. -/
def scientificSize (point : Bool) (places : Nat) : Binary64 → Text
  | .finite _ m e =>
    let (digits, exponent) := leadingDigits (places + 1) m e
    pointed point digits ++ exponentText exponent
  | x => (special? x).getD []

/-- The size of the number with `count` digits: positional from a ten-thousandth up to
`10 ^ count`, otherwise with an exponent. Zeros at the end are dropped unless the point is asked
for. -/
def generalSize (point : Bool) (count : Nat) : Binary64 → Text
  | .finite _ m e =>
    let count := max count 1
    let (digits, exponent) := leadingDigits count m e
    if -4 ≤ exponent ∧ exponent < count then
      let zeros := List.replicate (-exponent).toNat 0x30
      let whole := if exponent < 0 then text "0" else digits.take (exponent.toNat + 1)
      let rest :=
        if exponent < 0 then zeros.drop 1 ++ digits else digits.drop (exponent.toNat + 1)
      let rest := if point then rest else trimZeros rest
      whole ++ (if point || !rest.isEmpty then text "." else []) ++ rest
    else
      let rest := digits.drop 1
      let rest := if point then rest else trimZeros rest
      pointed point (digits.take 1 ++ rest) ++ exponentText exponent
  | x => (special? x).getD []

end MentalPoker.Binary64
