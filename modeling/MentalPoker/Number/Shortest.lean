import MentalPoker.Number.Binary64
import MentalPoker.Text

/-!
# Decimal texts of binary64 numbers

Two ways to write a number in decimal. `Binary64.shortest` chooses the fewest digits that read
back as the same number, and of those the nearest to it; `Binary64.display` lays these digits out.
`Binary64.fixed` rounds the exact value to a given count of places.
-/

namespace MentalPoker.Binary64

/-! ## The fewest digits -/

/-- How many powers of ten fit: the `k` with `10 ^ (k - 1) ≤ num / den < 10 ^ k`, for
`num / den < 1`, found by raising the value until it reaches one. -/
def leadingZeros (fuel num den : Nat) (k : Int) : Int :=
  match fuel with
  | 0 => k
  | fuel + 1 => if den ≤ num then k else leadingZeros fuel (num * 10) den (k - 1)

/-- The decimal position of the first digit: `10 ^ (k - 1) ≤ num / den < 10 ^ k`. -/
def position (num den : Nat) : Int :=
  if den ≤ num then ((Nat.toDigits 10 (num / den)).length : Int)
  else leadingZeros 400 num den 1

/-- `num / den · 10 ^ (-p)` as a fraction. -/
def shifted (num den : Nat) : Int → Nat × Nat
  | .ofNat k => (num, den * tenTo k)
  | .negSucc k => (num * tenTo (k + 1), den)

/-- The digits of the point of the grid `10 ^ p` that reads back as the number with bounds
`low ≤ num ≤ high` over `den`; the nearer of two, the even one of a tie. Ends belong to the
bounds when `closed`. -/
def gridPoint? (low num high den : Nat) (closed : Bool) (p : Int) : Option Nat :=
  let (n, d) := shifted num den p
  let (l, _) := shifted low den p
  let (h, _) := shifted high den p
  let below := n / d
  let above := below + 1
  let inside (c : Nat) : Bool :=
    if closed then l ≤ c * d && c * d ≤ h else l < c * d && c * d < h
  match inside below, inside above with
  | true, true => some (divEven n d)
  | true, false => some below
  | false, true => some above
  | false, false => none

/-- Trailing zeros move from the digits into the power of ten. -/
def stripZeros (fuel digits : Nat) (p : Int) : Nat × Int :=
  match fuel with
  | 0 => (digits, p)
  | fuel + 1 => if digits % 10 = 0 then stripZeros fuel (digits / 10) (p + 1) else (digits, p)

/-- The first grid, from coarse to fine, with a point that reads back. -/
def shortestFrom (low num high den : Nat) (closed : Bool) (k : Int) :
    (fuel count : Nat) → Nat × Int
  | 0, _ => (0, 0)
  | fuel + 1, count =>
    match gridPoint? low num high den closed (k - count) with
    | some digits => stripZeros 20 digits (k - count)
    | none => shortestFrom low num high den closed k fuel (count + 1)

/-- Digits and power of ten of the shortest decimal that reads back as
`mantissa · 2 ^ exponent`. -/
def shortest (mantissa : Nat) (exponent : Int) : Nat × Int :=
  -- quarters of the last place hold the ends of the interval that rounds to the number
  let (unit, den) := ratio 1 (exponent - 2)
  let num := 4 * mantissa * unit
  let high := (4 * mantissa + 2) * unit
  let lowGap := if mantissa = mantissaFloor ∧ minExponent < exponent then 1 else 2
  let low := (4 * mantissa - lowGap) * unit
  shortestFrom low num high den (mantissa % 2 == 0) (position num den) 18 1

/-! ## Layout -/

/-- The digits with a point after `point` of them, or an exponent when the point would stand far
away: positional for numbers from a ten-thousandth up to `10 ^ 16`. -/
def layout (digits : Text) (point : Int) : Text :=
  let count : Int := digits.length
  if -4 < point ∧ point ≤ 16 then
    if point ≤ 0 then text "0." ++ List.replicate (-point).toNat 0x30 ++ digits
    else if point < count then
      digits.take point.toNat ++ text "." ++ digits.drop point.toNat
    else digits ++ List.replicate (point - count).toNat 0x30 ++ text ".0"
  else
    let e := point - 1
    let sign := if e < 0 then text "-" else text "+"
    let size := Text.ofNat e.natAbs
    let size := if size.length < 2 then 0x30 :: size else size
    let tail := if digits.length ≤ 1 then [] else text "." ++ digits.drop 1
    digits.take 1 ++ tail ++ text "e" ++ sign ++ size

/-- The shortest text that reads back as the number. -/
def display : Binary64 → Text
  | .nan => text "nan"
  | .infinite s => if s then text "-inf" else text "inf"
  | .finite s m e =>
    let sign := if s then text "-" else []
    if m = 0 then sign ++ text "0.0"
    else
      let (digits, p) := shortest m e
      let ds := Text.ofNat digits
      sign ++ layout ds (ds.length + p)

/-- The number with `places` decimal places, the exact value rounded with ties to even. -/
def fixed (places : Nat) : Binary64 → Text
  | .nan => text "nan"
  | .infinite s => if s then text "-inf" else text "inf"
  | .finite s m e =>
    let (n, d) := ratio m e
    let q := Text.ofNat (divEven (n * tenTo places) d)
    let q := List.replicate (places + 1 - q.length) 0x30 ++ q
    let whole := q.take (q.length - places)
    let rest := q.drop (q.length - places)
    let sign := if s then text "-" else []
    sign ++ whole ++ (if places = 0 then [] else text "." ++ rest)

end MentalPoker.Binary64
