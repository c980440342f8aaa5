/-!
# Binary64 numbers

Numbers of the IEEE format binary64 as exact values: a sign, a natural mantissa and a power of two.
Everything is computed in exact arithmetic on `Nat`, so each function is one rounding of the true
result and can be reasoned about.

## Contents

* `divEven`: a quotient to the nearest natural number, ties to even.
* `Binary64.ofRatio`, `Binary64.ofDecimal`: the nearest number to a fraction or a decimal.
* `Binary64.toInt?`: the integer that a number without a fraction is.
* `Binary64.roundEven?`: the nearest integer, ties to even.
-/

namespace MentalPoker

/-- `n / d` to the nearest natural number; a tie goes to the even neighbour. -/
def divEven (n d : Nat) : Nat :=
  let q := n / d
  let r := n % d
  if 2 * r < d then q
  else if d < 2 * r then q + 1
  else if q % 2 = 0 then q else q + 1

/-- A number of the format: `± mantissa · 2 ^ exponent`, an infinity, or no number. -/
inductive Binary64 where
  | nan
  | infinite (negative : Bool)
  | finite (negative : Bool) (mantissa : Nat) (exponent : Int)
  deriving DecidableEq, Repr, Inhabited

namespace Binary64

/-- Mantissas stay below this power of two. -/
def mantissaLimit : Nat := 0x20000000000000

/-- Mantissas of all but the least numbers have at least this size. -/
def mantissaFloor : Nat := 0x10000000000000

/-- The powers of ten. -/
def tenTo (k : Nat) : Nat := Nat.pow 10 k

/-- The exponent of the least positive number. -/
def minExponent : Int := -1074

/-- The exponent of the greatest finite numbers. -/
def maxExponent : Int := 971

def zero (negative : Bool) : Binary64 := .finite negative 0 0

/-- Numerator and denominator of `num / den · 2 ^ (-e)`. -/
def scaled (num den : Nat) : Int → Nat × Nat
  | .ofNat k => (num, den <<< k)
  | .negSucc k => (num <<< (k + 1), den)

/-- The exponent at which `num / den` fills the mantissa, or the least one. -/
def exponentFor (num den : Nat) : Int :=
  let guess : Int := (num.log2 : Int) - den.log2 - 52
  let (n, d) := scaled num den guess
  let e := if n / d < mantissaFloor then guess - 1 else guess
  max e minExponent

/-- The number nearest to `± num / den`, ties to the even mantissa. -/
def ofRatio (negative : Bool) (num den : Nat) : Binary64 :=
  if num = 0 then zero negative
  else
    let e := exponentFor num den
    let (n, d) := scaled num den e
    let m := divEven n d
    let (m, e) := if m = mantissaLimit then (mantissaFloor, e + 1) else (m, e)
    if m = 0 then zero negative
    else if maxExponent < e then .infinite negative
    else .finite negative m e

/-- The number nearest to `± digits · 10 ^ exponent`. Exponents far outside the format are
decided by the size alone. -/
def ofDecimal (negative : Bool) (digits : Nat) (exponent : Int) : Binary64 :=
  if digits = 0 then zero negative
  else
    let size := ((Nat.toDigits 10 digits).length : Int) + exponent
    if 310 < size then .infinite negative
    else if size < -330 then zero negative
    else match exponent with
      | .ofNat k => ofRatio negative (digits * tenTo k) 1
      | .negSucc k => ofRatio negative digits (tenTo (k + 1))

/-- The number nearest to an integer. -/
def ofInt (n : Int) : Binary64 := ofRatio (n < 0) n.natAbs 1

/-- The number nearest to a fraction. -/
def ofRat (r : Rat) : Binary64 := ofRatio (r < 0) r.num.natAbs r.den

/-- The quotient of two integers, rounded once; a zero divisor gives no number. -/
def divInt (a b : Int) : Binary64 :=
  if b = 0 then .nan else ofRatio ((a < 0) != (b < 0)) a.natAbs b.natAbs

/-- The product with a natural number, rounded once. -/
def mulNat (x : Binary64) (n : Nat) : Binary64 :=
  match x with
  | .finite s m (.ofNat k) => ofRatio s ((m * n) <<< k) 1
  | .finite s m (.negSucc k) => ofRatio s (m * n) (1 <<< (k + 1))
  | x => x

/-- The quotient by a natural number, rounded once. -/
def divNat (x : Binary64) (n : Nat) : Binary64 :=
  match x with
  | .finite s m (.ofNat k) => ofRatio s (m <<< k) n
  | .finite s m (.negSucc k) => ofRatio s m (n <<< (k + 1))
  | x => x

/-- Magnitude of a finite number as a fraction. -/
def ratio (mantissa : Nat) : Int → Nat × Nat
  | .ofNat k => (mantissa <<< k, 1)
  | .negSucc k => (mantissa, 1 <<< (k + 1))

/-- The integer with the given sign and magnitude. -/
def signed (negative : Bool) (n : Nat) : Int := if negative then -(n : Int) else n

/-- The exact value of a finite number. -/
def toRat? : Binary64 → Option Rat
  | .finite s m e =>
    let (n, d) := ratio m e
    some (mkRat (signed s n) d)
  | _ => none

/-- The integer that the number is, when it has no fraction. -/
def toInt? : Binary64 → Option Int
  | .finite s m e =>
    let (n, d) := ratio m e
    if n % d = 0 then some (signed s (n / d)) else none
  | _ => none

/-- The nearest integer, ties to even. -/
def roundEven? : Binary64 → Option Int
  | .finite s m e =>
    let (n, d) := ratio m e
    some (signed s (divEven n d))
  | _ => none

/-- The integer next to the number in the direction of zero. -/
def truncate? : Binary64 → Option Int
  | .finite s m e =>
    let (n, d) := ratio m e
    some (signed s (n / d))
  | _ => none

/-- The least integer that is not below the number. -/
def ceil? : Binary64 → Option Int
  | .finite s m e =>
    let (n, d) := ratio m e
    some (-((-(signed s n)).fdiv d))
  | _ => none

def isFinite : Binary64 → Bool
  | .finite .. => true
  | _ => false

/-- The number equals zero, whatever its sign. -/
def isZero : Binary64 → Bool
  | .finite _ m _ => m == 0
  | _ => false

/-- The number equals the integer. -/
def equalsInt (x : Binary64) (n : Int) : Bool := x.toInt? == some n

end Binary64

end MentalPoker
