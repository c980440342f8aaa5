import MentalPoker.Charset.Fault
import MentalPoker.Text.Encoding

/-!
# Punycode

Text is written as its ASCII characters, a hyphen, and a sequence of letters and digits that tells
which other characters to insert, and where. Each insertion is a number of digits of varying weight;
the weights follow from the insertions before.

## Contents

* `Punycode.decode`: the text of a chunk.
-/

namespace MentalPoker.Punycode

/-- The digit from which on another digit follows, for the `j`-th digit. -/
def threshold (j bias : Nat) : Nat := min 26 (max 1 (36 * (j + 1) - bias))

def digit? (c : Nat) : Option Nat :=
  let c := Text.upperPoint c
  if 0x41 ≤ c ∧ c ≤ 0x5A then some (c - 0x41)
  else if Text.isDigit c then some (c - 0x30 + 26)
  else none

/-- The number at the head of some text, and what follows it. -/
def number? (bias value weight j : Nat) : Text → Option (Nat × Text)
  | [] => none
  | c :: rest => do
    let d ← digit? c
    let t := threshold j bias
    let value := value + d * weight
    if d < t then some (value, rest) else number? bias value (weight * (36 - t)) (j + 1) rest

/-- Halves the range of a step until it is small, and counts by how much. -/
def scaled : (fuel step divisions : Nat) → Nat × Nat
  | 0, step, divisions => (step, divisions)
  | fuel + 1, step, divisions =>
    if 455 < step then scaled fuel (step / 35) (divisions + 36) else (step, divisions)

/-- The bias after a step, when there are so many characters. -/
def adapted (step : Nat) (first : Bool) (count : Nat) : Nat :=
  let step := if first then step / 700 else step / 2
  let step := step + step / count
  let (step, divisions) := scaled step.log2 step 0
  divisions + 36 * step / (step + 38)

/-- Inserts the characters that `t` tells, up to the first number that cannot be read. `place` is
where the next insertion counts from. -/
def insertFrom (first : Bool) (char place bias : Nat) : (fuel : Nat) → (base t : Text) → Text
  | _, base, [] => base
  | 0, base, _ => base
  | fuel + 1, base, t =>
    match number? bias 0 1 0 t with
    | none => base
    | some (step, rest) =>
      let places := base.length + 1
      let place := place + step
      let char := char + place / places
      let char := if 0x10FFFF < char then 0x3F else char
      let place := place % places
      let base := base.take place ++ char :: base.drop place
      insertFrom false char (place + 1) (adapted step first base.length) fuel base rest

/-- The text of a chunk. Insertions are written in ASCII. -/
def decode (bytes : Bytes) : Except CharsetFault Text :=
  let points := bytes.map UInt8.toNat
  let (insertions, base) := (points.reverse.span fun c => c ≠ 0x2D)
  let base := (base.drop 1).reverse.map fun c => if c < 0x80 then c else Utf8.replacement
  let insertions := insertions.reverse
  match insertions.findIdx? fun c => 0x80 ≤ c with
  | some i => .error (.notAscii i (insertions.getD i 0))
  | none => .ok (insertFrom true 0x80 0 72 insertions.length base insertions)

end MentalPoker.Punycode
