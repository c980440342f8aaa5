import MentalPoker.Charset.ByteHead

/-!
# Characters with escapes

Bytes stand for the characters of the same number, and a backslash starts an escape. In the full
form an escape is a letter, up to three octal digits, or a letter with two, four or eight
hexadecimal digits behind it; in the plain form only those with four and with eight digits are
known, and all other backslashes stand for themselves.

## Contents

* `Escaped.head`: the head of some bytes in the full form.
* `Escaped.plainHead`: the head of some bytes in the plain form.
-/

namespace MentalPoker.Escaped

def backslash : UInt8 := 0x5C

/-- The value of hexadecimal digits that stand behind the first two bytes of an escape. -/
def digitsFrom (size code : Nat) : (count : Nat) → Bytes → ByteHead
  | 0, _ => if code < 0x110000 then .points [code] size else .bad size
  | _ + 1, [] => .cut
  | count + 1, b :: rest =>
    match Text.hexValue? b.toNat with
    | some d => digitsFrom (size + 1) (16 * code + d) count rest
    | none => .bad size

def digits (count : Nat) (rest : Bytes) : ByteHead := digitsFrom 2 0 count rest

/-- The letters that stand for one character each. -/
def letters : List (UInt8 × Nat) :=
  [(0x5C, 0x5C), (0x27, 0x27), (0x22, 0x22), (0x62, 0x08), (0x66, 0x0C), (0x74, 0x09), (0x6E, 0x0A),
    (0x72, 0x0D), (0x76, 0x0B), (0x61, 0x07)]

def isOctal (b : UInt8) : Bool := 0x30 ≤ b && b ≤ 0x37

/-- A name in braces. No names are known. -/
def name (rest : Bytes) : ByteHead :=
  match rest with
  | [] => .cut
  | 0x7B :: rest =>
    let size := (rest.takeWhile fun b => b ≠ 0x7D).length
    if size = rest.length then .cut else if size = 0 then .bad 3 else .bad (size + 4)
  | _ => .bad 2

/-- An escape, behind its backslash. -/
def escape (b : UInt8) (rest : Bytes) : ByteHead :=
  if b = 0x0A then .points [] 2
  else
    match letters.lookup b with
    | some c => .points [c] 2
    | none =>
      if isOctal b then
        let octal := b :: (rest.take 2).takeWhile isOctal
        .points [octal.foldl (fun n b => 8 * n + (b.toNat - 0x30)) 0] (octal.length + 1)
      else if b = 0x78 then digits 2 rest
      else if b = 0x75 then digits 4 rest
      else if b = 0x55 then digits 8 rest
      else if b = 0x4E then name rest
      else .points [0x5C, b.toNat] 2

/-- What stands at the head of `b :: rest` in the full form. -/
def head (b : UInt8) (rest : Bytes) : ByteHead :=
  if b = backslash then
    match rest with
    | [] => .cut
    | c :: rest => escape c rest
  else .points [b.toNat] 1

/-- What stands at the head of `b :: rest` in the plain form. -/
def plainHead (final : Bool) (b : UInt8) (rest : Bytes) : ByteHead :=
  if b = backslash then
    match rest with
    | [] => if final then .points [0x5C] 1 else .cut
    | c :: rest =>
      if c = 0x75 then digits 4 rest
      else if c = 0x55 then digits 8 rest
      else .points [0x5C, c.toNat] 2
  else .points [b.toNat] 1

end MentalPoker.Escaped
