import MentalPoker.Text

/-!
# Decimal digits of all scripts

The characters of category `Nd` come in runs of ten, from the zero of a script to its nine, so a
table of the zeros gives both the class and the value of a digit. Numerals in settings are read
with the digits of Unicode 14; chip counts on the wire also admit those of Unicode 16.
-/

namespace MentalPoker.Text

/-- The zeros of the runs of decimal digits in Unicode 14. -/
def digitZeros : List Nat :=
  [0x30, 0x660, 0x6F0, 0x7C0, 0x966, 0x9E6, 0xA66, 0xAE6, 0xB66, 0xBE6, 0xC66, 0xCE6, 0xD66,
   0xDE6, 0xE50, 0xED0, 0xF20, 0x1040, 0x1090, 0x17E0, 0x1810, 0x1946, 0x19D0, 0x1A80, 0x1A90,
   0x1B50, 0x1BB0, 0x1C40, 0x1C50, 0xA620, 0xA8D0, 0xA900, 0xA9D0, 0xA9F0, 0xAA50, 0xABF0,
   0xFF10, 0x104A0, 0x10D30, 0x11066, 0x110F0, 0x11136, 0x111D0, 0x112F0, 0x11450, 0x114D0,
   0x11650, 0x116C0, 0x11730, 0x118E0, 0x11950, 0x11C50, 0x11D50, 0x11DA0, 0x16A60, 0x16AC0,
   0x16B50, 0x1D7CE, 0x1D7D8, 0x1D7E2, 0x1D7EC, 0x1D7F6, 0x1E140, 0x1E2F0, 0x1E950, 0x1FBF0]

/-- The zeros of the runs that Unicode 15 and 16 added. -/
def laterDigitZeros : List Nat :=
  [0x10D40, 0x116D0, 0x116DA, 0x11BF0, 0x11F50, 0x16130, 0x16D70, 0x1CCF0, 0x1E4F0, 0x1E5F1]

/-- The value of `c` as a digit of one of the runs that start at `zeros`. -/
def digitValueIn? (zeros : List Nat) (c : Nat) : Option Nat :=
  (zeros.find? fun z => z ≤ c && c < z + 10).map fun z => c - z

/-- The value of a decimal digit of Unicode 14. -/
def digitValue? (c : Nat) : Option Nat := digitValueIn? digitZeros c

/-- A decimal digit of any script of Unicode 16. -/
def isDecimalDigit (c : Nat) : Bool :=
  isDigit c || (digitValueIn? (digitZeros ++ laterDigitZeros) c).isSome

end MentalPoker.Text
