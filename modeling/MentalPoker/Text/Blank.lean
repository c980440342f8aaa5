import MentalPoker.Text

/-!
# Blank characters

The characters with the Unicode property `White_Space`. Numerals in fields and in settings may be
surrounded by them.
-/

namespace MentalPoker.Text

/-- The code points with the Unicode property `White_Space`. -/
def isBlank (c : Nat) : Bool :=
  (9 ≤ c && c ≤ 13) || c == 0x20 || c == 0x85 || c == 0xA0 || c == 0x1680
    || (0x2000 ≤ c && c ≤ 0x200A) || c == 0x2028 || c == 0x2029 || c == 0x202F
    || c == 0x205F || c == 0x3000

/-- The text without the blanks at both ends. -/
def trimBlanks (t : Text) : Text := trim isBlank t

end MentalPoker.Text
