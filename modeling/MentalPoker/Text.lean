/-!
# Text

The text type of the library: a text is the list of its code points. The ledger's JSON may spell
surrogates that have no partner, and such a surrogate is a code point like any other until a
field asks for proper Unicode (`Text.isUnicode`). Literals enter through `text`.

## Contents

* `text`: the code points of a literal.
* `Text.ofNat`, `Text.ofInt`: decimal numerals.
* `Text.dropPrefix?`, `Text.splitFirst`: taking texts apart.
* `Text.isUnicode`, `Text.Unicode`: no surrogate stands in the text.
-/

namespace MentalPoker

/-- A text is the list of its code points; surrogates may stand alone. -/
abbrev Text := List Nat

/-- The code points of a literal. -/
def text (s : String) : Text := s.toList.map Char.toNat

namespace Text

/-! ## Numerals -/

/-- The decimal numeral of a natural number. -/
def ofNat (n : Nat) : Text := (Nat.toDigits 10 n).map Char.toNat

/-- The decimal numeral of an integer, with a minus sign when it is negative. Every integer has one,
also one of more digits than a reader takes (`Numeral.maxDigits`). -/
def ofInt : Int → Text
  | .ofNat n => ofNat n
  | .negSucc n => 0x2d :: ofNat (n + 1)

/-- The numeral, in lower-case hexadecimal, of at least `width` digits. -/
def hexPadded (width n : Nat) : Text :=
  let digits := (Nat.toDigits 16 n).map Char.toNat
  List.replicate (width - digits.length) 0x30 ++ digits

/-! ## Classes of code points -/

/-- The code points that pair up to one character in UTF-16. -/
def isSurrogate (c : Nat) : Bool := 0xD800 ≤ c && c ≤ 0xDFFF

def isHighSurrogate (c : Nat) : Bool := 0xD800 ≤ c && c ≤ 0xDBFF

def isLowSurrogate (c : Nat) : Bool := 0xDC00 ≤ c && c ≤ 0xDFFF

/-- The character beyond the first plane that a surrogate pair stands for. -/
def joinSurrogates (high low : Nat) : Nat :=
  0x10000 + (high - 0xD800) * 0x400 + (low - 0xDC00)

/-- `0` to `9`. -/
def isDigit (c : Nat) : Bool := 0x30 ≤ c && c ≤ 0x39

/-- The value of a hexadecimal digit of either case. -/
def hexValue? (c : Nat) : Option Nat :=
  if 0x30 ≤ c ∧ c ≤ 0x39 then some (c - 0x30)
  else if 0x41 ≤ c ∧ c ≤ 0x46 then some (c - 0x41 + 10)
  else if 0x61 ≤ c ∧ c ≤ 0x66 then some (c - 0x61 + 10)
  else none

def isHexDigit (c : Nat) : Bool := (hexValue? c).isSome

/-- No surrogate stands in the text, so it can be written in any Unicode encoding. -/
def isUnicode (t : Text) : Bool := t.all fun c => !isSurrogate c

/-- A text without surrogates. -/
abbrev Unicode := { t : Text // isUnicode t = true }

/-! ## Case -/

/-- The lower-case form of an ASCII capital; other code points stay. -/
def lowerPoint (c : Nat) : Nat := if 0x41 ≤ c ∧ c ≤ 0x5A then c + 0x20 else c

/-- The capital of an ASCII letter; other code points stay. -/
def upperPoint (c : Nat) : Nat := if 0x61 ≤ c ∧ c ≤ 0x7A then c - 0x20 else c

/-- ASCII capitals become small letters. -/
def asciiLower (t : Text) : Text := t.map lowerPoint

/-- ASCII small letters become capitals. -/
def asciiUpper (t : Text) : Text := t.map upperPoint

/-! ## Taking texts apart -/

/-- What follows `start` in `t`, when `t` begins with it. -/
def dropPrefix? : (start t : Text) → Option Text
  | [], t => some t
  | _ :: _, [] => none
  | p :: ps, c :: cs => if p = c then dropPrefix? ps cs else none

theorem dropPrefix?_eq_some_iff {start t rest : Text} :
    dropPrefix? start t = some rest ↔ t = start ++ rest := by
  induction start generalizing t with
  | nil => simp [dropPrefix?]
  | cons p ps ih =>
    cases t with
    | nil => simp [dropPrefix?]
    | cons c cs =>
      by_cases h : p = c
      · simp [dropPrefix?, h, ih]
      · simp [dropPrefix?, h, Ne.symm h]

def startsWith (start t : Text) : Bool := (dropPrefix? start t).isSome

/-- Whether `part` occurs in `t` as a run of neighbours. -/
def hasInfix (part : Text) : Text → Bool
  | [] => part.isEmpty
  | c :: cs => startsWith part (c :: cs) || hasInfix part cs

/-- What stands before the first `sep`, and what follows it when there is one. -/
def splitFirst (sep : Nat) : Text → Text × Option Text
  | [] => ([], none)
  | c :: cs =>
    if c = sep then ([], some cs)
    else
      let (before, after) := splitFirst sep cs
      (c :: before, after)

/-- The parts between the separators; there is always one. -/
def splitAll (sep : Nat) : Text → List Text
  | [] => [[]]
  | c :: cs =>
    let parts := splitAll sep cs
    if c = sep then [] :: parts else (c :: parts.headD []) :: parts.drop 1

/-- Every `c` at the end of the text is dropped. -/
def dropTrailing (c : Nat) (t : Text) : Text := (t.reverse.dropWhile (· == c)).reverse

/-- Both ends lose the code points that satisfy `p`. -/
def trim (p : Nat → Bool) (t : Text) : Text :=
  ((t.dropWhile p).reverse.dropWhile p).reverse

/-- The texts one after another, with `sep` between neighbours. -/
def join (sep : Text) : List Text → Text
  | [] => []
  | [t] => t
  | t :: ts => t ++ sep ++ join sep ts

/-- Blanks are added on the right up to `width` code points. -/
def padRight (width : Nat) (t : Text) : Text := t ++ List.replicate (width - t.length) 0x20

end Text

end MentalPoker
