import MentalPoker.Json
import MentalPoker.Number.Shortest

/-!
# Writing JSON texts

The compact ASCII form: no blanks, members in their order, every character outside ASCII escaped.
-/

namespace MentalPoker.Json

/-- The escape of a code point of the first plane. -/
def unicodeEscape (c : Nat) : Text := text "\\u" ++ Text.hexPadded 4 c

/-- A code point inside quotes. -/
def writePoint (c : Nat) : Text :=
  if c = 0x22 then text "\\\""
  else if c = 0x5C then text "\\\\"
  else if c = 0x0A then text "\\n"
  else if c = 0x0D then text "\\r"
  else if c = 0x09 then text "\\t"
  else if 0x20 ≤ c ∧ c < 0x7F then [c]
  else if c < 0x10000 then unicodeEscape c
  else
    unicodeEscape (0xD800 + (c - 0x10000) / 0x400)
      ++ unicodeEscape (0xDC00 + (c - 0x10000) % 0x400)

/-- A string with its quotes. -/
def writeString (s : Text) : Text := text "\"" ++ s.flatMap writePoint ++ text "\""

/-- A number; what is no finite number is written as a word. -/
def writeFloat (x : Binary64) : Text :=
  match x with
  | .nan => text "NaN"
  | .infinite s => if s then text "-Infinity" else text "Infinity"
  | x => x.display

mutual

/-- The text of a value. -/
def write : Json → Text
  | .null => text "null"
  | .bool b => if b then text "true" else text "false"
  | .int n => Text.ofInt n
  | .float x => writeFloat x
  | .str s => writeString s
  | .arr items => text "[" ++ writeItems items ++ text "]"
  | .obj members => text "\x7b" ++ writeMembers members ++ text "\x7d"

def writeItems : List Json → Text
  | [] => []
  | [v] => write v
  | v :: rest => write v ++ text "," ++ writeItems rest

def writeMembers : List (Text × Json) → Text
  | [] => []
  | [(k, v)] => writeString k ++ text ":" ++ write v
  | (k, v) :: rest => writeString k ++ text ":" ++ write v ++ text "," ++ writeMembers rest

end

end MentalPoker.Json
