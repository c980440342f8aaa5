import MentalPoker.Json
import MentalPoker.Number.Shortest
import MentalPoker.Text.Printable

/-!
# Values as literals

How values are shown inside messages: strings in quotes, containers in brackets, and words for
null and the booleans. `Json.display` differs from `Json.literal` only in showing a string bare.
-/

namespace MentalPoker.Json

/-- A code point between quotes of the kind `quote`. -/
def literalPoint (quote c : Nat) : Text :=
  if c = quote ∨ c = 0x5C then [0x5C, c]
  else if c = 0x0A then text "\\n"
  else if c = 0x0D then text "\\r"
  else if c = 0x09 then text "\\t"
  else if Text.isPrintable c then [c]
  else if c < 0x100 then text "\\x" ++ Text.hexPadded 2 c
  else if c < 0x10000 then text "\\u" ++ Text.hexPadded 4 c
  else text "\\U" ++ Text.hexPadded 8 c

/-- A string in single quotes, or in double quotes when it holds single quotes only. -/
def quoted (s : Text) : Text :=
  let quote := if s.contains 0x27 && !s.contains 0x22 then 0x22 else 0x27
  [quote] ++ s.flatMap (literalPoint quote) ++ [quote]

mutual

/-- The literal of a value. -/
def literal : Json → Text
  | .null => text "None"
  | .bool b => if b then text "True" else text "False"
  | .int n => Text.ofInt n
  | .float x => x.display
  | .str s => quoted s
  | .arr items => text "[" ++ literalItems items ++ text "]"
  | .obj members => text "\x7b" ++ literalMembers members ++ text "\x7d"

def literalItems : List Json → Text
  | [] => []
  | [v] => literal v
  | v :: rest => literal v ++ text ", " ++ literalItems rest

def literalMembers : List (Text × Json) → Text
  | [] => []
  | [(k, v)] => quoted k ++ text ": " ++ literal v
  | (k, v) :: rest => quoted k ++ text ": " ++ literal v ++ text ", " ++ literalMembers rest

end

/-- The value as it stands in running text. It is meant for values that were read, whose integers
have no more than `Numeral.maxDigits` digits; that longer ones are displayed too means nothing. -/
def display : Json → Text
  | .str s => s
  | v => literal v

end MentalPoker.Json
