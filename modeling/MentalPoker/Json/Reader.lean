import MentalPoker.Json
import MentalPoker.Number.Numeral
import MentalPoker.Text.Encoding

/-!
# Reading JSON texts

A reader by recursive descent. It accepts the JSON grammar and the three words `NaN`, `Infinity`
and `-Infinity`; of two members with one key the later value counts; a surrogate that is escaped
on its own is kept. Every function passes on the rest of the text, so the place of a fault is the
length of that rest; the recursion is bounded by a count that the length of the text provides.
Apart from the grammar the reader has two limits: for the digits of an integer, and for the depth
of values within values. The first one is fixed; the second one depends on the room that the reader
has where it is called, so all that reads texts is stated for any `Json.Room`.

## Contents

* `Json.Limit`: what is more than the reader takes.
* `Json.Fault`: why a document cannot be read, with its message.
* `Json.Room`: how deep values may be nested.
* `Json.ofText`: the value of a text.
* `Json.ofBytes`: the value of a byte string in the encoding that it shows.
-/

namespace MentalPoker.Json

/-! ## Faults -/

/-- What the grammar does not allow. -/
inductive Reason where
  | value
  | propertyName
  | colon
  | comma
  | extraData
  | escape
  | unicodeEscape
  | controlCharacter
  | unterminated
  | byteOrderMark
  deriving DecidableEq, Repr

namespace Reason

def message : Reason → Text
  | value => text "Expecting value"
  | propertyName => text "Expecting property name enclosed in double quotes"
  | colon => text "Expecting ':' delimiter"
  | comma => text "Expecting ',' delimiter"
  | extraData => text "Extra data"
  | escape => text "Invalid \\escape"
  | unicodeEscape => text "Invalid \\uXXXX escape"
  | controlCharacter => text "Invalid control character at"
  | unterminated => text "Unterminated string starting at"
  | byteOrderMark => text "Unexpected UTF-8 BOM (decode using utf-8-sig)"

end Reason

/-- What is more than the reader takes, though the grammar allows it. -/
inductive Limit where
  /-- An integer with more digits than numerals may have. -/
  | longInteger (digits : Nat)
  /-- A list or an object within too many others. -/
  | deepList
  | deepObject
  deriving DecidableEq, Repr

namespace Limit

/-- Where values are nested too deep. -/
def depthMessage (kind : String) : Text :=
  text "maximum recursion depth exceeded while decoding a JSON " ++ text kind
    ++ text " from a unicode string"

def message : Limit → Text
  | longInteger digits =>
    text "Exceeds the limit (" ++ Text.ofNat Numeral.maxDigits
      ++ text " digits) for integer string conversion: value has " ++ Text.ofNat digits
      ++ text " digits; use sys.set_int_max_str_digits() to increase the limit"
  | deepList => depthMessage "array"
  | deepObject => depthMessage "object"

end Limit

/-- Why a document cannot be read. -/
inductive Fault where
  /-- Not the grammar, at an offset in code points. -/
  | malformed (reason : Reason) (line column offset : Nat)
  /-- Not the encoding. -/
  | encoding (fault : EncodingFault)
  | limit (l : Limit)
  deriving DecidableEq, Repr

namespace Fault

def message : Fault → Text
  | malformed reason line column offset =>
    reason.message ++ text ": line " ++ Text.ofNat line ++ text " column " ++ Text.ofNat column
      ++ text " (char " ++ Text.ofNat offset ++ text ")"
  | encoding fault => fault.message
  | limit l => l.message

end Fault

/-- A fault while reading; places are given by how much of the text is left there. -/
inductive Stop where
  | malformed (reason : Reason) (left : Nat)
  | limit (l : Limit)
  deriving DecidableEq, Repr

/-- The line and the column, both from one, of the offset in a text. -/
def lineColumn (t : Text) (offset : Nat) : Nat × Nat :=
  let before := t.take offset
  (before.count 0x0A + 1, (before.reverse.takeWhile (· != 0x0A)).length + 1)

namespace Stop

/-- The fault of reading the whole text `t`. -/
def locate (t : Text) : Stop → Fault
  | malformed reason left =>
    let offset := t.length - left
    let (line, column) := lineColumn t offset
    .malformed reason line column offset
  | limit l => .limit l

end Stop

/-! ## Tokens -/

def isBlank (c : Nat) : Bool := c == 0x20 || c == 0x09 || c == 0x0A || c == 0x0D

def skipBlanks (t : Text) : Text := t.dropWhile isBlank

/-- The code point that a one-letter escape stands for. -/
def escaped? (c : Nat) : Option Nat :=
  if c = 0x22 ∨ c = 0x5C ∨ c = 0x2F then some c
  else if c = 0x62 then some 0x08
  else if c = 0x66 then some 0x0C
  else if c = 0x6E then some 0x0A
  else if c = 0x72 then some 0x0D
  else if c = 0x74 then some 0x09
  else none

/-- The number that four hexadecimal digits write. -/
def fourHex? (a b c d : Nat) : Option Nat := do
  let a ← Text.hexValue? a
  let b ← Text.hexValue? b
  let c ← Text.hexValue? c
  let d ← Text.hexValue? d
  return ((a * 16 + b) * 16 + c) * 16 + d

/-- The four digits after `\u`, with at least one more code point behind them. -/
def readHex (t : Text) : Except Stop (Nat × Text) :=
  match t with
  | a :: b :: c :: d :: e :: rest =>
    match fourHex? a b c d with
    | some code => .ok (code, e :: rest)
    | none => .error (.malformed .unicodeEscape (t.length + 1))
  | _ => .error (.malformed .unicodeEscape (t.length + 1))

/-- The code point of a `\u` escape, joined with an escaped partner where one follows. -/
def readEscape (t : Text) : Except Stop (Nat × Text) := do
  let (high, rest) ← readHex t
  match rest with
  | 0x5C :: 0x75 :: more =>
    if Text.isHighSurrogate high && 6 < rest.length then
      let (low, after) ← readHex more
      if Text.isLowSurrogate low then return (Text.joinSurrogates high low, after)
      else return (high, rest)
    else return (high, rest)
  | _ => return (high, rest)

/-- The text of a string behind its opening quote, of which `opening` was left. -/
def readString (opening : Nat) : (fuel : Nat) → Text → Except Stop (Text × Text)
  | 0, _ => .error (.malformed .unterminated opening)
  | fuel + 1, t =>
    match t with
    | [] => .error (.malformed .unterminated opening)
    | 0x22 :: rest => .ok ([], rest)
    | 0x5C :: [] => .error (.malformed .unterminated opening)
    | 0x5C :: 0x75 :: rest => do
      let (code, rest) ← readEscape rest
      let (tail, rest) ← readString opening fuel rest
      return (code :: tail, rest)
    | 0x5C :: c :: rest =>
      match escaped? c with
      | none => .error (.malformed .escape t.length)
      | some code => do
        let (tail, rest) ← readString opening fuel rest
        return (code :: tail, rest)
    | c :: rest =>
      if c < 0x20 then .error (.malformed .controlCharacter t.length)
      else do
        let (tail, rest) ← readString opening fuel rest
        return (c :: tail, rest)

/-- Digits and what follows them. -/
def digits (t : Text) : Text × Text := (t.takeWhile Text.isDigit, t.dropWhile Text.isDigit)

/-- The integer part: a zero, or digits that do not start with zero. -/
def integerPart (t : Text) : Text × Text :=
  match t with
  | 0x30 :: rest => ([0x30], rest)
  | _ => digits t

/-- The digits of a fraction, when a point with digits follows. -/
def fractionPart (t : Text) : Text × Text :=
  match t with
  | 0x2E :: rest => if (digits rest).1.isEmpty then ([], t) else digits rest
  | _ => ([], t)

/-- The exponent, when a whole one follows. -/
def exponentPart (t : Text) : Option Int × Text :=
  match t with
  | c :: rest =>
    if c = 0x65 ∨ c = 0x45 then
      let (negative, body) := Numeral.sign rest
      let (ds, after) := digits body
      if ds.isEmpty then (none, t)
      else (some (Binary64.signed negative (Numeral.value ds)), after)
    else (none, t)
  | [] => (none, t)

/-- A number; `t` starts where the value is expected. -/
def readNumber (t : Text) : Except Stop (Json × Text) :=
  let (negative, body) := match t with
    | 0x2D :: rest => (true, rest)
    | _ => (false, t)
  let (whole, rest) := integerPart body
  if whole.isEmpty then .error (.malformed .value t.length)
  else
    let (fraction, rest) := fractionPart rest
    let (exponent, rest) := exponentPart rest
    if fraction.isEmpty && exponent.isNone then
      if Numeral.maxDigits < whole.length then .error (.limit (.longInteger whole.length))
      else .ok (.int (Binary64.signed negative (Numeral.value whole)), rest)
    else
      .ok (.float (Binary64.ofDecimal negative (Numeral.value (whole ++ fraction))
        (exponent.getD 0 - fraction.length)), rest)

/-- The words that are values. -/
def words : List (Text × Json) :=
  [(text "null", .null), (text "true", .bool true), (text "false", .bool false),
    (text "NaN", .float .nan), (text "Infinity", .float (.infinite false)),
    (text "-Infinity", .float (.infinite true))]

/-- The word at the head of the text, and what follows it. -/
def readWord? (t : Text) : Option (Json × Text) :=
  words.findSome? fun (word, value) => (Text.dropPrefix? word t).map fun rest => (value, rest)

/-! ## Values -/

/-- The room that a reader has. It takes a piece of the stack for each list or object that it opens
inside another one, so the room depends on the place from which it is called. -/
class Room where
  /-- Lists and objects may be nested so deep. -/
  depth : Nat

/-- The room of a reader that is called from the outer layers of a program. -/
instance (priority := low) usualRoom : Room where
  depth := 990

mutual

/-- A value at the head of the text, in which lists and objects may be nested to a depth. -/
def readValue : (fuel depth : Nat) → Text → Except Stop (Json × Text)
  | 0, _, t => .error (.malformed .value t.length)
  | fuel + 1, depth, t =>
    match t with
    | 0x22 :: rest => do
      let (s, rest) ← readString t.length t.length rest
      return (.str s, rest)
    | 0x7B :: rest =>
      match depth with
      | 0 => .error (.limit .deepObject)
      | depth + 1 =>
        match skipBlanks rest with
        | 0x7D :: after => .ok (.obj [], after)
        | inside => readMembers fuel depth [] inside
    | 0x5B :: rest =>
      match depth with
      | 0 => .error (.limit .deepList)
      | depth + 1 =>
        match skipBlanks rest with
        | 0x5D :: after => .ok (.arr [], after)
        | inside => readItems fuel depth [] inside
    | _ =>
      match readWord? t with
      | some found => .ok found
      | none => readNumber t

/-- The members from a name on, behind those in `table`. -/
def readMembers : (fuel depth : Nat) → Table Text Json → Text → Except Stop (Json × Text)
  | 0, _, _, t => .error (.malformed .value t.length)
  | fuel + 1, depth, table, t =>
    match t with
    | 0x22 :: rest => do
      let (key, rest) ← readString t.length t.length rest
      match skipBlanks rest with
      | 0x3A :: rest =>
        let (value, rest) ← readValue fuel depth (skipBlanks rest)
        let table := Table.insert key value table
        match skipBlanks rest with
        | 0x7D :: rest => return (.obj table, rest)
        | 0x2C :: rest => readMembers fuel depth table (skipBlanks rest)
        | other => throw (.malformed .comma other.length)
      | other => throw (.malformed .colon other.length)
    | other => .error (.malformed .propertyName other.length)

/-- The items from a value on, behind those in `before`, which are in reverse order. -/
def readItems : (fuel depth : Nat) → (before : List Json) → Text → Except Stop (Json × Text)
  | 0, _, _, t => .error (.malformed .value t.length)
  | fuel + 1, depth, before, t => do
    let (value, rest) ← readValue fuel depth t
    match skipBlanks rest with
    | 0x5D :: rest => return (.arr (value :: before).reverse, rest)
    | 0x2C :: rest => readItems fuel depth (value :: before) (skipBlanks rest)
    | other => throw (.malformed .comma other.length)

end

variable [Room]

/-- The value of a whole text without a byte order mark. -/
def readDocument (t : Text) : Except Stop Json := do
  let (value, rest) ← readValue (2 * t.length + 2) Room.depth (skipBlanks t)
  match skipBlanks rest with
  | [] => return value
  | other => throw (.malformed .extraData other.length)

/-- The value of a text that was not decoded from bytes: a byte order mark is a fault. -/
def ofText (t : Text) : Except Fault Json :=
  match t with
  | 0xFEFF :: _ => .error (.malformed .byteOrderMark 1 1 0)
  | _ => (readDocument t).mapError (Stop.locate t)

/-- The value of a byte string in the encoding that its first bytes show. -/
def ofBytes (bytes : Bytes) : Except Fault Json :=
  match (Encoding.detect bytes).decode bytes with
  | .error fault => .error (.encoding fault)
  | .ok t => (readDocument t).mapError (Stop.locate t)

end MentalPoker.Json
