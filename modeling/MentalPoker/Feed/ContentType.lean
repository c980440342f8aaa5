import MentalPoker.Charset.Name
import MentalPoker.Schema.Numeral
import MentalPoker.Text.Blank

/-!
# Content types

A content type is a media type with parameters behind it, separated by semicolons. The value of a
parameter may stand in quotes, and may come in parts: then its name is followed by a star, by the
number of the part, or by both, and a star behind all of it says that the value is written with
percent signs and starts with a charset and a language of its own.

## Contents

* `ContentType.parameters`: the parameters, the media type being the first of them.
* `ContentType.charset`: the charset that a content type announces.
-/

namespace MentalPoker.ContentType

/-! ## Parameters -/

/-- A character in front of the first of some texts. -/
def onFirst (c : Nat) : List Text → List Text
  | [] => [[c]]
  | t :: ts => (c :: t) :: ts

/-- Splits at semicolons outside quotes. A quote behind a backslash is an ordinary character. -/
def pieces (quoted escaped : Bool) : Text → List Text
  | [] => [[]]
  | c :: rest =>
    if c = 0x3B && !quoted then [] :: pieces false false rest
    else onFirst c (pieces (if c = 0x22 && !escaped then !quoted else quoted) (c = 0x5C) rest)

/-- Writes `c` for each `a` with a `b` behind it. -/
def contract (a b c : Nat) : Text → Text
  | x :: y :: rest =>
    if x = a ∧ y = b then c :: contract a b c rest else x :: contract a b c (y :: rest)
  | t => t

/-- A value without its quotes, or without the angles around it. -/
def unquote (t : Text) : Text :=
  let inner := t.dropLast.drop 1
  if t.length < 2 then t
  else if t.head? = some 0x22 && t.getLast? = some 0x22 then
    contract 0x5C 0x22 0x22 (contract 0x5C 0x5C 0x5C inner)
  else if t.head? = some 0x3C && t.getLast? = some 0x3E then inner
  else t

/-- The name of a piece, and its value. -/
def parameter (piece : Text) : Text × Text :=
  match Text.splitFirst 0x3D piece with
  | (name, some value) => (Text.asciiLower (Text.trimBlanks name), unquote (Text.trimBlanks value))
  | (name, none) => (Text.trimBlanks name, [])

def parameters (contentType : Text) : List (Text × Text) :=
  (pieces false false contentType).map parameter

/-! ## Values in parts -/

/-- A part of a value. -/
structure Part where
  /-- The name of the parameter, to which all of the parts belong. -/
  name : Text
  number : Option Nat
  /-- It is written with percent signs. -/
  encoded : Bool
  value : Text
  deriving DecidableEq, Repr

namespace Part

def isWordPoint (c : Nat) : Bool :=
  Text.isDigit c || (0x61 ≤ Text.lowerPoint c && Text.lowerPoint c ≤ 0x7A) || c = 0x5F

/-- The part that a parameter is, if its name says so. -/
def ofParameter? (p : Text × Text) : Option Part :=
  match Text.splitFirst 0x2A p.1 with
  | (_, none) => none
  | (name, some mark) =>
    let number := mark.takeWhile Text.isDigit
    let rest := mark.dropWhile Text.isDigit
    if name.isEmpty || !name.all isWordPoint then none
    else if mark.isEmpty then some ⟨name, none, true, p.2⟩
    else if number.isEmpty || (rest ≠ [] && rest ≠ [0x2A]) then none
    else some ⟨name, some (Numeral.value number), rest ≠ [], p.2⟩

/-- Parts are put together by their numbers; parts of one number by what they say. -/
def precedes (a b : Part) : Bool :=
  if a.number ≠ b.number then a.number.getD 0 < b.number.getD 0
  else if a.value ≠ b.value then a.value < b.value
  else b.encoded || !a.encoded

/-- Characters that are spelled with a percent sign and two digits. -/
def unescape : Text → Text
  | 0x25 :: a :: b :: rest =>
    match Text.hexValue? a, Text.hexValue? b with
    | some high, some low => (16 * high + low) :: unescape rest
    | _, _ => 0x25 :: unescape (a :: b :: rest)
  | c :: rest => c :: unescape rest
  | [] => []

def shown (p : Part) : Text := if p.encoded then unescape p.value else p.value

/-- The parts of one name cannot be put in order if some of them have a number and others have
none. -/
def orderFault? (parts : List Part) : Option CharsetFault :=
  parts.findSome? fun p =>
    match parts.filter fun q => q.name = p.name with
    | [] => none
    | first :: rest =>
      if rest.any fun q => q.number.isSome != first.number.isSome then
        some (.mixedParts first.number.isSome)
      else none

end Part

/-! ## Charsets -/

/-- Content types are written in ASCII. -/
def fault? (contentType : Text) : Option CharsetFault :=
  let (plain, rest) := contentType.span fun c => c < 0x80
  let others := rest.takeWhile fun c => 0x80 ≤ c
  others.head?.map fun c => .contentType plain.length (plain.length + others.length) c

def charsetWord : Text := text "charset"

/-- The charset with a name. -/
def named (name : Text) : Except CharsetFault (Option Charset) :=
  if name.contains 0 then .error .zeroInName else .ok (Charset.ofName? name)

/-- A value that is written in a charset of its own; it stays as it is if it cannot be read. -/
def reread (charsetName value : Text) : Except CharsetFault Text := do
  let some charset ← named charsetName | return value
  match charset.decode true (value.map Nat.toUInt8) with
  | .ok chunk => return if chunk.text.contains Utf8.replacement then value else chunk.text
  | .error _ => return value

/-- The charset in front of a value that is written with percent signs, and the value. -/
def ownCharset (t : Text) : Text × Text :=
  match Text.splitFirst 0x27 t with
  | (charset, some rest) =>
    match Text.splitFirst 0x27 rest with
    | (_, some value) => (charset, value)
    | _ => ([], t)
  | _ => ([], t)

/-- The name that parts make up. -/
def ofParts (parts : List Part) : Except CharsetFault Text := do
  let value := (parts.mergeSort Part.precedes).flatMap Part.shown
  if parts.any Part.encoded then
    let (charset, value) := ownCharset value
    reread (if charset.isEmpty then text "ascii" else charset) value
  else return value

/-- The name of the charset that a content type announces. A name in one part goes before one in
several. -/
def charsetName? (contentType : Text) : Except CharsetFault (Option Text) := do
  let isCharset (name : Text) := Text.asciiLower name = charsetWord
  let all := parameters contentType
  let parts := (all.drop 1).filterMap Part.ofParameter?
  if let some fault := Part.orderFault? parts then throw fault
  match all.find? fun p => isCharset p.1 with
  | some p => return some p.2
  | none =>
    match parts.find? fun p => isCharset p.name with
    | none => return none
    | some first => return some (← ofParts (parts.filter fun p => p.name = first.name))

/-- The charset that a content type announces. Names that are not known stand for UTF-8. -/
def charset (contentType : Text) : Except CharsetFault Charset := do
  match ← charsetName? contentType with
  | none => return .utf8
  | some name =>
    if name.any fun c => 0x80 ≤ c then return .utf8
    ((← named name).getD .utf8).start

end MentalPoker.ContentType
