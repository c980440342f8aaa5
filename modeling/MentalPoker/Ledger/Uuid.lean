import MentalPoker.Schema

/-!
# UUIDs

Ids of 32 hexadecimal digits. They are read bare, with hyphens between five groups, and with braces
or `urn:uuid:` around the hyphenated form; they are shown in small letters with hyphens.
-/

namespace MentalPoker

open Schema

/-- An id of 32 hexadecimal digits, which are kept in small letters. -/
structure Uuid where
  digits : Text
  deriving DecidableEq, Repr

namespace Uuid

def hyphen : Nat := 0x2D

/-- The lengths of the groups. -/
def groups : List Nat := [8, 4, 4, 4, 12]

/-- The first groups of the given lengths, with hyphens between them. -/
def hyphenate : List Nat → Text → Text
  | [], _ => []
  | [_], t => t
  | n :: ns, t => t.take n ++ [hyphen] ++ hyphenate ns (t.drop n)

def display (u : Uuid) : Text := hyphenate groups u.digits

/-! ## Reading -/

/-- The id with hyphens inside braces or behind `urn:uuid:`, and how much stands in front of it. -/
def unwrap (t : Text) : Option (Text × Nat) :=
  match Text.dropPrefix? (text "urn:uuid:") t with
  | some rest => some (rest, 9)
  | none =>
    match t with
    | 0x7B :: rest => if rest.getLast? = some 0x7D then some (rest.dropLast, 1) else none
    | _ => none

/-- The digits of the hyphenated form. -/
def ofHyphenated? (t : Text) : Option Text :=
  let digits := t.filter (· ≠ hyphen)
  if digits.all Text.isHexDigit && digits.length = 32 && hyphenate groups digits = t then
    some digits
  else none

/-- The digits of any of the forms. -/
def digits? (t : Text) : Option Text :=
  match unwrap t with
  | some (inner, _) => ofHyphenated? inner
  | none =>
    if t.length = 32 && t.all Text.isHexDigit then some t else ofHyphenated? t

/-- The first character that does not belong into an id, and its place in bytes. -/
def stray? : (place : Nat) → Text → Option (Nat × Nat)
  | _, [] => none
  | place, c :: cs =>
    if c = hyphen || Text.isHexDigit c then stray? (place + 1) cs else some (c, place)

/-- The lengths of the stretches between hyphens. -/
def stretches : Text → List Nat
  | [] => [0]
  | c :: cs =>
    if c = hyphen then 0 :: stretches cs
    else match stretches cs with
      | n :: ns => (n + 1) :: ns
      | [] => [1]

/-- The first group whose length is not what it should be; of the last group the length is taken
from the whole text. -/
def wrongGroup (whole : Nat) : (group : Nat) → List Nat → List Nat → UuidFault
  | group, expected :: more, found :: rest =>
    if more.isEmpty then .groupLength group expected (whole - 24)
    else if expected = found then wrongGroup whole (group + 1) more rest
    else .groupLength group expected found
  | group, _, _ => .groupLength group 0 0

/-- Why a text is no id. -/
def fault (t : Text) : UuidFault :=
  let (inner, offset) := (unwrap t).getD (t, 0)
  match stray? offset inner with
  | some (c, place) => .character c place
  | none =>
    let found := stretches inner
    if found.length = 1 && (unwrap t).isNone then .simpleLength t.length
    else if found.length ≠ 5 then .groupCount found.length
    else wrongGroup t.length 0 groups found

def check (v : Json) : Checked Uuid :=
  match v with
  | .str t => Check.unicode v t fun t =>
    match digits? t.1 with
    | some ds => .good ⟨Text.asciiLower ds⟩
    | none => .fail (.uuidParsing (fault t.1)) v
  | _ => .fail .uuidType v

end Uuid

end MentalPoker
