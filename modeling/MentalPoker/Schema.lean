import MentalPoker.Json
import MentalPoker.Schema.Numeral

/-!
# Schema checks

Checks that turn JSON values into typed values. A check either gives the value or lists every
issue that it found, in the order of the fields; issues of independent parts add up
(`Checked.seq`). An issue knows where it was found, what was wrong and the value that was there.

## Contents

* `Issue`, `Kind`: what a check reports.
* `Checked`: the result of a check; an applicative functor that collects issues.
* `FieldName`, `required`, `optional`, `defaulted`: fields of objects.
* `Check.int`, `Check.string`, `Check.list`, …: checks of single values.
-/

namespace MentalPoker.Schema

/-! ## Issues -/

/-- One step from a value to a part of it, or into an alternative. -/
inductive Step where
  | key (name : Text)
  | index (i : Nat)
  deriving DecidableEq, Repr

/-- Why a text is no UUID. -/
inductive UuidFault where
  | character (point at_ : Nat)
  | simpleLength (found : Nat)
  | groupCount (found : Nat)
  | groupLength (group expected found : Nat)
  deriving DecidableEq, Repr

/-- What is wrong with a value. -/
inductive Kind where
  | missing
  | modelType (model : Text)
  | attributesType
  | intType
  | intParsing
  | intFromFloat
  | intParsingSize
  | finiteNumber
  | atLeast (bound : Int)
  | atMost (bound : Int)
  | stringType
  | stringUnicode
  | stringTooShort (least : Nat)
  | stringPattern (pattern : Text)
  | boolType
  | boolParsing
  | listType
  | tooShort (least : Nat)
  | tooLong (most : Nat)
  | dictType
  | enumeration (names : List Text)
  | literal (names : List Text)
  | uuidType
  | uuidParsing (fault : UuidFault)
  | tagNotFound
  | tagInvalid
  | extraForbidden
  | valueError (message : Text)
  deriving DecidableEq, Repr

namespace Kind

/-- The name under which reports list the kind. -/
def name : Kind → Text
  | missing => text "missing"
  | modelType _ => text "model_type"
  | attributesType => text "model_attributes_type"
  | intType => text "int_type"
  | intParsing => text "int_parsing"
  | intFromFloat => text "int_from_float"
  | intParsingSize => text "int_parsing_size"
  | finiteNumber => text "finite_number"
  | atLeast _ => text "greater_than_equal"
  | atMost _ => text "less_than_equal"
  | stringType => text "string_type"
  | stringUnicode => text "string_unicode"
  | stringTooShort _ => text "string_too_short"
  | stringPattern _ => text "string_pattern_mismatch"
  | boolType => text "bool_type"
  | boolParsing => text "bool_parsing"
  | listType => text "list_type"
  | tooShort _ => text "too_short"
  | tooLong _ => text "too_long"
  | dictType => text "dict_type"
  | enumeration _ => text "enum"
  | literal _ => text "literal_error"
  | uuidType => text "uuid_type"
  | uuidParsing _ => text "uuid_parsing"
  | tagNotFound => text "union_tag_not_found"
  | tagInvalid => text "union_tag_invalid"
  | extraForbidden => text "extra_forbidden"
  | valueError _ => text "value_error"

end Kind

/-- Something wrong with the value `input`, found at `loc`. -/
structure Issue where
  loc : List Step
  kind : Kind
  input : Json
  deriving DecidableEq

/-! ## Results of checks -/

/-- The value, or everything that is wrong. -/
inductive Checked (α : Type) where
  | good (value : α)
  | bad (issues : List Issue)

namespace Checked

variable {α β : Type}

def map (f : α → β) : Checked α → Checked β
  | good a => good (f a)
  | bad issues => bad issues

/-- Independent results: the issues of both count. -/
def seq (f : Checked (α → β)) (x : Unit → Checked α) : Checked β :=
  match f, x () with
  | good f, good a => good (f a)
  | good _, bad issues => bad issues
  | bad issues, good _ => bad issues
  | bad issues, bad more => bad (issues ++ more)

instance : Applicative Checked where
  pure := good
  map := map
  seq := seq

/-- A check of what another check gave; it is made only when the first succeeds. -/
def andThen (x : Checked α) (f : α → Checked β) : Checked β :=
  match x with
  | good a => f a
  | bad issues => bad issues

/-- The issues are found one step further inside. -/
def under (step : Step) : Checked α → Checked α
  | good a => good a
  | bad issues => bad (issues.map fun issue => { issue with loc := step :: issue.loc })

/-- Further issues of a failed check. -/
def also (x : Checked α) (more : List Issue) : Checked α :=
  match x with
  | good a => good a
  | bad issues => bad (issues ++ more)

def toOption : Checked α → Option α
  | good a => some a
  | bad _ => none

/-- A single issue at the value itself. -/
def fail (kind : Kind) (input : Json) : Checked α := bad [⟨[], kind, input⟩]

@[simp] theorem map_good (f : α → β) (a : α) : f <$> good a = good (f a) := rfl

@[simp] theorem seq_good (f : α → β) (a : α) : good f <*> good a = good (f a) := rfl

@[simp] theorem under_good (s : Step) (a : α) : under s (good a) = good a := rfl

end Checked

/-! ## Fields -/

/-- The spellings of a field. The first is read first, and names the field when it is missing. -/
structure FieldName where
  first : Text
  second : Option Text
  deriving DecidableEq, Repr

/-- Underscores go and the letter behind each becomes a capital. -/
def camelCase : Text → Text
  | [] => []
  | 0x5F :: c :: rest => Text.upperPoint c :: camelCase rest
  | c :: rest => c :: camelCase rest

namespace FieldName

/-- A field of the wire format: in camel case, or with underscores. -/
def wire (name : String) : FieldName := ⟨camelCase (text name), some (text name)⟩

/-- A field with a single spelling. -/
def plain (name : String) : FieldName := ⟨text name, none⟩

/-- A field with an alternative to its first spelling. -/
def either (first second : String) : FieldName := ⟨text first, some (text second)⟩

/-- The spelling that is present, and its value. -/
def find? (name : FieldName) (members : Table Text Json) : Option (Text × Json) :=
  match Table.get? name.first members with
  | some v => some (name.first, v)
  | none => name.second.bind fun key => (Table.get? key members).map fun v => (key, v)

end FieldName

variable {α : Type}

/-- A field that has to be there. -/
def required (name : FieldName) (members : Table Text Json) (check : Json → Checked α) :
    Checked α :=
  match name.find? members with
  | some (key, v) => (check v).under (.key key)
  | none => .bad [⟨[.key name.first], .missing, .obj members⟩]

/-- A field that may be missing or null. -/
def optional (name : FieldName) (members : Table Text Json) (check : Json → Checked α) :
    Checked (Option α) :=
  match name.find? members with
  | some (_, .null) => .good none
  | some (key, v) => ((check v).map some).under (.key key)
  | none => .good none

/-- A field with a value to use when it is missing. -/
def defaulted (name : FieldName) (members : Table Text Json) (default : α)
    (check : Json → Checked α) : Checked α :=
  match name.find? members with
  | some (key, v) => (check v).under (.key key)
  | none => .good default

/-! ## Single values -/

namespace Check

/-- The members of an object. -/
def model (name : String) (v : Json) : Checked (Table Text Json) :=
  match v with
  | .obj members => .good members
  | _ => .fail (.modelType (text name)) v

/-- A text without surrogates, for a further check. -/
def unicode (v : Json) (t : Text) (check : Text.Unicode → Checked α) : Checked α :=
  if h : Text.isUnicode t = true then check ⟨t, h⟩ else .fail .stringUnicode v

/-- The size of words: numbers of this size and beyond are no words. -/
def wordBound : Nat := 0x8000000000000000

/-- An integer. Booleans count as 0 and 1; numbers without a fraction and numerals are taken. -/
def int (v : Json) : Checked Int :=
  match v with
  | .int n => .good n
  | .bool b => .good (if b then 1 else 0)
  | .float (.finite s m e) =>
    match (Binary64.finite s m e).toInt? with
    | none => .fail .intFromFloat v
    | some n => if n.natAbs < wordBound then .good n else .fail .intParsingSize v
  | .float _ => .fail .finiteNumber v
  | .str t => unicode v t fun t =>
    match FieldNumeral.read t.1 with
    | .integer n => .good n
    | .tooLong => .fail .intParsingSize v
    | .malformed => .fail .intParsing v
  | _ => .fail .intType v

/-- An integer from `low` on. -/
def intFrom (low : Int) (v : Json) : Checked Int :=
  (int v).andThen fun n => if low ≤ n then .good n else .fail (.atLeast low) v

/-- A natural number. -/
def nat (v : Json) : Checked Nat := (intFrom 0 v).map Int.toNat

/-- An integer from `low` to `low + n`, given by its distance from `low`. -/
def range (low : Int) (n : Nat) (v : Json) : Checked (Fin (n + 1)) :=
  (int v).andThen fun k =>
    if k < low then .fail (.atLeast low) v
    else if h : (k - low).toNat < n + 1 then .good ⟨(k - low).toNat, h⟩
    else .fail (.atMost (low + n)) v

/-- A natural number up to `n`. -/
def upTo (n : Nat) (v : Json) : Checked (Fin (n + 1)) := range 0 n v

/-- A text of any code points. -/
def string (v : Json) : Checked Text :=
  match v with
  | .str t => .good t
  | _ => .fail .stringType v

/-- A text that further rules look into. -/
def unicodeString (v : Json) : Checked Text.Unicode :=
  (string v).andThen fun t => unicode v t .good

/-- The texts that mean true. -/
def trueWords : List Text := ["1", "on", "t", "true", "y", "yes"].map text

/-- The texts that mean false. -/
def falseWords : List Text := ["0", "off", "f", "false", "n", "no"].map text

/-- A truth value. The numbers 0 and 1 and some words, in any case, are taken; integers beyond a
word are not looked at. -/
def bool (v : Json) : Checked Bool :=
  match v with
  | .bool b => .good b
  | .int n => if -(wordBound : Int) ≤ n ∧ n < wordBound then ofInt n else .fail .boolType v
  | .float x =>
    match x.toInt? with
    | some n => if n.natAbs < wordBound then ofInt n else .fail .boolType v
    | none => .fail .boolType v
  | .str t => unicode v t fun t =>
    let word := Text.asciiLower t.1
    if trueWords.contains word then .good true
    else if falseWords.contains word then .good false
    else .fail .boolParsing v
  | _ => .fail .boolType v
where
  ofInt (n : Int) : Checked Bool :=
    if n = 1 then .good true else if n = 0 then .good false else .fail .boolParsing v

/-- Items checked one after another, the first of them at index `i`. -/
def items (check : Json → Checked α) : (i : Nat) → List Json → Checked (List α)
  | _, [] => .good []
  | i, v :: rest => List.cons <$> (check v).under (.index i) <*> items check (i + 1) rest

/-- A list of any length. -/
def list (check : Json → Checked α) (v : Json) : Checked (List α) :=
  match v with
  | .arr vs => items check 0 vs
  | _ => .fail .listType v

/-- A list of `n` items. Of too many none is checked; too few are reported when all are good. -/
def listOf (n : Nat) (check : Json → Checked α) (v : Json) :
    Checked { xs : List α // xs.length = n } :=
  match v with
  | .arr vs =>
    if n < vs.length then .fail (.tooLong n) v
    else (items check 0 vs).andThen fun xs =>
      if h : xs.length = n then .good ⟨xs, h⟩ else .fail (.tooShort n) v
  | _ => .fail .listType v

/-- An object whose members are not looked into. -/
def dict (v : Json) : Checked (Table Text Json) :=
  match v with
  | .obj members => .good members
  | _ => .fail .dictType v

/-- One of several words. -/
def word (kind : List Text → Kind) (words : List (Text × α)) (v : Json) : Checked α :=
  match v with
  | .str t => unicode v t fun t =>
    match Table.get? t.1 words with
    | some a => .good a
    | none => .fail (kind (words.map Prod.fst)) v
  | _ => .fail (kind (words.map Prod.fst)) v

/-- The members of an object besides the one at `used` are not wanted. -/
def noOthers (used : Option Text) (members : Table Text Json) : Checked Unit :=
  match members.filter fun entry => used ≠ some entry.1 with
  | [] => .good ()
  | others => .bad (others.map fun (key, v) => ⟨[.key key], .extraForbidden, v⟩)

/-- The first key that is not proper Unicode. -/
def improperKey? (members : Table Text Json) : Option Text :=
  (members.map Prod.fst).find? fun key => !Text.isUnicode key

/-- An object with a single field. Where a key cannot be compared with the name of the field,
nothing else is said. -/
def only (model : String) (name : FieldName) (check : Json → Checked α) (v : Json) : Checked α :=
  (Check.model model v).andThen fun members =>
    match improperKey? members with
    | some key => .fail .stringUnicode (.str key)
    | none =>
      (fun a _ => a) <$> required name members check
        <*> noOthers ((name.find? members).map Prod.fst) members

/-- The first of several checks that succeeds; when none does, the issues of all of them, each
under the name of its check. -/
def firstOf : List (Text × (Json → Checked α)) → Json → Checked α
  | [], _ => .bad []
  | (name, check) :: rest, v =>
    match check v with
    | .good a => .good a
    | .bad issues =>
      match firstOf rest v with
      | .good a => .good a
      | .bad more => ((Checked.bad issues).under (.key name)).also more

/-- An object whose member `tag` tells which of several checks applies. -/
def tagged (tag : String) (branches : List (Text × (Table Text Json → Checked α))) (v : Json) :
    Checked α :=
  match v with
  | .obj members =>
    match Table.get? (text tag) members with
    | none => .fail .tagNotFound v
    | some (.str name) =>
      match Table.get? name branches with
      | some check => (check members).under (.key name)
      | none => .fail .tagInvalid v
    | some _ => .fail .tagInvalid v
  | _ => .fail .attributesType v

end Check

end MentalPoker.Schema
