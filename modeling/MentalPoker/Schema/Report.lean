import MentalPoker.Json.Literal
import MentalPoker.Schema
import MentalPoker.Text.Encoding

/-!
# Reports of schema checks

How the issues of a check read in a message: a line with their count, and for each issue where it
was found, what is wrong, the value that was there, and where the kind of issue is explained.
-/

namespace MentalPoker.Schema

namespace UuidFault

/-- The part of a message that says why a text is no UUID. -/
def message : UuidFault → Text
  | character point at_ =>
    text "invalid character: found `" ++ [point] ++ text "` at " ++ Text.ofNat at_
  | simpleLength found =>
    text "invalid length: expected length 32 for simple format, found " ++ Text.ofNat found
  | groupCount found => text "invalid group count: expected 5, found " ++ Text.ofNat found
  | groupLength group expected found =>
    text "invalid group length in group " ++ Text.ofNat group ++ text ": expected "
      ++ Text.ofNat expected ++ text ", found " ++ Text.ofNat found

end UuidFault

/-- Words in quotes, the last two joined by `or`. -/
def choice (names : List Text) : Text :=
  let shown := names.map Json.quoted
  match shown.getLast? with
  | none => []
  | some last =>
    match shown.dropLast with
    | [] => last
    | others => Text.join (text ", ") others ++ text " or " ++ last

/-- The counted noun. -/
def counted (n : Nat) (noun : String) : Text :=
  Text.ofNat n ++ text " " ++ text noun ++ (if n = 1 then [] else text "s")

namespace Kind

def message : Kind → Text
  | missing => text "Field required"
  | modelType model => text "Input should be a valid dictionary or instance of " ++ model
  | attributesType => text "Input should be a valid dictionary or object to extract fields from"
  | intType => text "Input should be a valid integer"
  | intParsing => text "Input should be a valid integer, unable to parse string as an integer"
  | intFromFloat => text "Input should be a valid integer, got a number with a fractional part"
  | intParsingSize => text "Unable to parse input string as an integer, exceeded maximum size"
  | finiteNumber => text "Input should be a finite number"
  | atLeast bound => text "Input should be greater than or equal to " ++ Text.ofInt bound
  | atMost bound => text "Input should be less than or equal to " ++ Text.ofInt bound
  | stringType => text "Input should be a valid string"
  | stringUnicode =>
    text "Input should be a valid string, unable to parse raw data as a unicode string"
  | stringTooShort least => text "String should have at least " ++ counted least "character"
  | stringPattern pattern => text "String should match pattern '" ++ pattern ++ text "'"
  | boolType => text "Input should be a valid boolean"
  | boolParsing => text "Input should be a valid boolean, unable to interpret input"
  | listType => text "Input should be a valid list"
  | tooShort least => text "List should have at least " ++ counted least "item"
      ++ text " after validation"
  | tooLong most => text "List should have at most " ++ counted most "item"
      ++ text " after validation"
  | dictType => text "Input should be a valid dictionary"
  | enumeration names => text "Input should be " ++ choice names
  | literal names => text "Input should be " ++ choice names
  | uuidType => text "UUID input should be a string, bytes or UUID object"
  | uuidParsing fault => text "Input should be a valid UUID, " ++ fault.message
  | tagNotFound => text "Unable to extract tag using discriminator 'type'"
  | tagInvalid => text "Input tag does not match any of the expected tags"
  | extraForbidden => text "Extra inputs are not permitted"
  | valueError message => text "Value error, " ++ message

end Kind

/-! ## Shown values -/

/-- Long literals are shown by their first and last bytes. -/
def shownBytes : Nat := 50

/-- The longest start of the text of at most `n` bytes, and the rest. -/
def splitBytes : (n : Nat) → Text → Text × Text
  | _, [] => ([], [])
  | n, c :: cs =>
    let size := (Utf8.encodePoint c).length
    if size ≤ n then
      let (start, rest) := splitBytes (n - size) cs
      (c :: start, rest)
    else ([], c :: cs)

/-- The longest end of the text of at most `n` bytes. -/
def lastBytes (n : Nat) (t : Text) : Text := (splitBytes n t.reverse).1.reverse

/-- The text, or its two ends when it is long. -/
def shorten (t : Text) : Text :=
  if (Utf8.encode t).length ≤ shownBytes then t
  else (splitBytes (shownBytes / 2) t).1 ++ text "..." ++ lastBytes (shownBytes / 2 - 1) t

/-! ## The report -/

namespace Step

def display : Step → Text
  | key name => name
  | index i => Text.ofNat i

end Step

/-- Where the kinds of issue are explained. -/
def manual : Text := text "https://errors.pydantic.dev/2.14/v/"

namespace Issue

/-- The lines about one issue. -/
def report (i : Issue) : Text :=
  let place := match i.loc with
    | [] => []
    | loc => Text.join (text ".") (loc.map Step.display) ++ text "\n"
  place ++ text "  " ++ i.kind.message ++ text " [type=" ++ i.kind.name ++ text ", input_value="
    ++ shorten i.input.literal ++ text ", input_type=" ++ i.input.kindName ++ text "]\n"
    ++ text "    For further information visit " ++ manual ++ i.kind.name

end Issue

/-- The report on what was to be a `model`. -/
def report (model : Text) (issues : List Issue) : Text :=
  counted issues.length "validation error" ++ text " for " ++ model
    ++ (issues.flatMap fun i => text "\n" ++ i.report)

end MentalPoker.Schema
