import MentalPoker.Json.Literal
import MentalPoker.Number.Numeral
import MentalPoker.Number.Scientific

/-!
# Message templates

A message may be a template whose conversions are filled with arguments. A conversion is a percent
sign, optionally a name in parentheses, flags, a width and a precision, and a letter for the kind
of the argument:

* `s`, `r`, `a`: any value, in running text, as a literal, and as a literal in ASCII;
* `d`, `i`, `u`, `o`, `x`, `X`: integers;
* `e`, `f`, `g` and their capitals: numbers;
* `c`: a character.

Two percent signs stand for one.

## Contents

* `Template.Layout`: a conversion that is ready for its argument.
* `Template.convert`: the text of an argument.
* `Template.fill`: the text of a template.
-/

namespace MentalPoker

namespace Template

/-- What a number inside a conversion stands for. -/
inductive Amount where
  | width
  | precision
  deriving DecidableEq, Repr

namespace Amount

def name : Amount → Text
  | width => text "width"
  | precision => text "precision"

/-- The greatest amount of the kind. -/
def most : Amount → Nat
  | width => 0x7FFFFFFFFFFFFFFF
  | precision => 0x7FFFFFFF

/-- The name of the machine's integers that hold amounts of the kind. -/
def machineName : Amount → Text
  | width => text "ssize_t"
  | precision => text "int"

end Amount

end Template

/-- Why a template cannot be filled. -/
inductive TemplateFault where
  | tooFewArguments
  | tooManyArguments
  /-- A conversion has a name, but the arguments have none. -/
  | unnamedArguments
  | unknownName (name : Text)
  /-- The argument is of a kind that the letter does not take. -/
  | wrongKind (letter : Nat)
  | noCharacter
  | notFinite (isNan : Bool)
  | tooLarge
  /-- A width or a precision is spelled with a number that none can be. -/
  | amountTooBig (role : Template.Amount)
  /-- An argument that is to be a width or a precision is a number that none can be. -/
  | argumentTooBig (role : Template.Amount)
  /-- More digits of an integer are asked for than can be counted. -/
  | tooManyDigits
  /-- The text would not fit into memory. -/
  | noMemory
  | incomplete
  | incompleteName
  | unknownLetter (letter place : Nat)
  deriving DecidableEq, Repr

namespace TemplateFault

def message : TemplateFault → Text
  | tooFewArguments => text "not enough arguments for format string"
  | tooManyArguments => text "not all arguments converted during string formatting"
  | unnamedArguments => text "format requires a mapping"
  | unknownName name => Json.quoted name
  | wrongKind letter => text "%" ++ [letter] ++ text " format: a number is required"
  | noCharacter => text "%c arg not in range(0x110000)"
  | notFinite isNan =>
    text (if isNan then "cannot convert float NaN to integer"
      else "cannot convert float infinity to integer")
  | tooLarge => text "int too large to convert to float"
  | amountTooBig role => role.name ++ text " too big"
  | argumentTooBig role => text "Python int too large to convert to C " ++ role.machineName
  | tooManyDigits => text "precision too large"
  | noMemory => []
  | incomplete => text "incomplete format"
  | incompleteName => text "incomplete format key"
  | unknownLetter letter place =>
    let shown := if 31 ≤ letter ∧ letter ≤ 126 then letter else 0x3F
    text "unsupported format character '" ++ [shown] ++ text "' (0x"
      ++ Text.hexPadded 1 letter ++ text ") at index " ++ Text.ofNat place

end TemplateFault

namespace Template

/-! ## Conversions -/

/-- A conversion that is ready for its argument. -/
structure Layout where
  left : Bool
  zeros : Bool
  plus : Bool
  blank : Bool
  alternate : Bool
  width : Nat
  precision : Option Nat
  letter : Nat

/-! ## Layout -/

namespace Layout

/-- A text in a field: on the right, unless the left is asked for. -/
def place (l : Layout) (body : Text) : Text :=
  let space := List.replicate (l.width - body.length) 0x20
  if l.left then body ++ space else space ++ body

/-- A number in a field: zeros, if asked for, stand after the sign. -/
def placeNumber (l : Layout) (lead body : Text) : Text :=
  if l.zeros && !l.left then
    lead ++ List.replicate (l.width - (lead ++ body).length) 0x30 ++ body
  else l.place (lead ++ body)

def sign (l : Layout) (negative : Bool) : Text :=
  if negative then text "-" else if l.plus then text "+" else if l.blank then text " " else []

/-- The first code points, as many as the precision says. -/
def cut (l : Layout) (t : Text) : Text :=
  match l.precision with
  | some n => t.take n
  | none => t

def isCapital (l : Layout) : Bool := 0x41 ≤ l.letter && l.letter ≤ 0x5A

def cased (l : Layout) (t : Text) : Text := if l.isCapital then Text.asciiUpper t else t

/-- The mark of the base of an integer, if it is asked for. -/
def baseMark (l : Layout) : Text :=
  if !l.alternate then []
  else if l.letter = 0x6F then text "0o"
  else if l.letter = 0x78 then text "0x"
  else if l.letter = 0x58 then text "0X"
  else []

/-- An integer; the precision is the least count of digits. -/
def integer (l : Layout) (n : Int) : Text :=
  let base := if l.letter = 0x6F then 8 else if l.letter = 0x78 ∨ l.letter = 0x58 then 16 else 10
  let digits := (Nat.toDigits base n.natAbs).map Char.toNat
  let digits := List.replicate ((l.precision.getD 0) - digits.length) 0x30 ++ digits
  l.placeNumber (l.sign (n < 0) ++ l.baseMark) (l.cased digits)

/-- The most digits that can be asked for. -/
def mostDigits : Nat := 0x7FFFFFFC

/-- An integer, if its digits can be counted. -/
def integer? (l : Layout) (n : Int) : Except TemplateFault Text :=
  if mostDigits < l.precision.getD 0 then .error .tooManyDigits else .ok (l.integer n)

/-- More digits than any number of the format has. -/
def enoughDigits : Nat := 1100

/-- The count of digits to show. Where zeros at the end are dropped, a number has no digits beyond
a certain count. -/
def digitCount (l : Layout) : Nat :=
  let count := l.precision.getD 6
  if Text.lowerPoint l.letter = 0x67 && !l.alternate then min count enoughDigits else count

/-- A number; six places, or six digits, are shown where nothing else is said. -/
def number (l : Layout) (x : Binary64) : Text :=
  let count := l.digitCount
  let size := match Text.lowerPoint l.letter with
    | 0x65 => Binary64.scientificSize l.alternate count x
    | 0x66 => Binary64.fixedSize l.alternate count x
    | _ => Binary64.generalSize l.alternate count x
  l.placeNumber (l.sign (Binary64.isNegative x)) (l.cased size)

end Layout

/-! ## Arguments -/

def integer? : Json → Option Int
  | .int n => some n
  | .bool b => some (if b then 1 else 0)
  | _ => none

/-- A literal whose code points beyond ASCII are spelled out. -/
def asciiLiteral (v : Json) : Text :=
  (Json.literal v).flatMap fun c =>
    if c < 0x80 then [c]
    else if c < 0x100 then text "\\x" ++ Text.hexPadded 2 c
    else if c < 0x10000 then text "\\u" ++ Text.hexPadded 4 c
    else text "\\U" ++ Text.hexPadded 8 c

/-- The text of an argument. Decimal conversions drop the fraction of a number. -/
def convert (l : Layout) (v : Json) : Except TemplateFault Text :=
  match Char.ofNat l.letter with
  | 's' => .ok (l.place (l.cut (Json.display v)))
  | 'r' => .ok (l.place (l.cut (Json.literal v)))
  | 'a' => .ok (l.place (l.cut (asciiLiteral v)))
  | 'c' =>
    match v, integer? v with
    | .str [c], _ => .ok (l.place [c])
    | _, some n =>
      if 0 ≤ n ∧ n < 0x110000 then .ok (l.place [n.toNat]) else .error .noCharacter
    | _, none => .error (.wrongKind l.letter)
  | 'd' | 'i' | 'u' =>
    match v, integer? v with
    | _, some n => l.integer? n
    | .float x, none =>
      match x.truncate? with
      | some n => l.integer? n
      | none => .error (.notFinite (x = .nan))
    | _, none => .error (.wrongKind l.letter)
  | 'o' | 'x' | 'X' =>
    match integer? v with
    | some n => l.integer? n
    | none => .error (.wrongKind l.letter)
  | _ =>
    match v, integer? v with
    | .float x, _ => .ok (l.number x)
    | _, some n =>
      match Binary64.ofInt n with
      | .infinite _ => .error .tooLarge
      | x => .ok (l.number x)
    | _, none => .error (.wrongKind l.letter)

/-- The letters that take an argument. -/
def letters : Text := text "sracdiuoxXeEfFgG"

/-! ## Reading -/

/-- What stands before the parenthesis that closes a name, and what follows it. -/
def readName : (depth : Nat) → Text → Option (Text × Text)
  | _, [] => none
  | depth, c :: cs =>
    if c = 0x29 then
      match depth with
      | 0 => some ([], cs)
      | depth + 1 => (readName depth cs).map fun (name, rest) => (c :: name, rest)
    else
      (readName (if c = 0x28 then depth + 1 else depth) cs).map fun (name, rest) =>
        (c :: name, rest)

/-! ## Filling -/

/-- The arguments that are left, and the names of arguments if they have names. -/
structure Arguments where
  names : Option (Table Text Json)
  rest : List Json

namespace Arguments

/-- Arguments in order; a single object that is not empty gives names. -/
def ofList : List Json → Arguments
  | [.obj (m :: ms)] => ⟨some (m :: ms), [.obj (m :: ms)]⟩
  | args => ⟨none, args⟩

def next (a : Arguments) : Except TemplateFault (Json × Arguments) :=
  match a.rest with
  | [] => .error .tooFewArguments
  | v :: rest => .ok (v, { a with rest := rest })

/-- The argument of a name becomes the one that is left. -/
def select (a : Arguments) (name : Text) : Except TemplateFault Arguments :=
  match a.names with
  | none => .error .unnamedArguments
  | some names =>
    match Table.get? name names with
    | none => .error (.unknownName name)
    | some v => .ok { a with rest := [v] }

end Arguments

/-- What is left of a template, and the arguments for it. -/
abbrev Rest := Text × Arguments

/-- The amount that an argument gives. -/
def argumentAmount (role : Amount) (v : Json) : Except TemplateFault Int :=
  match integer? v with
  | none => .error (.wrongKind 0x2A)
  | some n =>
    if -(role.most + 1 : Int) ≤ n ∧ n ≤ role.most then .ok n else .error (.argumentTooBig role)

/-- An amount at the head of the template: a star for an argument, or a run of digits. -/
def readAmount (role : Amount) (t : Text) (a : Arguments) :
    Except TemplateFault (Option Int × Rest) :=
  match t with
  | 0x2A :: rest => do
    let (v, a) ← a.next
    let n ← argumentAmount role v
    return (some n, rest, a)
  | _ =>
    let digits := t.takeWhile Text.isDigit
    let n := Numeral.value digits
    if digits.isEmpty then .ok (none, t, a)
    else if role.most < n then .error (.amountTooBig role)
    else .ok (some n, t.dropWhile Text.isDigit, a)

/-- The precision behind a point; a point alone asks for zero. -/
def readPrecision (t : Text) (a : Arguments) : Except TemplateFault (Option Int × Rest) :=
  match t with
  | 0x2E :: rest => do
    let (n, rest) ← readAmount .precision rest a
    return (some (n.getD 0), rest)
  | _ => .ok (none, t, a)

def flagPoints : Text := text "-+ #0"

/-- A letter for the size of the argument means nothing. -/
def dropSize (t : Text) : Text :=
  match t with
  | c :: rest => if (text "hlL").contains c then rest else t
  | [] => []

/-- A conversion. A negative width puts the text on the left. -/
def layout (flags : Text) (width precision : Option Int) (letter : Nat) : Layout where
  left := flags.contains 0x2D || width.any (· < 0)
  zeros := flags.contains 0x30
  plus := flags.contains 0x2B
  blank := flags.contains 0x20
  alternate := flags.contains 0x23
  width := (width.getD 0).natAbs
  precision := precision.map Int.toNat
  letter := letter

/-- A conversion after its percent sign and its name, and what follows it. -/
def readLayout (t : Text) (a : Arguments) : Except TemplateFault (Layout × Rest) := do
  let flags := t.takeWhile flagPoints.contains
  let (width, t, a) ← readAmount .width (t.dropWhile flagPoints.contains) a
  let (precision, t, a) ← readPrecision t a
  match dropSize t with
  | [] => .error .incomplete
  | c :: rest => return (layout flags width precision c, rest, a)

/-- Texts of this size fit into no memory. -/
def memorySize : Nat := 0x100000000

/-- A layout that fills nothing up, and that goes wrong when the given one does. -/
def Layout.bare (l : Layout) : Layout :=
  let isWhole := (text "diuoxX").contains l.letter
  { l with
    width := 0
    precision := l.precision.map fun p => if isWhole && Layout.mostDigits < p then p else 0 }

/-- The text of an argument, if there is room for it. On trial nothing is filled up. -/
def convertWithin (trial : Bool) (l : Layout) (v : Json) : Except TemplateFault Text :=
  if l.width < memorySize then convert (if trial then l.bare else l) v
  else do
    let _ ← convert l.bare v
    throw .noMemory

/-- The text of a conversion; `place` is where its letter stands. -/
def fillLayout (trial : Bool) (l : Layout) (place : Nat) (a : Arguments) :
    Except TemplateFault (Text × Arguments) := do
  let (v, a) ← a.next
  if !letters.contains l.letter then throw (.unknownLetter l.letter place)
  let t ← convertWithin trial l v
  return (t, a)

/-- The name of a conversion, if it has one, selects its argument. -/
def fillName (t : Text) (a : Arguments) : Except TemplateFault Rest :=
  match t with
  | 0x28 :: more =>
    match a.names, readName 0 more with
    | none, _ => .error .unnamedArguments
    | some _, none => .error .incompleteName
    | some _, some (name, rest) => (a.select name).map fun a => (rest, a)
  | _ => .ok (t, a)

/-- Fills what is left of a template of `size` code points. -/
def fillFrom (trial : Bool) (size : Nat) :
    (fuel : Nat) → Text → Arguments → Except TemplateFault Text
  | 0, _, _ => .ok []
  | _, [], a => if a.names.isNone && !a.rest.isEmpty then .error .tooManyArguments else .ok []
  | fuel + 1, 0x25 :: 0x25 :: cs, a => (fillFrom trial size fuel cs a).map (0x25 :: ·)
  | fuel + 1, c :: cs, a =>
    if c = 0x25 then do
      let (t, a) ← fillName cs a
      let (l, rest, a) ← readLayout t a
      let (t, a) ← fillLayout trial l (size - rest.length - 1) a
      let more ← fillFrom trial size fuel rest a
      return t ++ more
    else (fillFrom trial size fuel cs a).map (c :: ·)

/-- The text of a template. Without arguments it is no template, and stays as it is. Nothing is
filled up before a trial has shown that all of the template can be filled. -/
def fill (template : Text) (args : List Json) : Except TemplateFault Text :=
  let run (trial : Bool) :=
    fillFrom trial template.length (template.length + 1) template (.ofList args)
  if args.isEmpty then .ok template
  else do
    let _ ← run true
    run false

end Template

end MentalPoker
