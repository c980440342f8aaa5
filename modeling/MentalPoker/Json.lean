import MentalPoker.Number.Binary64
import MentalPoker.Table
import MentalPoker.Text

/-!
# JSON values

The values of a JSON text: integers of any size apart from binary64 numbers, texts that may hold
lone surrogates, and objects whose keys keep their order.

## Contents

* `Json`, with decidable equality.
* `Json.truthy`: what counts as given where a field falls back to a default.
* `Json.isStrict`: the value can be written for others to read.
* `Json.kindName`: the word for the kind of a value in error texts.
* `Json.equalsInt`: numeric equality, under which booleans are 0 and 1.
-/

namespace MentalPoker

/-- A JSON value. -/
inductive Json where
  | null
  | bool (b : Bool)
  | int (n : Int)
  | float (x : Binary64)
  | str (s : Text)
  | arr (items : List Json)
  | obj (members : List (Text × Json))
  deriving Inhabited, Repr

namespace Json

/-! ## Equality -/

mutual

/-- Equality of two values, by recursion on the first. -/
def same : Json → Json → Bool
  | .null, .null => true
  | .bool a, .bool b => a == b
  | .int a, .int b => a == b
  | .float a, .float b => decide (a = b)
  | .str a, .str b => a == b
  | .arr a, .arr b => sameItems a b
  | .obj a, .obj b => sameMembers a b
  | _, _ => false

def sameItems : List Json → List Json → Bool
  | [], [] => true
  | a :: as, b :: bs => same a b && sameItems as bs
  | _, _ => false

def sameMembers : List (Text × Json) → List (Text × Json) → Bool
  | [], [] => true
  | (k, a) :: as, (j, b) :: bs => k == j && same a b && sameMembers as bs
  | _, _ => false

end

mutual

theorem same_iff : ∀ a b : Json, same a b = true ↔ a = b
  | .null, b => by cases b <;> simp [same]
  | .bool a, b => by cases b <;> simp [same]
  | .int a, b => by cases b <;> simp [same]
  | .float a, b => by cases b <;> simp [same]
  | .str a, b => by cases b <;> simp [same]
  | .arr a, .arr b => by simp [same, sameItems_iff a b]
  | .obj a, .obj b => by simp [same, sameMembers_iff a b]
  | .arr a, .null | .arr a, .bool _ | .arr a, .int _ | .arr a, .float _ | .arr a, .str _
  | .arr a, .obj _ => by simp [same]
  | .obj a, .null | .obj a, .bool _ | .obj a, .int _ | .obj a, .float _ | .obj a, .str _
  | .obj a, .arr _ => by simp [same]

theorem sameItems_iff : ∀ a b : List Json, sameItems a b = true ↔ a = b
  | [], [] => by simp [sameItems]
  | [], _ :: _ => by simp [sameItems]
  | _ :: _, [] => by simp [sameItems]
  | a :: as, b :: bs => by simp [sameItems, same_iff a b, sameItems_iff as bs]

theorem sameMembers_iff : ∀ a b : List (Text × Json), sameMembers a b = true ↔ a = b
  | [], [] => by simp [sameMembers]
  | [], _ :: _ => by simp [sameMembers]
  | _ :: _, [] => by simp [sameMembers]
  | (k, a) :: as, (j, b) :: bs => by
    simp [sameMembers, same_iff a b, sameMembers_iff as bs, Prod.ext_iff, and_assoc]

end

instance : DecidableEq Json := fun a b => decidable_of_iff _ (same_iff a b)

/-! ## Short forms -/

/-- A value whose text is a literal. -/
def lit (s : String) : Json := .str (text s)

/-- An object whose keys are literals. -/
def object (members : List (String × Json)) : Json :=
  .obj (members.map fun (k, v) => (text k, v))

def nat (n : Nat) : Json := .int n

/-- The value, or null when there is none. -/
def ofOption (f : α → Json) : Option α → Json
  | none => .null
  | some a => f a

/-- The members of an object. -/
def members? : Json → Option (Table Text Json)
  | .obj members => some members
  | _ => none

/-- The value at a key of an object; null when it is absent or the value is no object. -/
def member (key : String) : Json → Json
  | .obj members => (Table.get? (text key) members).getD .null
  | _ => .null

/-- The value is an object with the key. -/
def has (key : String) : Json → Bool
  | .obj members => Table.has (text key) members
  | _ => false

/-! ## Views -/

/-- Null, false, zero and everything empty are not truthy; all else is. -/
def truthy : Json → Bool
  | .null => false
  | .bool b => b
  | .int n => n != 0
  | .float x => !x.isZero
  | .str s => !s.isEmpty
  | .arr items => !items.isEmpty
  | .obj members => !members.isEmpty

/-- The value is a number equal to `n`; booleans count as 0 and 1. -/
def equalsInt (v : Json) (n : Int) : Bool :=
  match v with
  | .bool b => (if b then 1 else 0) == n
  | .int m => m == n
  | .float x => x.equalsInt n
  | _ => false

mutual

/-- Others can read the value: no text in it holds a lone surrogate, and all numbers are finite. -/
def isStrict : Json → Bool
  | .str t => Text.isUnicode t
  | .float x => x.isFinite
  | .arr items => areStrict items
  | .obj members => membersAreStrict members
  | _ => true

def areStrict : List Json → Bool
  | [] => true
  | v :: rest => isStrict v && areStrict rest

def membersAreStrict : List (Text × Json) → Bool
  | [] => true
  | (k, v) :: rest => Text.isUnicode k && isStrict v && membersAreStrict rest

end

/-- The word for the kind of a value in error texts. -/
def kindName : Json → Text
  | .null => text "NoneType"
  | .bool _ => text "bool"
  | .int _ => text "int"
  | .float _ => text "float"
  | .str _ => text "str"
  | .arr _ => text "list"
  | .obj _ => text "dict"

end Json

end MentalPoker
