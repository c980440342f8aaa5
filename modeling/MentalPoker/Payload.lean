import MentalPoker.Failure
import MentalPoker.Json.Literal
import MentalPoker.Schema

/-!
# Payloads

What enters from outside: a JSON text, its bytes, or a value that was read before. Decoding a
payload either gives a typed value or one of the faults below, each with its message.

## Contents

* `DecodeFault`, with `message`, `issues` and `failure?`.
* `Payload.load`: the object that a payload holds.
-/

namespace MentalPoker

open Schema

/-- Why a payload does not decode. -/
inductive DecodeFault where
  /-- It is no JSON. -/
  | json (fault : Json.Fault)
  /-- It is a text beyond the limits of the reader. -/
  | limit (l : Json.Limit)
  /-- It is no object. -/
  | notObject (found : Json)
  /-- It does not fit the schema of what `subject` names. -/
  | invalid (subject : Text) (issues : List Issue)
  /-- It contradicts itself. -/
  | inconsistent (complaint : Text)

namespace DecodeFault

/-- The message, without the list of issues. -/
def message : DecodeFault → Text
  | json fault => text "Invalid JSON: " ++ fault.message
  | limit l => l.message
  | notObject found => text "Expected a JSON object, got " ++ found.kindName
  | invalid subject _ => text "Invalid " ++ subject
  | inconsistent complaint => complaint

/-- What the schema found. -/
def issues : DecodeFault → List Issue
  | invalid _ issues => issues
  | _ => []

/-- Receivers drop a payload that does not decode. A text beyond the limits of the reader stops
them. -/
def failure? : DecodeFault → Option Failure
  | limit l => some (.limit l)
  | _ => none

/-- The fault of reading a JSON text. -/
def ofReader : Json.Fault → DecodeFault
  | .limit l => .limit l
  | fault => json fault

end DecodeFault

abbrev Decoded (α : Type) := Except DecodeFault α

/-- What enters from outside. -/
inductive Payload where
  | value (v : Json)
  | text (t : Text)
  | bytes (b : Bytes)

namespace Payload

/-- A string is a JSON text of its own; all else is a value. -/
def ofJson : Json → Payload
  | .str t => text t
  | v => value v

def read [Json.Room] : Payload → Decoded Json
  | value v => .ok v
  | text t => (Json.ofText t).mapError .ofReader
  | bytes b => (Json.ofBytes b).mapError .ofReader

/-- The members of the object that the payload holds. -/
def load [Json.Room] (p : Payload) : Decoded (Table Text Json) :=
  match p.read with
  | .error fault => .error fault
  | .ok (.obj members) => .ok members
  | .ok v => .error (.notObject v)

end Payload

/-- The value of a schema check, or its issues as a fault of `subject`. -/
def Schema.Checked.decoded (subject : List Issue → Text) : Checked α → Decoded α
  | good a => .ok a
  | bad issues => .error (.invalid (subject issues) issues)

end MentalPoker
