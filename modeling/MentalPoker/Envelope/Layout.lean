import MentalPoker.Json

/-!
# Layouts of a recorded envelope

The fields that the ledger adds when it records an envelope stand next to the key `envelope`. Some
producers put them inside the envelope, others write the fields of the envelope next to them, with
no key `envelope` at all. `Layout.merge` brings all three layouts to the first.

## Contents

* `Layout.merge`: the nested layout of any layout.
-/

namespace MentalPoker.Layout

/-- Both spellings of a field, the one with underscores first. -/
abbrev Names := Text × Text

/-- The fields that recording adds. -/
def finalizedFields : List Names :=
  [(text "snapshot_status", text "snapshotStatus"),
    (text "applied_phase", text "appliedPhase"),
    (text "snapshot_sequence_id", text "snapshotSequenceId"),
    (text "created_timestamp", text "createdTimestamp")]

/-- The fields of the envelope itself. -/
def envelopeFields : List Names :=
  [(text "hand_id", text "handId"),
    (text "game_id", text "gameId"),
    (text "actor", text "actor"),
    (text "nonce", text "nonce"),
    (text "public_key", text "publicKey"),
    (text "message", text "message")]

/-- Every spelling of some fields. -/
def spellings (fields : List Names) : List Text :=
  fields.flatMap fun names => [names.1, names.2]

/-- Takes a key from one object to the other, if it is there. -/
def move (giver taker : Table Text Json) (key : Text) : Table Text Json × Table Text Json :=
  match Table.get? key giver with
  | none => (giver, taker)
  | some v => (Table.erase key giver, Table.insert key v taker)

/-- Takes the fields of the envelope out of an object: the rest, and what was taken. -/
def gather (members : Table Text Json) : Table Text Json × Table Text Json :=
  (spellings envelopeFields).foldl (fun (giver, taker) key => move giver taker key) (members, [])

/-- Takes one spelling of a field from the envelope to the outer object, where it counts only if
the outer object has the field under neither spelling. -/
def lift (names : Names) (outer inner : Table Text Json) (key : Text) :
    Table Text Json × Table Text Json :=
  match Table.get? key inner with
  | none => (outer, inner)
  | some v =>
    let inner := Table.erase key inner
    if Table.has names.1 outer || Table.has names.2 outer then (outer, inner)
    else (Table.insert names.1 v outer, inner)

/-- Takes both spellings of a field to the outer object. -/
def liftField (names : Names) (outer inner : Table Text Json) : Table Text Json × Table Text Json :=
  let (outer, inner) := lift names outer inner names.1
  lift names outer inner names.2

/-- Takes all fields that recording adds out of the envelope. -/
def liftAll (outer inner : Table Text Json) : Table Text Json × Table Text Json :=
  finalizedFields.foldl (fun (outer, inner) names => liftField names outer inner) (outer, inner)

/-- The outer object and its envelope, the envelope being gathered when there is none but a
message. -/
def split (members : Table Text Json) : Table Text Json × Option Json :=
  match Table.get? (text "envelope") members with
  | none | some .null =>
    if Table.has (text "message") members then
      let (outer, inner) := gather members
      (outer, some (.obj inner))
    else (members, none)
  | some envelope => (members, some envelope)

/-- The nested layout. -/
def merge (members : Table Text Json) : Table Text Json :=
  match split members with
  | (outer, some (.obj inner)) =>
    let (outer, inner) := liftAll outer inner
    Table.insert (text "envelope") (.obj inner) outer
  | (outer, _) => outer

end MentalPoker.Layout
