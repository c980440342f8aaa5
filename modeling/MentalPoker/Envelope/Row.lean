import MentalPoker.Envelope
import MentalPoker.Payload

/-!
# Ledger rows

The ledger's broker publishes the rows of its events table. A row spreads an envelope over
columns: the actor is told by numbers, keys and signatures may be written without `0x`, and the
status is a flag with an optional message.

## Contents

* `Row`, `Row.check`: a row and its columns.
* `Row.actor`: the actor of a row, or why the columns contradict each other.
* `Row.decode`: the envelope of a row.
* `Row.ofFinalized`: the row of an envelope.
-/

namespace MentalPoker

open Schema

/-- A row of the events table. -/
structure Row where
  handId : Int
  gameId : Int
  entityKind : Int
  entityId : Int
  actorKind : Int
  seatId : Option Int
  shufflerId : Option Int
  publicKey : Text
  nonce : Int
  snapshotNumber : Int
  isSuccessful : Bool
  failureMessage : Option Text
  resultingPhase : LedgerPhase
  payload : Table Text Json
  signature : Text

namespace Row

/-- A row from its columns. -/
def ofMembers (members : Table Text Json) : Checked Row :=
  Row.mk
    <$> required (.plain "hand_id") members Check.int
    <*> required (.plain "game_id") members Check.int
    <*> required (.plain "entity_kind") members Check.int
    <*> required (.plain "entity_id") members Check.int
    <*> required (.plain "actor_kind") members Check.int
    <*> optional (.plain "seat_id") members Check.int
    <*> optional (.plain "shuffler_id") members Check.int
    <*> required (.plain "public_key") members Check.string
    <*> required (.plain "nonce") members Check.int
    <*> required (.plain "snapshot_number") members Check.int
    <*> required (.plain "is_successful") members Check.bool
    <*> optional (.plain "failure_message") members Check.string
    <*> required (.plain "resulting_phase") members LedgerPhase.check
    <*> required (.plain "payload") members Check.dict
    <*> required (.plain "signature") members Check.string

/-! ## The envelope of a row -/

/-- The actor of a row, in its flat form. -/
def actor (row : Row) : Except Text Json :=
  if row.actorKind = 0 then .ok (Json.object [("kind", Json.lit "none")])
  else if row.actorKind = 1 then
    match row.seatId with
    | none => .error (text "player actor missing seat_id")
    | some seat =>
      if row.entityKind = 0 then
        .ok (Json.object
          [("kind", Json.lit "player"), ("seat_id", .int seat), ("player_id", .int row.entityId)])
      else .error (text "player actor stored with mismatched entity_kind")
  else if row.actorKind = 2 then
    if row.entityKind = 1 then
      .ok (Json.object
        [("kind", Json.lit "shuffler"), ("shuffler_id", .int (row.shufflerId.getD row.entityId))])
    else .error (text "shuffler actor stored with mismatched entity_kind")
  else .error (text "unknown actor_kind value " ++ Text.ofInt row.actorKind)

/-- The status of a row; a failure without a message gets a general one. -/
def status (row : Row) : Json :=
  if row.isSuccessful then Json.lit "success"
  else
    let reason := row.failureMessage.getD []
    let reason := if reason.isEmpty then text "unknown failure" else reason
    Json.object [("failure", .str reason)]

/-- The nested layout of a row whose actor is known. -/
def nested (row : Row) (actor : Json) : Json :=
  Json.object [
    ("envelope", Json.object [
      ("hand_id", .int row.handId),
      ("game_id", .int row.gameId),
      ("actor", actor),
      ("nonce", .int row.nonce),
      ("public_key", .str (Hex.normalize row.publicKey)),
      ("message", Json.object [
        ("value", .obj row.payload),
        ("signature", .str (Hex.normalize row.signature)),
        ("transcript", .arr [])])]),
    ("snapshot_status", row.status),
    ("applied_phase", .str row.resultingPhase.name),
    ("snapshot_sequence_id", .int row.snapshotNumber)]

/-- The envelope of a row. -/
def finalized (row : Row) : Decoded Finalized :=
  match row.actor with
  | .error complaint => .error (.inconsistent complaint)
  | .ok actor => (Finalized.check (row.nested actor)).decoded fun _ => text "ledger row payload"

/-- The envelope of a row that comes from outside. -/
def decode [Json.Room] (p : Payload) : Decoded Finalized :=
  match p.load with
  | .error fault => .error fault
  | .ok members =>
    match (ofMembers members).decoded fun _ => text "ledger row" with
    | .error fault => .error fault
    | .ok row => row.finalized

/-! ## The row of an envelope -/

/-- The columns that tell the actor: the kind of entity, its id, the kind of actor, a seat and a
shuffler. -/
def actorColumns (a : Actor) : List (String × Json) :=
  match a.kind with
  | .none =>
    [("entity_kind", .int 0), ("entity_id", .int 0), ("actor_kind", .int 0), ("seat_id", .null),
      ("shuffler_id", .null)]
  | .player =>
    [("entity_kind", .int 0), ("entity_id", Json.ofOption Json.nat a.playerId),
      ("actor_kind", .int 1), ("seat_id", Json.ofOption (fun s => Json.nat s.val) a.seatId),
      ("shuffler_id", .null)]
  | .shuffler =>
    [("entity_kind", .int 1), ("entity_id", Json.ofOption .int a.shufflerId),
      ("actor_kind", .int 2), ("seat_id", .null),
      ("shuffler_id", Json.ofOption .int a.shufflerId)]

/-- The row of an envelope. -/
def ofFinalized (f : Finalized) : Json :=
  Json.object <|
    [("hand_id", Json.nat f.envelope.handId), ("game_id", Json.nat f.envelope.gameId)]
    ++ actorColumns f.envelope.actor
    ++ [("public_key", f.envelope.publicKey.toJson),
      ("nonce", Json.nat f.envelope.nonce),
      ("snapshot_number", Json.nat f.seqId),
      ("is_successful", .bool f.status.ok),
      ("failure_message", Json.ofOption .str f.status.reason),
      ("resulting_phase", .str f.phase.name),
      ("payload", f.message.toJson),
      ("signature", f.envelope.message.signature.toJson)]

end Row

end MentalPoker
