import MentalPoker.Envelope.Decode

/-!
# Hand messages

The ledger answers a query for the messages of a hand with flat entries: sequence number, nonce,
status, phase, actor, key, signature and payload side by side. The ids of game and hand come from
the query. The type of the payload may stand next to it, under `message_type`.

## Contents

* `HandMessage.decode`: the envelope of such an entry.
* `HandMessage.ofFinalized`: the entry of an envelope.
* `HandMessage.decodeEntry`: an entry of either of the forms that an answer may mix.
-/

namespace MentalPoker.HandMessage

open Schema

/-- The payload, with the type that stands next to it when it has none of its own. -/
def payload (entry : Table Text Json) : Json :=
  match Json.member "payload" (.obj entry) with
  | .obj members =>
    let type := Json.member "message_type" (.obj entry)
    if !Table.has (text "type") members && type.truthy then
      .obj (Table.insert (text "type") type members)
    else .obj members
  | v => v

/-- The text under a key, in the form with `0x`; nothing counts as the empty text. What is not a
text is displayed, which is meant for values that were read (`Json.display`). -/
def hexText (key : String) (entry : Table Text Json) : Json :=
  .str (Hex.normalize (((Table.get? (text key) entry).map Json.display).getD []))

/-- The nested layout of an entry. -/
def nested (gameId handId : Json) (entry : Table Text Json) : Json :=
  let field (key : String) : Json := Json.member key (.obj entry)
  Json.object [
    ("envelope", Json.object [
      ("hand_id", handId),
      ("game_id", gameId),
      ("actor", field "actor"),
      ("nonce", field "nonce"),
      ("public_key", hexText "public_key" entry),
      ("message", Json.object [
        ("value", payload entry),
        ("signature", hexText "signature" entry),
        ("transcript", .arr [])])]),
    ("snapshot_status", field "status"),
    ("applied_phase", field "phase"),
    ("snapshot_sequence_id", field "sequence")]

/-- The envelope of a flat entry. -/
def decode [Json.Room] (gameId handId : Json) (p : Payload) : Decoded Finalized :=
  match p.load with
  | .error fault => .error fault
  | .ok entry => (Finalized.check (nested gameId handId entry)).decoded fun _ => text "hand message"

/-- An entry is flat when it has a sequence number and a payload. -/
def isFlat : Json → Bool
  | .obj members => Table.has (text "sequence") members && Table.has (text "payload") members
  | _ => false

/-- The envelope of a flat or a nested entry. -/
def decodeEntry [Json.Room] (gameId handId : Json) (entry : Json) : Decoded Finalized :=
  if isFlat entry then decode gameId handId (.ofJson entry)
  else Finalized.decode (.ofJson entry)

/-- The flat entry of an envelope; the type of the message stands in its payload, or next to it. -/
def ofFinalized (typeInside : Bool) (f : Finalized) : Json :=
  let payload :=
    if typeInside then f.message.toJson else Json.object f.message.members
  Json.object [
    ("sequence", Json.nat f.seqId),
    ("nonce", Json.nat f.envelope.nonce),
    ("status", f.status.toWire),
    ("phase", .str f.phase.name),
    ("message_type", .str f.message.tag),
    ("actor", f.envelope.actor.toWire),
    ("public_key", f.envelope.publicKey.toJson),
    ("signature", f.envelope.message.signature.toJson),
    ("payload", payload)]

end MentalPoker.HandMessage
