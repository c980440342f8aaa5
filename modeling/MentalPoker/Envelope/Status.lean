import MentalPoker.Schema

/-!
# Snapshot status

Whether the ledger accepted an envelope, and if not, why. On the wire a status is the word
`success`, an object under the key `failure` that holds a reason or is one, an object with the key
`status`, or the flat form with `ok` and `reason`.
-/

namespace MentalPoker

namespace SnapshotStatus

/-- A failure says why. -/
def isExplained (ok : Bool) (reason : Option Text) : Bool :=
  ok || (reason.any fun r => !r.isEmpty)

end SnapshotStatus

/-- The outcome of applying an envelope to the ledger's snapshot. -/
structure SnapshotStatus where
  ok : Bool
  reason : Option Text
  explained : SnapshotStatus.isExplained ok reason = true
  deriving DecidableEq

namespace SnapshotStatus

open Schema

/-- The flat form. -/
def toJson (s : SnapshotStatus) : Json :=
  Json.object [("ok", .bool s.ok), ("reason", Json.ofOption .str s.reason)]

/-- The form in which the ledger writes a status. -/
def toWire (s : SnapshotStatus) : Json :=
  if s.ok then Json.lit "success"
  else Json.object [("failure", Json.ofOption .str s.reason)]

def success : Json := Json.object [("ok", .bool true)]

def failure (reason : Json) : Json := Json.object [("ok", .bool false), ("reason", reason)]

/-- The flat form of any wire form. -/
def flatten (v : Json) : Json :=
  match v with
  | .str t => if t = text "success" then success else v
  | .obj members =>
    if v.member "status" = Json.lit "success" then success
    else if v.member "status" = Json.lit "failure" then failure (v.member "reason")
    else match Table.get? (text "failure") members with
      | some (.obj inner) => failure (Json.member "reason" (.obj inner))
      | some reason => failure reason
      | none => v
  | _ => v

/-- A status whose failure is explained. -/
def ofFields (v : Json) (ok : Bool) (reason : Option Text) : Checked SnapshotStatus :=
  if h : isExplained ok reason = true then .good ⟨ok, reason, h⟩
  else .fail (.valueError (text "failure status requires a reason")) v

/-- A status on the wire. -/
def check (v : Json) : Checked SnapshotStatus :=
  (Check.model "SnapshotStatus" (flatten v)).andThen fun members =>
    (Prod.mk
      <$> required (.wire "ok") members Check.bool
      <*> optional (.wire "reason") members Check.string).andThen
    fun (ok, reason) => ofFields v ok reason

end SnapshotStatus

end MentalPoker
