import MentalPoker.Envelope.HandMessage
import MentalPoker.Envelope.Row
import MentalPoker.Proofs.Envelope.ReadBack

/-!
# The three ways of an envelope agree

An envelope comes in live, as a row of the ledger's table, or as an entry of an answer. The three
forms have other names for almost everything, write actors and status differently, and are decoded
by three functions. An envelope that all three can carry is the same whichever way it came, so that
one that was recovered never replaces a live one by something else.

## The architecture

* **`Finalized.Portable`**: what an envelope may hold that all three forms can carry.
* **`Row.recording`**: the row that the ledger keeps of an envelope; `Row.ofMembers_table` reads any
  row back from its columns.
* **`Row.nested_recording`**, **`HandMessage.nested_ofFinalized`**: both come to the nested layout,
  of which `Finalized.check_nested` knows what it holds.
-/

namespace MentalPoker

open Schema

/-- A hexadecimal text in the form with `0x`. -/
def Hex.IsMarked (x : Hex) : Prop := ∃ digits, x.text = MentalPoker.text "0x" ++ digits

theorem Hex.IsMarked.normalize {x : Hex} (h : x.IsMarked) : Hex.normalize x.text = x.text := by
  obtain ⟨digits, hdigits⟩ := h
  rw [hdigits]
  rfl

/-- All three forms can carry the envelope. -/
structure Finalized.Portable (f : Finalized) : Prop where
  transcript : f.envelope.message.transcript = []
  created : f.createdAt = none
  publicKey : f.envelope.publicKey.IsMarked
  signature : f.envelope.message.signature.IsMarked
  status : f.status.IsPlain
  actor : f.envelope.actor.Exact

/-! ## The wire -/

namespace Finalized

theorem Portable.check_toWire {f : Finalized} (h : f.Portable) : check f.toWire = .good f := by
  have hwire : f.toWire = f.nested f.envelope.actor.toWire f.envelope.publicKey.toJson
      f.message.toJson f.envelope.message.signature.toJson f.status.toWire := by
    simp only [toWire, nested, Signed.toJson, h.transcript, List.map_nil, message]
  rw [hwire]
  exact check_nested h.transcript h.created h.actor.check_toWire (Hex.check_toJson _)
    f.message.check_toJson (Hex.check_toJson _) h.status.check_toWire

end Finalized

/-! ## Rows -/

namespace Row

/-- The columns of a row, in the order of the table. -/
def columns (row : Row) : List (String × Json) :=
  [("hand_id", .int row.handId), ("game_id", .int row.gameId),
    ("entity_kind", .int row.entityKind), ("entity_id", .int row.entityId),
    ("actor_kind", .int row.actorKind), ("seat_id", Json.ofOption .int row.seatId),
    ("shuffler_id", Json.ofOption .int row.shufflerId), ("public_key", .str row.publicKey),
    ("nonce", .int row.nonce), ("snapshot_number", .int row.snapshotNumber),
    ("is_successful", .bool row.isSuccessful),
    ("failure_message", Json.ofOption .str row.failureMessage),
    ("resulting_phase", .str row.resultingPhase.name), ("payload", .obj row.payload),
    ("signature", .str row.signature)]

def table (row : Row) : Table Text Json := Json.table row.columns

/-- **A row** is read back from its columns. -/
theorem ofMembers_table (row : Row) : ofMembers row.table = .good row := by
  have hint (name : FieldName) {key : Text} {n : Int}
      (h : name.find? row.table = some (key, .int n)) :
      required name row.table Check.int = .good n := required_eq_good h (Check.int_int n)
  have hstring (name : FieldName) {key t : Text} (h : name.find? row.table = some (key, .str t)) :
      required name row.table Check.string = .good t := required_eq_good h (Check.string_str t)
  have hoptional (name : FieldName) {key : Text} {n : Option Int}
      (h : name.find? row.table = some (key, Json.ofOption .int n)) :
      optional name row.table Check.int = .good n :=
    optional_eq_good h fun k _ => ⟨nofun, Check.int_int k⟩
  have hsuccess : required (.plain "is_successful") row.table Check.bool
      = .good row.isSuccessful := required_eq_good rfl (Check.bool_bool _)
  have hfailure : optional (.plain "failure_message") row.table Check.string
      = .good row.failureMessage :=
    optional_eq_good rfl fun t _ => ⟨nofun, Check.string_str t⟩
  have hphase : required (.plain "resulting_phase") row.table LedgerPhase.check
      = .good row.resultingPhase := required_eq_good rfl (LedgerPhase.check_name _)
  have hpayload : required (.plain "payload") row.table Check.dict = .good row.payload :=
    required_eq_good rfl (Check.dict_obj _)
  rw [ofMembers, hint (.plain "hand_id") rfl, hint (.plain "game_id") rfl,
    hint (.plain "entity_kind") rfl, hint (.plain "entity_id") rfl,
    hint (.plain "actor_kind") rfl, hoptional (.plain "seat_id") rfl,
    hoptional (.plain "shuffler_id") rfl, hstring (.plain "public_key") rfl,
    hint (.plain "nonce") rfl, hint (.plain "snapshot_number") rfl, hsuccess,
    hfailure, hphase, hpayload, hstring (.plain "signature") rfl]
  rfl

/-- The row in which the ledger records an envelope. -/
def recording (f : Finalized) : Row where
  handId := f.envelope.handId
  gameId := f.envelope.gameId
  entityKind := match f.envelope.actor.kind with
    | .none | .player => 0
    | .shuffler => 1
  entityId := match f.envelope.actor.kind with
    | .none => 0
    | .player => (f.envelope.actor.playerId.getD 0 : Nat)
    | .shuffler => f.envelope.actor.shufflerId.getD 0
  actorKind := match f.envelope.actor.kind with
    | .none => 0
    | .player => 1
    | .shuffler => 2
  seatId := match f.envelope.actor.kind with
    | .player => f.envelope.actor.seatId.map fun seat => (seat.val : Int)
    | .none | .shuffler => none
  shufflerId := match f.envelope.actor.kind with
    | .shuffler => f.envelope.actor.shufflerId
    | .none | .player => none
  publicKey := f.envelope.publicKey.text
  nonce := f.envelope.nonce
  snapshotNumber := f.seqId
  isSuccessful := f.status.ok
  failureMessage := f.status.reason
  resultingPhase := f.phase
  payload := (text "type", .str f.message.tag) :: f.message.table
  signature := f.envelope.message.signature.text

variable {f : Finalized}

theorem ofFinalized_eq (h : f.envelope.actor.Exact) : ofFinalized f = .obj (recording f).table := by
  obtain ⟨⟨handId, gameId, actor, nonce, publicKey, message⟩, status, phase, seqId, createdAt⟩ := f
  cases h <;> rfl

theorem actor_recording (h : f.envelope.actor.Exact) :
    (recording f).actor = .ok f.envelope.actor.narrow := by
  obtain ⟨⟨handId, gameId, actor, nonce, publicKey, message⟩, status, phase, seqId, createdAt⟩ := f
  cases h <;> rfl

/-- A failure is recorded with its own reason, and never gets the general one. -/
theorem status_recording (f : Finalized) : (recording f).status = f.status.toWire := by
  cases hok : f.status.ok with
  | true =>
    rw [Row.status, SnapshotStatus.toWire, hok, if_pos rfl]
    exact if_pos hok
  | false =>
    obtain ⟨reason, hreason, hsays⟩ := SnapshotStatus.reason_of_failure hok
    simp only [Row.status, recording, SnapshotStatus.toWire, hok, hreason, Option.getD_some, hsays,
      Bool.false_eq_true, if_false]
    rfl

theorem nested_recording (h : f.Portable) (actor : Json) :
    (recording f).nested actor = f.nested actor f.envelope.publicKey.toJson f.message.toJson
      f.envelope.message.signature.toJson f.status.toWire := by
  have hkey := h.publicKey.normalize
  have hsignature := h.signature.normalize
  rw [Row.nested, status_recording]
  show Json.object [("envelope", Json.object [_, _, _, _,
      ("public_key", .str (Hex.normalize f.envelope.publicKey.text)),
      ("message", Json.object [_,
        ("signature", .str (Hex.normalize f.envelope.message.signature.text)), _])]), _, _, _] = _
  rw [hkey, hsignature]
  rfl

/-- The row of an envelope gives the envelope back. -/
theorem finalized_recording (h : f.Portable) : (recording f).finalized = .ok f := by
  have hcheck := Finalized.check_nested h.transcript h.created h.actor.check_narrow
    f.envelope.publicKey.check_toJson f.message.check_toJson
    f.envelope.message.signature.check_toJson h.status.check_toWire
  rw [finalized, actor_recording h.actor]
  dsimp only
  rw [nested_recording h, hcheck]
  rfl

end Row

/-! ## Entries of an answer -/

namespace HandMessage

variable {f : Finalized}

/-- The payload of an entry has its type, where it has none of its own the one next to it. -/
theorem payload_ofFinalized (typeInside : Bool) (f : Finalized) :
    ∃ entry ms, ofFinalized typeInside f = .obj entry ∧ payload entry = .obj ms
      ∧ f.message.Stands ms := by
  have htruthy : (Json.str f.message.tag).truthy = true := by
    cases f.message with
    | bet street => cases street <;> rfl
    | _ => rfl
  have htype : Table.has (text "type") f.message.table = false := by
    cases f.message <;> rfl
  cases typeInside with
  | true => exact ⟨_, _, rfl, rfl, f.message.stands_toJson⟩
  | false =>
    refine ⟨_, _, rfl, ?_, f.message.stands_insert⟩
    show (if (!Table.has (text "type") f.message.table && (Json.str f.message.tag).truthy) = true
      then Json.obj (Table.insert (text "type") (.str f.message.tag) f.message.table)
      else .obj f.message.table) = _
    rw [htype, htruthy]
    rfl

/-- An entry comes to the nested layout of its envelope. -/
theorem nested_ofFinalized (h : f.Portable) (typeInside : Bool) :
    ∃ entry ms, ofFinalized typeInside f = .obj entry ∧ f.message.Stands ms
      ∧ nested (Json.nat f.envelope.gameId) (Json.nat f.envelope.handId) entry
        = f.nested f.envelope.actor.toWire f.envelope.publicKey.toJson (.obj ms)
          f.envelope.message.signature.toJson f.status.toWire := by
  obtain ⟨entry, ms, hentry, hpayload, hstands⟩ := payload_ofFinalized typeInside f
  have hkey : hexText "public_key" entry = f.envelope.publicKey.toJson := by
    obtain rfl : _ = entry := Json.obj.inj hentry
    exact congrArg Json.str h.publicKey.normalize
  have hsignature : hexText "signature" entry = f.envelope.message.signature.toJson := by
    obtain rfl : _ = entry := Json.obj.inj hentry
    exact congrArg Json.str h.signature.normalize
  refine ⟨entry, ms, hentry, hstands, ?_⟩
  rw [nested, hkey, hsignature, hpayload]
  obtain rfl : _ = entry := Json.obj.inj hentry
  rfl

end HandMessage

/-! ## The three ways -/

/-- **The three ways agree.** An envelope that all three forms can carry comes back as it was,
whichever way it takes: as a row of the ledger's table, as an entry of an answer, with the type of
the message in its payload or next to it, or nested as the live feed sends it. -/
theorem three_ways_agree [Json.Room] {f : Finalized} (h : f.Portable) (q : Payload) :
    (q.read = .ok (Row.ofFinalized f) → Row.decode q = .ok f)
      ∧ (∀ typeInside, q.read = .ok (HandMessage.ofFinalized typeInside f) →
        HandMessage.decode (Json.nat f.envelope.gameId) (Json.nat f.envelope.handId) q = .ok f)
      ∧ (q.read = .ok f.toWire → Finalized.decode q = .ok f) := by
  refine ⟨fun hq => ?_, fun typeInside hq => ?_, fun hq => ?_⟩
  · rw [Row.ofFinalized_eq h.actor] at hq
    have hload : q.load = .ok (Row.recording f).table := Payload.load_of_read hq
    rw [Row.decode, hload]
    dsimp only
    rw [Row.ofMembers_table]
    exact Row.finalized_recording h
  · obtain ⟨entry, ms, hentry, hstands, hnested⟩ := HandMessage.nested_ofFinalized h typeInside
    rw [hentry] at hq
    have hcheck := Finalized.check_nested h.transcript h.created h.actor.check_toWire
      f.envelope.publicKey.check_toJson (Message.check_of_stands hstands)
      f.envelope.message.signature.check_toJson h.status.check_toWire
    rw [HandMessage.decode, Payload.load_of_read hq]
    dsimp only
    rw [hnested, hcheck]
    rfl
  · -- the layout is nested already, and there is no type to leave out of account
    obtain ⟨members, hmembers⟩ : ∃ members, f.toWire = .obj members
        ∧ Finalized.ofLayout members = Finalized.check f.toWire := ⟨_, rfl, rfl⟩
    rw [hmembers.1] at hq
    rw [Finalized.decode, Payload.load_of_read hq]
    dsimp only
    rw [hmembers.2, h.check_toWire]
    rfl

/-- A raise to an amount in digits, which the ledger refused. -/
def refusedRaise : Finalized where
  envelope := {
    handId := 7
    gameId := 1
    actor := ⟨.player, some ⟨3, by decide⟩, some 40, none, rfl⟩
    nonce := 12
    publicKey := ⟨text "0xab", by decide +kernel⟩
    message := ⟨.bet .river (.raiseTo (.digits (text "250") (by decide +kernel))),
      ⟨text "0x01", by decide +kernel⟩, []⟩ }
  status := ⟨false, some (text "not your turn"), by decide +kernel⟩
  phase := .betting
  seqId := 31
  createdAt := none

theorem three_ways_agree_refusedRaise :
    refusedRaise.Portable
      ∧ Row.decode (.value (Row.ofFinalized refusedRaise)) = .ok refusedRaise
      ∧ HandMessage.decode (Json.nat 1) (Json.nat 7)
          (.value (HandMessage.ofFinalized false refusedRaise)) = .ok refusedRaise
      ∧ Finalized.decode (.value refusedRaise.toWire) = .ok refusedRaise := by
  have hportable : refusedRaise.Portable :=
    ⟨rfl, rfl, ⟨text "ab", rfl⟩, ⟨text "01", rfl⟩, nofun, .player _ _⟩
  exact ⟨hportable, (three_ways_agree hportable _).1 rfl,
    (three_ways_agree hportable _).2.1 false rfl, (three_ways_agree hportable _).2.2 rfl⟩

end MentalPoker
