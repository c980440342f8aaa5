import MentalPoker.Envelope
import MentalPoker.Payload
import MentalPoker.Proofs.Schema.ReadBack

/-!
# The parts of an envelope read back

Each part of a recorded envelope is checked in one place and written in several: flat for a dump,
in the ledger's own forms for the wire. Every written form of a part is read back as that part. For
the records that hold other parts the statement is relative: however the inner parts are written,
if they are read back, so is the record.

## The architecture

* **`Hex.check_toJson`**, **`Chips.check_toJson`**, **`Bet.ofJson_toJson`**: single values.
* **`Message.Stands`**: the members of a message stand in an object, in any order. This is all that
  checking it needs (`Message.check_of_stands`).
* **`Actor.check_of_flat`**, **`SnapshotStatus.check_of_flat`**: forms that are flattened first.
* **`Signed.check_object`**, **`Envelope.check_object`**, **`Finalized.ofMembers_object`**: records.
-/

namespace MentalPoker

open Schema

theorem Payload.load_of_read [Json.Room] {p : Payload} {members : Table Text Json}
    (h : p.read = .ok (.obj members)) : p.load = .ok members := by
  rw [load, h]

/-! ## Hexadecimal texts -/

theorem Text.isSurrogate_of_isHexDigit {c : Nat} (h : Text.isHexDigit c = true) :
    Text.isSurrogate c = false := by
  have hsmall : c < 0xD800 := by
    unfold Text.isHexDigit Text.hexValue? at h
    split at h
    · omega
    · split at h
      · omega
      · split at h
        · omega
        · cases h
  simp only [Text.isSurrogate, Bool.and_eq_false_iff, decide_eq_false_iff_not]
  omega

theorem Hex.isUnicode (x : Hex) : Text.isUnicode x.text = true := by
  have hdigits : (Hex.body x.text).all (fun c => !Text.isSurrogate c) = true := by
    have hvalid := (Bool.and_eq_true_iff.mp x.valid).2
    rw [List.all_eq_true] at hvalid ⊢
    intro c hc
    rw [Text.isSurrogate_of_isHexDigit (hvalid c hc)]
    rfl
  -- the two marks in front are no surrogates either
  have hmarked (t : Text) (h : (Hex.body t).all (fun c => !Text.isSurrogate c) = true) :
      Text.isUnicode t = true := by
    unfold Hex.body at h
    split at h
    · exact h
    · exact h
    · exact h
  exact hmarked x.text hdigits

@[simp] theorem Hex.check_toJson (x : Hex) : Hex.check x.toJson = .good x := by
  rw [Hex.check, Hex.toJson, Check.unicodeString_str ⟨x.text, x.isUnicode⟩]
  exact dif_pos x.valid

/-! ## Bets -/

@[simp] theorem Chips.check_toJson (chips : Chips) : Chips.check chips.toJson = .good chips := by
  cases chips with
  | amount n =>
    -- a number is no text of digits
    have hdigits : checkDigits (Json.nat n) = .fail .stringType (Json.nat n) := rfl
    rw [toJson, check, hdigits, Check.nat_nat]
    rfl
  | digits t valid =>
    have hdigits : checkDigits (.str t) = .good (digits t valid) := dif_pos valid
    rw [toJson, check, hdigits]

theorem Bet.checkAmount_object (chips : Chips) :
    checkAmount (Json.object [("to", chips.toJson)]) = .good chips :=
  Check.only_obj rfl rfl chips.check_toJson

@[simp] theorem Bet.ofJson_toJson (b : Bet) : Bet.ofJson b.toJson = .good b := by
  cases b with
  | fold => exact Check.firstOf_head (Check.word_str (by decide +kernel) rfl)
  | check => exact Check.firstOf_head (Check.word_str (by decide +kernel) rfl)
  | call => exact Check.firstOf_head (Check.word_str (by decide +kernel) rfl)
  | allIn => exact Check.firstOf_head (Check.word_str (by decide +kernel) rfl)
  | betTo chips =>
    refine Check.firstOf_tail rfl (Check.firstOf_head ?_)
    rw [toJson, sized]
    exact congrArg (Checked.map betTo) (Check.only_obj rfl rfl (checkAmount_object chips))
  | raiseTo chips =>
    refine Check.firstOf_tail rfl (Check.firstOf_tail rfl (Check.firstOf_head ?_))
    rw [toJson, sized]
    exact congrArg (Checked.map raiseTo) (Check.only_obj rfl rfl (checkAmount_object chips))

/-! ## Messages -/

namespace Message

/-- The members of a message besides the tag. -/
def table (m : Message) : Table Text Json := Json.table m.members

/-- The tag and the members of a message stand in an object, in whatever order. -/
structure Stands (m : Message) (ms : Table Text Json) : Prop where
  tag : Table.get? (text "type") ms = some (.str m.tag)
  members : ∀ key ≠ text "type", Table.get? key ms = Table.get? key m.table

variable {m : Message} {ms : Table Text Json}

theorem stands_toJson (m : Message) : m.Stands ((text "type", .str m.tag) :: m.table) where
  tag := by rw [Table.get?, if_pos rfl]
  members key hkey := by rw [Table.get?, if_neg hkey]

/-- The tag may be written into the members afterwards. -/
theorem stands_insert (m : Message) :
    m.Stands (Table.insert (text "type") (.str m.tag) m.table) where
  tag := Table.get?_insert_self _ _ _
  members _ hkey := Table.get?_insert_of_ne hkey _ _

/-- A field of the message is found where the message has it. -/
theorem Stands.find? (h : m.Stands ms) {name : FieldName}
    (hname : name.first ≠ text "type" ∧ ∀ key ∈ name.second, key ≠ text "type") :
    name.find? ms = name.find? m.table := by
  have hsecond : (name.second.bind fun key => (Table.get? key ms).map fun v => (key, v))
      = name.second.bind fun key => (Table.get? key m.table).map fun v => (key, v) := by
    cases hkey : name.second with
    | none => rfl
    | some key =>
      have hne : key ≠ text "type" := hname.2 key hkey
      simp only [Option.bind_some, h.members key hne]
  rw [FieldName.find?, FieldName.find?, h.members name.first hname.1, hsecond]

theorem Stands.required (h : m.Stands ms) {α : Type} {name : FieldName} {key : Text} {v : Json}
    {check : Json → Checked α} {a : α}
    (hname : name.first ≠ text "type" ∧ ∀ key ∈ name.second, key ≠ text "type")
    (hfind : name.find? m.table = some (key, v)) (hcheck : check v = .good a) :
    required name ms check = .good a :=
  required_eq_good ((h.find? hname).trans hfind) hcheck

theorem check_hexes {n : Nat} (items : { xs : List Hex // xs.length = n }) :
    Check.listOf n Hex.check (hexes items.1) = .good items :=
  Check.listOf_map Hex.check_toJson items

/-- A share is read back from any object in which a message about it stands. -/
theorem Stands.checkShare {s : Share} (h : m.Stands ms) (hm : m.members = shareMembers s) :
    checkShare ms = .good s := by
  have htable : m.table = Json.table (shareMembers s) := by rw [table, hm]
  have hposition : Schema.required (.wire "card_in_deck_position") ms (Check.upTo 255)
      = .good s.position :=
    h.required (by decide +kernel) (by rw [htable]; rfl) (Check.upTo_nat s.position)
  have hshare : Schema.required (.wire "share") ms Hex.check = .good s.share :=
    h.required (by decide +kernel) (by rw [htable]; rfl) s.share.check_toJson
  have htarget : Schema.required (.wire "target_player_public_key") ms Hex.check
      = .good s.target :=
    h.required (by decide +kernel) (by rw [htable]; rfl) s.target.check_toJson
  rw [Message.checkShare, hposition, hshare, htarget]
  rfl

/-- **A message** is read back from any object in which it stands. -/
theorem check_of_stands (h : m.Stands ms) : check (.obj ms) = .good m := by
  cases m with
  | shuffle turn deckIn deckOut proof =>
    refine Check.tagged_obj h.tag rfl ?_
    have hturn : Schema.required (.wire "turn_index") ms (Check.upTo 65535) = .good turn :=
      h.required (by decide +kernel) rfl (Check.upTo_nat turn)
    have hin : Schema.required (.wire "deck_in") ms checkDeck = .good deckIn :=
      h.required (by decide +kernel) rfl (check_hexes deckIn)
    have hout : Schema.required (.wire "deck_out") ms checkDeck = .good deckOut :=
      h.required (by decide +kernel) rfl (check_hexes deckOut)
    have hproof : Schema.required (.wire "proof") ms Hex.check = .good proof :=
      h.required (by decide +kernel) rfl proof.check_toJson
    rw [checkShuffle, hturn, hin, hout, hproof]
    rfl
  | blinding share =>
    refine Check.tagged_obj h.tag rfl ?_
    rw [h.checkShare rfl]
    rfl
  | partialUnblinding share =>
    refine Check.tagged_obj h.tag rfl ?_
    rw [h.checkShare rfl]
    rfl
  | bet street b =>
    have haction : Schema.required (.wire "action") ms Bet.ofJson = .good b :=
      h.required (by decide +kernel) rfl b.ofJson_toJson
    have hbranch : Table.get? street.tag branches = some (checkBet street) := by
      cases street <;> rfl
    refine Check.tagged_obj h.tag hbranch ?_
    rw [checkBet, haction]
    rfl
  | showdown proofs positions ciphertexts =>
    refine Check.tagged_obj h.tag rfl ?_
    have hproofs : Schema.required (.wire "chaum_pedersen_proofs") ms (Check.listOf 2 Hex.check)
        = .good proofs := h.required (by decide +kernel) rfl (check_hexes proofs)
    have hpositions : Schema.required (.wire "card_in_deck_position") ms
        (Check.listOf 2 (Check.upTo 255)) = .good positions :=
      h.required (by decide +kernel) rfl (Check.listOf_map Check.upTo_nat positions)
    have hciphertexts : Schema.required (.wire "hole_ciphertexts") ms (Check.listOf 2 Hex.check)
        = .good ciphertexts := h.required (by decide +kernel) rfl (check_hexes ciphertexts)
    rw [checkShowdown, hproofs, hpositions, hciphertexts]
    rfl

@[simp] theorem check_toJson (m : Message) : check m.toJson = .good m :=
  check_of_stands (stands_toJson m)

end Message

/-! ## Actors -/

namespace Actor

theorem checkKind_name (k : ActorKind) :
    Check.word .literal (ActorKind.all.map fun k => (k.name, k)) (.str k.name) = .good k := by
  cases k <;> exact Check.word_str (by decide +kernel) rfl

theorem ofFields_fields (v : Json) (a : Actor) :
    ofFields v a.kind a.seatId a.playerId a.shufflerId = .good a := by
  unfold ofFields
  split
  · rfl
  · next message hcomplaint => cases a.complete.symm.trans hcomplaint

/-- An actor is checked by the fields of its flat form. -/
theorem check_of_flat {v : Json} {members : Table Text Json} {a : Actor}
    (hflat : flatten v = .ok (.obj members))
    (hkind : required (.wire "kind") members
      (Check.word .literal (ActorKind.all.map fun k => (k.name, k))) = .good a.kind)
    (hseat : optional (.wire "seat_id") members (Check.upTo 255) = .good a.seatId)
    (hplayer : optional (.wire "player_id") members Check.nat = .good a.playerId)
    (hshuffler : optional (.wire "shuffler_id") members Check.int = .good a.shufflerId) :
    check v = .good a := by
  unfold check
  rw [hflat]
  simp only [Check.model, Checked.andThen, hkind, hseat, hplayer, hshuffler, Checked.map_good,
    Checked.seq_good]
  exact ofFields_fields v a

@[simp] theorem check_toJson (a : Actor) : check a.toJson = .good a := by
  refine check_of_flat rfl ?_ ?_ ?_ ?_
  · exact required_eq_good rfl (checkKind_name a.kind)
  · exact optional_eq_good rfl fun seat _ => ⟨nofun, Check.upTo_nat seat⟩
  · exact optional_eq_good rfl fun player _ => ⟨nofun, Check.nat_nat player⟩
  · exact optional_eq_good rfl fun shuffler _ => ⟨nofun, Check.int_int shuffler⟩

/-- The actor has the ids that its kind requires and no others. -/
inductive Exact : Actor → Prop
  | nobody : Exact ⟨.none, none, none, none, rfl⟩
  | player (seat : Fin 256) (id : Nat) : Exact ⟨.player, some seat, some id, none, rfl⟩
  | shuffler (id : Int) : Exact ⟨.shuffler, none, none, some id, rfl⟩

/-- The flat form with no more than the ids that the kind requires. -/
def narrow (a : Actor) : Json :=
  match a.kind with
  | .none => Json.object [("kind", Json.lit "none")]
  | .player =>
    Json.object [("kind", Json.lit "player"),
      ("seat_id", Json.ofOption (fun s => Json.nat s.val) a.seatId),
      ("player_id", Json.ofOption Json.nat a.playerId)]
  | .shuffler =>
    Json.object [("kind", Json.lit "shuffler"), ("shuffler_id", Json.ofOption .int a.shufflerId)]

variable {a : Actor}

/-- An exact actor is read back from whatever has its narrow form. -/
theorem Exact.check_of_flatten (h : a.Exact) {v : Json} (hflat : flatten v = .ok a.narrow) :
    check v = .good a := by
  cases h with
  | nobody =>
    refine check_of_flat hflat (required_eq_good rfl (checkKind_name .none)) ?_ ?_ ?_
    · exact optional_eq_none rfl
    · exact optional_eq_none rfl
    · exact optional_eq_none rfl
  | player seat id =>
    refine check_of_flat hflat (required_eq_good rfl (checkKind_name .player)) ?_ ?_ ?_
    · exact optional_eq_good (a := some seat) rfl fun seat _ => ⟨nofun, Check.upTo_nat seat⟩
    · exact optional_eq_good (a := some id) rfl fun id _ => ⟨nofun, Check.nat_nat id⟩
    · exact optional_eq_none rfl
  | shuffler id =>
    refine check_of_flat hflat (required_eq_good rfl (checkKind_name .shuffler)) ?_ ?_ ?_
    · exact optional_eq_none rfl
    · exact optional_eq_none rfl
    · exact optional_eq_good (a := some id) rfl fun id _ => ⟨nofun, Check.int_int id⟩

theorem Exact.check_narrow (h : a.Exact) : check a.narrow = .good a := by
  refine h.check_of_flatten ?_
  cases h <;> rfl

theorem Exact.check_toWire (h : a.Exact) : check a.toWire = .good a := by
  refine h.check_of_flatten ?_
  cases h <;> rfl

end Actor

/-! ## Status -/

namespace SnapshotStatus

theorem check_of_flat {v : Json} {members : Table Text Json} {s : SnapshotStatus}
    (hflat : flatten v = .obj members)
    (hok : required (.wire "ok") members Check.bool = .good s.ok)
    (hreason : optional (.wire "reason") members Check.string = .good s.reason) :
    check v = .good s := by
  unfold check
  rw [hflat]
  simp only [Check.model, Checked.andThen, hok, hreason, Checked.map_good, Checked.seq_good]
  exact dif_pos s.explained

@[simp] theorem check_toJson (s : SnapshotStatus) : check s.toJson = .good s := by
  refine check_of_flat rfl ?_ ?_
  · exact required_eq_good rfl (Check.bool_bool s.ok)
  · exact optional_eq_good rfl fun reason _ => ⟨nofun, Check.string_str reason⟩

/-- The status is a success that gives no reason, or a failure. Failures always give one. -/
def IsPlain (s : SnapshotStatus) : Prop := s.ok = true → s.reason = none

/-- A failure has a reason, and the reason says something. -/
theorem reason_of_failure {s : SnapshotStatus} (h : s.ok = false) :
    ∃ reason, s.reason = some reason ∧ reason.isEmpty = false := by
  have hexplained := s.explained
  rw [isExplained, h, Bool.false_or, Option.any_eq_true] at hexplained
  obtain ⟨reason, hreason, hsays⟩ := hexplained
  exact ⟨reason, hreason, by simpa using hsays⟩

theorem IsPlain.check_toWire {s : SnapshotStatus} (h : s.IsPlain) : check s.toWire = .good s := by
  cases hok : s.ok with
  | true =>
    have hwire : s.toWire = Json.lit "success" := by rw [toWire, hok, if_pos rfl]
    have hflat : flatten (Json.lit "success") = .obj [(text "ok", .bool true)] := rfl
    rw [hwire]
    refine check_of_flat hflat ?_ ?_
    · rw [hok]
      exact required_eq_good rfl (Check.bool_bool true)
    · rw [h hok]
      exact optional_eq_none rfl
  | false =>
    obtain ⟨reason, hreason, -⟩ := reason_of_failure hok
    have hwire : s.toWire = Json.object [("failure", .str reason)] := by
      rw [toWire, hok, hreason]
      rfl
    have hflat : flatten (Json.object [("failure", .str reason)])
        = .obj [(text "ok", .bool false), (text "reason", .str reason)] := rfl
    rw [hwire]
    refine check_of_flat hflat ?_ ?_
    · rw [hok]
      exact required_eq_good rfl (Check.bool_bool false)
    · rw [hreason]
      exact optional_eq_good (a := some reason) rfl fun reason _ =>
        ⟨nofun, Check.string_str reason⟩

end SnapshotStatus

/-! ## Records -/

@[simp] theorem LedgerPhase.check_name (p : LedgerPhase) :
    LedgerPhase.check (.str p.name) = .good p := by
  cases p <;> exact Check.word_str (by decide +kernel) rfl

theorem Signed.check_object {s : Signed} {value signature transcript : Json}
    (hvalue : Message.check value = .good s.value)
    (hsignature : Hex.check signature = .good s.signature)
    (htranscript : Check.list (Check.upTo 255) transcript = .good s.transcript) :
    Signed.check (Json.object
      [("value", value), ("signature", signature), ("transcript", transcript)]) = .good s := by
  refine Checked.seq_eq_good (Checked.seq_eq_good (Checked.map_eq_good ?_ _) ?_) ?_
  · exact required_eq_good rfl hvalue
  · exact required_eq_good rfl hsignature
  · exact defaulted_eq_good rfl htranscript

theorem Envelope.check_object {e : Envelope} {actor publicKey message : Json}
    (hactor : Actor.check actor = .good e.actor) (hkey : Hex.check publicKey = .good e.publicKey)
    (hmessage : Signed.check message = .good e.message) :
    Envelope.check (Json.object
      [("hand_id", Json.nat e.handId), ("game_id", Json.nat e.gameId), ("actor", actor),
        ("nonce", Json.nat e.nonce), ("public_key", publicKey), ("message", message)])
      = .good e := by
  refine Checked.seq_eq_good (Checked.seq_eq_good (Checked.seq_eq_good (Checked.seq_eq_good
    (Checked.seq_eq_good (Checked.map_eq_good ?_ _) ?_) ?_) ?_) ?_) ?_
  · exact required_eq_good rfl (Check.nat_nat e.handId)
  · exact required_eq_good rfl (Check.nat_nat e.gameId)
  · exact required_eq_good rfl hactor
  · exact required_eq_good rfl (Check.nat_nat e.nonce)
  · exact required_eq_good rfl hkey
  · exact required_eq_good rfl hmessage

namespace Finalized

/-- A recorded envelope is read back from any object in which its fields are found. -/
theorem ofMembers_of_find? {ms : Table Text Json} {f : Finalized} {envelope status : Json}
    (henvelope : (FieldName.wire "envelope").find? ms = some (text "envelope", envelope))
    (hstatus : (FieldName.wire "snapshot_status").find? ms = some (text "snapshot_status", status))
    (hphase : (FieldName.wire "applied_phase").find? ms
      = some (text "applied_phase", .str f.phase.name))
    (hseqId : (FieldName.wire "snapshot_sequence_id").find? ms
      = some (text "snapshot_sequence_id", Json.nat f.seqId))
    (hcreated : optional (.wire "created_timestamp") ms Check.nat = .good f.createdAt)
    (hcheck : Envelope.check envelope = .good f.envelope)
    (hcheck' : SnapshotStatus.check status = .good f.status) : ofMembers ms = .good f := by
  refine Checked.seq_eq_good (Checked.seq_eq_good (Checked.seq_eq_good (Checked.seq_eq_good
    (Checked.map_eq_good ?_ _) ?_) ?_) ?_) hcreated
  · exact required_eq_good henvelope hcheck
  · exact required_eq_good hstatus hcheck'
  · exact required_eq_good hphase (LedgerPhase.check_name f.phase)
  · exact required_eq_good hseqId (Check.nat_nat f.seqId)

/-- The nested layout of an envelope without a transcript and without the time at which it was made,
its other parts being written in whatever form. -/
def nested (f : Finalized) (actor publicKey value signature status : Json) : Json :=
  Json.object [
    ("envelope", Json.object [
      ("hand_id", Json.nat f.envelope.handId),
      ("game_id", Json.nat f.envelope.gameId),
      ("actor", actor),
      ("nonce", Json.nat f.envelope.nonce),
      ("public_key", publicKey),
      ("message", Json.object [
        ("value", value), ("signature", signature), ("transcript", .arr [])])]),
    ("snapshot_status", status),
    ("applied_phase", .str f.phase.name),
    ("snapshot_sequence_id", Json.nat f.seqId)]

theorem check_nested {f : Finalized} (htranscript : f.envelope.message.transcript = [])
    (hcreated : f.createdAt = none) {actor publicKey value signature status : Json}
    (hactor : Actor.check actor = .good f.envelope.actor)
    (hkey : Hex.check publicKey = .good f.envelope.publicKey)
    (hvalue : Message.check value = .good f.message)
    (hsignature : Hex.check signature = .good f.envelope.message.signature)
    (hstatus : SnapshotStatus.check status = .good f.status) :
    check (f.nested actor publicKey value signature status) = .good f := by
  have hsigned : Signed.check (Json.object
      [("value", value), ("signature", signature), ("transcript", .arr [])])
        = .good f.envelope.message := by
    apply Signed.check_object hvalue hsignature
    rw [htranscript]
    rfl
  refine ofMembers_of_find? rfl rfl rfl rfl ?_ (Envelope.check_object hactor hkey hsigned) hstatus
  rw [hcreated]
  exact optional_eq_none rfl

end Finalized

@[simp] theorem Signed.check_toJson (s : Signed) : Signed.check s.toJson = .good s :=
  check_object s.value.check_toJson s.signature.check_toJson
    (Check.list_map Check.upTo_nat s.transcript)

@[simp] theorem Envelope.check_toJson (e : Envelope) : Envelope.check e.toJson = .good e :=
  check_object e.actor.check_toJson e.publicKey.check_toJson e.message.check_toJson

end MentalPoker
