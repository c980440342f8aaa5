import MentalPoker.Feed.Event
import MentalPoker.Proofs.Envelope.Layouts
import MentalPoker.Proofs.Envelope.ReadBack
import MentalPoker.Proofs.Envelope.Spelling

/-!
# Events under either spelling

Producers write the names of fields with underscores or in camel case. Both decoders take either,
for each field on its own and at every depth: payloads that differ in spellings only decode to the
same, or do not decode. What the decoders do before a check keeps objects alike, and all checks
behind it are lenient.

## The architecture

* **`FeedEvent.sameFields_arrange`**: what is done to the members of an event before its check.
* **`FeedEvent.check_congr`**: the check, where the snapshot of a hand is the one value that is not
  looked into.
* **`Respelled`**: values that differ in spellings only; **`Respelled.alike`**.
* **`decode_respelled`**: both decoders.
-/

namespace MentalPoker

open Schema

/-! ## What a decoder gives -/

theorem toOption_decoded {α : Type} (x : Checked α) (subject : List Issue → Text) :
    (x.decoded subject).toOption = x.toOption := by
  cases x <;> rfl

theorem Finalized.toOption_decode [Json.Room] {q : Payload} {members : Table Text Json}
    (hq : q.read = .ok (.obj members)) :
    (Finalized.decode q).toOption
      = (Finalized.ofMembers (Table.erase (text "type") (Layout.merge members))).toOption := by
  rw [Finalized.decode, Payload.load_of_read hq]
  exact toOption_decoded _ _

theorem FeedEvent.toOption_decode [Json.Room] {q : Payload} {members : Table Text Json}
    (hq : q.read = .ok (.obj members)) (name : Option Text) :
    (FeedEvent.decode name q).toOption
      = (FeedEvent.check (.obj (FeedEvent.arrange name members))).toOption := by
  rw [FeedEvent.decode, Payload.load_of_read hq]
  exact toOption_decoded _ _

/-! ## Kinds of events -/

theorem Card.lenient_check : Lenient Card.check := by
  refine Lenient.model (fun ms ns h => ?_) _
  refine Checked.seq_congr (Checked.fmap_congr ?_ _) ?_
  · exact required_congr (by simp [wireFields, bilingual]) h (lenient_range 2 12)
  · exact required_congr (by simp [wireFields, bilingual]) h (lenient_word _ _)

namespace FeedEvent

theorem lenient_checkName : Lenient checkName := .of_simple (fun _ => rfl) fun _ => rfl

theorem lenient_checkPositive : Lenient checkPositive := .of_simple (fun _ => rfl) fun _ => rfl

theorem lenient_checkPlayer : LenientFields checkPlayer := by
  intro ms ns h
  refine Checked.seq_congr (Checked.seq_congr (Checked.seq_congr
    (Checked.fmap_congr ?_ _) ?_) ?_) ?_
  · exact required_congr (by simp [wireFields, bilingual]) h lenient_nat
  · exact required_congr (by simp [wireFields, bilingual]) h (lenient_upTo 255)
  · exact required_congr (by simp [wireFields, bilingual]) h lenient_checkName
  · exact required_congr (by simp [wireFields, bilingual]) h Hex.lenient_check

theorem lenient_checkCommunity : LenientFields checkCommunity := by
  intro ms ns h
  refine Checked.seq_congr (Checked.seq_congr (Checked.fmap_congr ?_ _) ?_) ?_
  · exact required_congr (by simp [wireFields, bilingual]) h lenient_nat
  · exact required_congr (by simp [wireFields, bilingual]) h lenient_nat
  · exact required_congr (by simp [wireFields, bilingual]) h Card.lenient_check.list

theorem lenient_checkDecryptable : LenientFields checkDecryptable := by
  intro ms ns h
  refine Checked.seq_congr (Checked.seq_congr (Checked.seq_congr
    (Checked.fmap_congr ?_ _) ?_) ?_) ?_
  · exact required_congr (by simp [wireFields, bilingual]) h lenient_nat
  · exact required_congr (by simp [wireFields, bilingual]) h lenient_nat
  · exact required_congr (by simp [wireFields, bilingual]) h (lenient_upTo 255)
  · exact required_congr (by simp [wireFields, bilingual]) h (lenient_upTo 1)

theorem lenient_checkHoleCard : LenientFields checkHoleCard := by
  intro ms ns h
  refine Checked.seq_congr (Checked.seq_congr (Checked.seq_congr (Checked.seq_congr
    (Checked.fmap_congr ?_ _) ?_) ?_) ?_) ?_
  · exact required_congr (by simp [wireFields, bilingual]) h lenient_nat
  · exact required_congr (by simp [wireFields, bilingual]) h lenient_nat
  · exact required_congr (by simp [wireFields, bilingual]) h (lenient_upTo 255)
  · exact required_congr (by simp [wireFields, bilingual]) h (lenient_upTo 1)
  · exact required_congr (by simp [wireFields, bilingual]) h Card.lenient_check

theorem lenient_checkCompleted : LenientFields checkCompleted := by
  intro ms ns h
  refine Checked.seq_congr (Checked.fmap_congr ?_ _) ?_
  · exact required_congr (by simp [wireFields, bilingual]) h lenient_nat
  · exact required_congr (by simp [wireFields, bilingual]) h lenient_nat

variable {ms ns : Table Text Json}

/-- The snapshot of a hand is taken as it is. -/
theorem checkHand_congr (h : SameFields ms ns)
    (hsnapshot : Table.get? (text "snapshot") ms = Table.get? (text "snapshot") ns) :
    (checkHand ms).toOption = (checkHand ns).toOption := by
  have hvalue : valueOf? (text "snapshot") ms = valueOf? (text "snapshot") ns := by
    have hkey := isKnown_key (text "snapshot") (by simp [wireKeys])
    rwa [← get?_eq_valueOf? hkey, ← get?_eq_valueOf? hkey]
  refine Checked.seq_congr (Checked.seq_congr (Checked.seq_congr (Checked.seq_congr
    (Checked.fmap_congr ?_ _) ?_) ?_) ?_) ?_
  · exact required_congr (by simp [wireFields, bilingual]) h lenient_nat
  · exact required_congr (by simp [wireFields, bilingual]) h lenient_nat
  · exact required_congr (by simp [wireFields, bilingual]) h (lenient_range 1 8)
  · exact optional_congr (by simp [wireFields, bilingual]) h lenient_checkPositive
  · exact optional_congr_of_eq (by simp [wireFields, bilingual]) h hvalue

theorem branch_congr (kind : Kind) (h : SameFields ms ns)
    (hsnapshot : kind = .handCreated →
      Table.get? (text "snapshot") ms = Table.get? (text "snapshot") ns) :
    (branch kind ms).toOption = (branch kind ns).toOption := by
  cases kind with
  | playerCreated => exact lenient_checkPlayer h
  | handCreated => exact Checked.fmap_congr (checkHand_congr h (hsnapshot rfl)) _
  | gameEvent => exact Checked.fmap_congr (Finalized.lenient_ofMembers h) _
  | communityDecrypted => exact lenient_checkCommunity h
  | cardDecryptable => exact lenient_checkDecryptable h
  | holeCardDecrypted => exact lenient_checkHoleCard h
  | handCompleted => exact lenient_checkCompleted h

theorem isKnown_type : (FieldName.mk (text "type") none).isKnown = true :=
  isKnown_key _ (by simp [wireKeys])

theorem check_congr (h : SameFields ms ns)
    (hsnapshot : Table.get? (text "type") ms = some (.str Kind.handCreated.name) →
      Table.get? (text "snapshot") ms = Table.get? (text "snapshot") ns) :
    (check (.obj ms)).toOption = (check (.obj ns)).toOption := by
  refine tagged_congr isKnown_type h fun name check htype hcheck => ?_
  obtain ⟨kind, -, hentry⟩ := List.mem_map.mp (Table.mem_of_get?_eq_some hcheck)
  obtain ⟨rfl, rfl⟩ := Prod.mk.inj hentry
  exact branch_congr kind h fun hkind => hsnapshot (hkind ▸ htype)

/-! ## Before the check -/

theorem sameFields_withType (name : Option Text) (h : SameFields ms ns) :
    SameFields (withType name ms) (withType name ns) := by
  unfold withType
  rw [h.has isKnown_type]
  split
  · exact h
  · split
    · exact h.insert (fun _ _ => eq_key_of_fieldOf isKnown_type)
        (fun _ _ => eq_key_of_fieldOf isKnown_type) (.refl _)
    · exact h

theorem snapshot_withType (name : Option Text) (members : Table Text Json) :
    Table.get? (text "snapshot") (withType name members)
      = Table.get? (text "snapshot") members := by
  unfold withType
  split
  · rfl
  · split
    · exact Table.get?_insert_of_ne (by decide +kernel) _ _
    · rfl

/-- The layouts of a recorded envelope have the same type. -/
theorem type_arrange (name : Option Text) (h : EachOnce (withType name ms)) :
    Table.get? (text "type") (arrange name ms)
      = Table.get? (text "type") (withType name ms) := by
  rw [get?_eq_valueOf? isKnown_type, get?_eq_valueOf? isKnown_type]
  unfold arrange
  dsimp only
  split
  · exact Layout.valueOf?_merge h (by decide +kernel) (by decide +kernel) (by decide +kernel)
  · rfl

theorem sameFields_arrange (name : Option Text) (h : SameFields ms ns) :
    SameFields (arrange name ms) (arrange name ns) := by
  have htyped := sameFields_withType name h
  unfold arrange
  dsimp only
  simp only [htyped.get?_str isKnown_type]
  split
  · exact Layout.sameFields_merge htyped
  · exact htyped

/-- The announcement of a hand is in one layout only. -/
theorem arrange_handCreated (name : Option Text) (h : EachOnce (withType name ms))
    (htype : Table.get? (text "type") (arrange name ms) = some (.str Kind.handCreated.name)) :
    arrange name ms = withType name ms := by
  rw [type_arrange name h] at htype
  have hother : some (Json.str Kind.handCreated.name) ≠ some (.str Kind.gameEvent.name) := by
    decide +kernel
  unfold arrange
  dsimp only
  rw [htype, if_neg hother]

end FeedEvent

/-! ## Both decoders -/

section Decoders

variable [Json.Room] {q q' : Payload}

/-- Objects with the same fields and the same snapshot. -/
theorem decode_sameFields {ms ns : Table Text Json} (h : SameFields ms ns)
    (hsnapshot : Table.get? (text "snapshot") ms = Table.get? (text "snapshot") ns)
    (hq : q.read = .ok (.obj ms)) (hq' : q'.read = .ok (.obj ns)) :
    (Finalized.decode q).toOption = (Finalized.decode q').toOption
      ∧ ∀ name, (FeedEvent.decode name q).toOption = (FeedEvent.decode name q').toOption := by
  constructor
  · rw [Finalized.toOption_decode hq, Finalized.toOption_decode hq']
    exact Finalized.lenient_ofMembers
      ((Layout.sameFields_merge h).erase FeedEvent.isKnown_type)
  · intro name
    rw [FeedEvent.toOption_decode hq, FeedEvent.toOption_decode hq']
    have htyped := FeedEvent.sameFields_withType name h
    have harranged := FeedEvent.sameFields_arrange name h
    refine FeedEvent.check_congr harranged fun htype => ?_
    have htype' := (harranged.get?_str FeedEvent.isKnown_type _).mp htype
    rw [FeedEvent.arrange_handCreated name htyped.left htype,
      FeedEvent.arrange_handCreated name htyped.right htype', FeedEvent.snapshot_withType,
      FeedEvent.snapshot_withType, hsnapshot]

theorem Payload.load_of_notObject {v : Json} (hq : q.read = .ok v)
    (hv : ∀ members, v ≠ .obj members) : q.load = .error (.notObject v) := by
  rw [Payload.load, hq]
  cases v with
  | obj members => exact absurd rfl (hv members)
  | _ => rfl

/-- Payloads that are alike decode to the same, or not at all, if the snapshot is the same. -/
theorem decode_alike {v w : Json} (h : Alike v w)
    (hsnapshot : Json.member "snapshot" v = Json.member "snapshot" w)
    (hq : q.read = .ok v) (hq' : q'.read = .ok w) :
    (Finalized.decode q).toOption = (Finalized.decode q').toOption
      ∧ ∀ name, (FeedEvent.decode name q).toOption = (FeedEvent.decode name q').toOption := by
  cases h with
  | refl =>
    have hload : q.load = q'.load := by rw [Payload.load, Payload.load, hq, hq']
    simp only [Finalized.decode, FeedEvent.decode, hload, implies_true, and_self]
  | arr =>
    simp only [Finalized.decode, FeedEvent.decode, Payload.load_of_notObject hq nofun,
      Payload.load_of_notObject hq' nofun]
    exact ⟨rfl, fun _ => rfl⟩
  | obj hms hns hvalues =>
    have h : SameFields _ _ := ⟨hms, hns, hvalues⟩
    refine decode_sameFields h ?_ hq hq'
    rcases h.get?_cases (isKnown_key (text "snapshot") (by simp [wireKeys])) with
      ⟨hms, hns⟩ | ⟨v, w, hms, hns, -⟩
    · rw [hms, hns]
    · rw [Json.member, Json.member, hms, hns] at hsnapshot
      rw [hms, hns]
      exact congrArg some hsnapshot

/-- **Spellings do not matter.** Where fields of a payload get their other spellings, be it some of
them or all, at any depth and in any layout, the payload still decodes to the same, or still does
not decode. The snapshot of a hand stays as it is: nobody looks for fields in there. -/
theorem decode_respelled {v w : Json} (h : Respelled v w)
    (hsnapshot : Json.member "snapshot" v = Json.member "snapshot" w)
    (hq : q.read = .ok v) (hq' : q'.read = .ok w) :
    (Finalized.decode q).toOption = (Finalized.decode q').toOption
      ∧ ∀ name, (FeedEvent.decode name q).toOption = (FeedEvent.decode name q').toOption :=
  decode_alike h.alike hsnapshot hq hq'

end Decoders

namespace RiverRaise

/-- A name in camel case or with underscores. -/
def spell (inCamelCase : Bool) (name : String) : Text :=
  if inCamelCase then camelCase (text name) else text name

def actor (inCamelCase : Bool) : Json :=
  Json.object [
    ("player", .obj [
      (spell inCamelCase "seat_id", .int 3),
      (spell inCamelCase "player_id", .int 40)])]

def message (inCamelCase : Bool) : Json :=
  Json.object [
    ("value", Json.object [
      ("type", Json.lit "player_river"),
      ("action", .obj [
        (if inCamelCase then text "RaiseTo" else text "raise_to",
          Json.object [("to", .int 250)])])]),
    ("signature", Json.lit "0x01")]

/-- The fields of the envelope. -/
def envelope (inCamelCase : Bool) : Table Text Json := [
  (spell inCamelCase "hand_id", .int 7),
  (spell inCamelCase "game_id", .int 1),
  (text "actor", actor inCamelCase),
  (text "nonce", .int 12),
  (spell inCamelCase "public_key", Json.lit "0xab"),
  (text "message", message inCamelCase)]

/-- The fields that recording adds. -/
def added (inCamelCase : Bool) : Table Text Json := [
  (spell inCamelCase "snapshot_status", Json.lit "success"),
  (spell inCamelCase "applied_phase", Json.lit "betting"),
  (spell inCamelCase "snapshot_sequence_id", .int 31)]

/-- A raise on the river in the flat layout, in camel case or with underscores. -/
def payload (inCamelCase : Bool) : Json := .obj (envelope inCamelCase ++ added inCamelCase)

theorem respelled_actor : Respelled (actor false) (actor true) :=
  .members (by decide +kernel) (by decide +kernel)
    (.cons (.members (by decide +kernel) (by decide +kernel)
      (.cons (.same _) (.cons (.same _) .nil))) .nil)

theorem respelled_message : Respelled (message false) (message true) := by
  refine .members (by decide +kernel) (by decide +kernel) (.cons ?_ (.cons (.same _) .nil))
  refine .members (by decide +kernel) (by decide +kernel) (.cons (.same _) (.cons ?_ .nil))
  exact .members (by decide +kernel) (by decide +kernel) (.cons (.same _) .nil)

theorem respelled_payload : Respelled (payload false) (payload true) :=
  .members (by decide +kernel) (by decide +kernel)
    (.cons (.same _) (.cons (.same _) (.cons respelled_actor (.cons (.same _) (.cons (.same _)
      (.cons respelled_message (.cons (.same _) (.cons (.same _) (.cons (.same _) .nil)))))))))

end RiverRaise

/-- The raise decodes in either spelling, and to the same. -/
theorem decode_respelled_riverRaise :
    Respelled (RiverRaise.payload false) (RiverRaise.payload true)
      ∧ (Finalized.decode (.value (RiverRaise.payload true))).toOption.isSome = true
      ∧ (Finalized.decode (.value (RiverRaise.payload false))).toOption
        = (Finalized.decode (.value (RiverRaise.payload true))).toOption
      ∧ (FeedEvent.decode (some (text "game_event")) (.value (RiverRaise.payload false))).toOption
        = (FeedEvent.decode (some (text "game_event"))
          (.value (RiverRaise.payload true))).toOption :=
  have hsame := decode_respelled RiverRaise.respelled_payload rfl
    (q := .value (RiverRaise.payload false)) rfl rfl
  ⟨RiverRaise.respelled_payload, by decide +kernel, hsame.1, hsame.2 _⟩

end MentalPoker
