import MentalPoker.Proofs.Envelope.ReadBack

/-!
# Who an actor on the wire is

On the wire the ids of a player stand under the key `player` and that of a shuffler under the key
`shuffler`, so that the key tells who made an envelope. The object under the key may hold more than
ids, and its members are written over the kind that the key tells. So a kind in the object comes
before the key. It is the only member that can change who the actor is: with no kind in the object,
or the same, the actor is the one of the key with the ids that the object holds.

## The architecture

* **`get?_overlay`**: what stands under a key when members are written over others. Induction on the
  members.
* **`flatten_under`**, **`find?_kind`**, **`find?_id`**: the flat form of an object under a key.
* **`good_of_flat`**: what a good actor says about its flat form.
* **`Told`**: who is told of under a key; `check_under_iff` says that this is who is decoded.
-/

namespace MentalPoker

namespace Schema

variable {α β : Type}

theorem Checked.seq_eq_good_iff {f : Checked (α → β)} {x : Checked α} {b : β} :
    f <*> x = .good b ↔ ∃ g a, f = .good g ∧ x = .good a ∧ g a = b := by
  constructor
  · intro h
    obtain ⟨⟨g, hf⟩, a, hx⟩ := Checked.good_of_seq h
    rw [seq_eq_good hf hx] at h
    exact ⟨g, a, hf, hx, Checked.good.inj h⟩
  · rintro ⟨g, a, hf, hx, rfl⟩
    exact seq_eq_good hf hx

/-- A field of an object reads as a value. -/
def Reads (members : Table Text Json) (name : FieldName) (check : Json → Checked α) (a : α) :
    Prop :=
  ∃ key v, name.find? members = some (key, v) ∧ check v = .good a

/-- A value that an optional field comes to stands in the object. -/
theorem reads_of_optional {name : FieldName} {members : Table Text Json}
    {check : Json → Checked α} {a : α} (h : optional name members check = .good (some a)) :
    Reads members name check a := by
  unfold optional at h
  split at h
  · cases h
  · next key v _ hfind =>
    cases hcheck : check v with
    | good a' =>
      rw [hcheck] at h
      cases h
      exact ⟨key, v, hfind, hcheck⟩
    | bad issues =>
      rw [hcheck] at h
      cases h
  · cases h

end Schema

open Schema

theorem ActorKind.name_injective {k k' : ActorKind} (h : k.name = k'.name) : k = k' := by
  revert h
  cases k <;> cases k' <;> decide +kernel

namespace Actor

/-! ## Members written over others -/

theorem get?_overlay {base members : Table Text Json} (h : (Table.keys members).Nodup)
    (key : Text) :
    Table.get? key (overlay base members)
      = (Table.get? key members).or (Table.get? key base) := by
  induction members generalizing base with
  | nil => rfl
  | cons entry rest ih =>
    obtain ⟨hfirst, hrest⟩ := List.nodup_cons.mp h
    show Table.get? key (overlay (Table.insert entry.1 entry.2 base) rest) = _
    rw [ih hrest, Table.get?_insert, Table.get?]
    by_cases hkey : key = entry.1
    · -- the key does not come again
      have hnone : Table.get? key rest = none := Table.get?_eq_none_iff.mpr (hkey ▸ hfirst)
      rw [if_pos hkey, if_pos hkey, hnone]
      rfl
    · rw [if_neg hkey, if_neg hkey]

/-! ## The flat form of an object under a key -/

/-- An object under the key for a kind. -/
def under (key : ActorKind) (inner : Table Text Json) : Json :=
  .obj [(key.name, .obj inner)]

/-- The members of its flat form. -/
def flat (key : ActorKind) (inner : Table Text Json) : Table Text Json :=
  overlay [(text "kind", .str key.name)] inner

theorem flatten_under {key : ActorKind} (hkey : key ≠ .none) (inner : Table Text Json) :
    flatten (under key inner) = .ok (.obj (flat key inner)) := by
  cases key with
  | none => exact absurd rfl hkey
  | player => rfl
  | shuffler => rfl

section Flat

variable {inner : Table Text Json} (hinner : (Table.keys inner).Nodup)
include hinner

theorem get?_flat (key : ActorKind) {k : Text} (hk : k ≠ text "kind") :
    Table.get? k (flat key inner) = Table.get? k inner := by
  have hbase : Table.get? k [(text "kind", Json.str key.name)] = none := if_neg hk
  rw [flat, get?_overlay hinner, hbase, Option.or_none]

/-- A kind in the object comes before the key. -/
theorem find?_kind (key : ActorKind) :
    (FieldName.wire "kind").find? (flat key inner)
      = some (text "kind", (Table.get? (text "kind") inner).getD (.str key.name)) := by
  have hget : Table.get? (text "kind") (flat key inner)
      = some ((Table.get? (text "kind") inner).getD (.str key.name)) := by
    rw [flat, get?_overlay hinner]
    cases Table.get? (text "kind") inner <;> rfl
  have hname : (FieldName.wire "kind").first = text "kind" := by decide +kernel
  rw [FieldName.find?, hname, hget]

/-- The other fields are those of the object. -/
theorem find?_id (key : ActorKind) {name : FieldName} (hfirst : name.first ≠ text "kind")
    (hsecond : name.second ≠ some (text "kind")) :
    name.find? (flat key inner) = name.find? inner := by
  rw [FieldName.find?, FieldName.find?, get?_flat hinner key hfirst]
  cases hname : name.second with
  | none => rfl
  | some k =>
    have hk : k ≠ text "kind" := fun h => hsecond (by rw [hname, h])
    simp only [Option.bind_some, get?_flat hinner key hk]

theorem optional_flat {α : Type} (key : ActorKind) {name : FieldName}
    (hfirst : name.first ≠ text "kind") (hsecond : name.second ≠ some (text "kind"))
    (check : Json → Checked α) :
    optional name (flat key inner) check = optional name inner check := by
  rw [Schema.optional, Schema.optional, find?_id hinner key hfirst hsecond]

end Flat

/-! ## What a good actor says about its flat form -/

theorem eq_name_of_checkKind {v : Json} {k : ActorKind}
    (h : Check.word .literal (ActorKind.all.map fun k => (k.name, k)) v = .good k) :
    v = .str k.name := by
  unfold Check.word at h
  split at h
  · next t =>
    unfold Check.unicode at h
    split at h
    · dsimp only at h
      split at h
      · next found hget =>
        cases h
        obtain ⟨k', -, heq⟩ := List.mem_map.mp (Table.mem_of_get?_eq_some hget)
        obtain ⟨hname, rfl⟩ := Prod.mk.inj heq
        rw [hname]
      · cases h
    · cases h
  · cases h

theorem fields_of_ofFields {v : Json} {kind : ActorKind} {seatId : Option (Fin 256)}
    {playerId : Option Nat} {shufflerId : Option Int} {a : Actor}
    (h : ofFields v kind seatId playerId shufflerId = .good a) :
    kind = a.kind ∧ seatId = a.seatId ∧ playerId = a.playerId ∧ shufflerId = a.shufflerId := by
  unfold ofFields at h
  split at h
  · cases h
    exact ⟨rfl, rfl, rfl, rfl⟩
  · cases h

/-- The converse of `check_of_flat`. -/
theorem good_of_flat {v : Json} {members : Table Text Json} {a : Actor}
    (hflat : flatten v = .ok (.obj members)) (h : check v = .good a) :
    required (.wire "kind") members
        (Check.word .literal (ActorKind.all.map fun k => (k.name, k))) = .good a.kind
      ∧ optional (.wire "seat_id") members (Check.upTo 255) = .good a.seatId
      ∧ optional (.wire "player_id") members Check.nat = .good a.playerId
      ∧ optional (.wire "shuffler_id") members Check.int = .good a.shufflerId := by
  unfold check at h
  rw [hflat] at h
  simp only [Check.model, Checked.andThen] at h
  split at h
  · next fields hfields =>
    obtain ⟨_, shufflerId, hthree, hshuffler, rfl⟩ := Checked.seq_eq_good_iff.mp hfields
    obtain ⟨_, playerId, htwo, hplayer, rfl⟩ := Checked.seq_eq_good_iff.mp hthree
    obtain ⟨_, seatId, hone, hseat, rfl⟩ := Checked.seq_eq_good_iff.mp htwo
    cases hkind : required (.wire "kind") members
        (Check.word .literal (ActorKind.all.map fun k => (k.name, k))) with
    | bad issues =>
      rw [hkind] at hone
      cases hone
    | good kind =>
      rw [hkind] at hone
      cases hone
      obtain ⟨rfl, rfl, rfl, rfl⟩ := fields_of_ofFields h
      exact ⟨rfl, hseat, hplayer, hshuffler⟩
  · cases h

/-! ## Who is told of -/

/-- The actor who is told of by an object under a key: of the kind in the object, if one stands
there, or else of that of the key, and with the ids in the object. -/
structure Told (key : ActorKind) (inner : Table Text Json) (a : Actor) : Prop where
  kind : (Table.get? (text "kind") inner).getD (.str key.name) = .str a.kind.name
  seatId : optional (.wire "seat_id") inner (Check.upTo 255) = .good a.seatId
  playerId : optional (.wire "player_id") inner Check.nat = .good a.playerId
  shufflerId : optional (.wire "shuffler_id") inner Check.int = .good a.shufflerId

theorem check_under_iff {key : ActorKind} (hkey : key ≠ .none) {inner : Table Text Json}
    (hinner : (Table.keys inner).Nodup) {a : Actor} :
    check (under key inner) = .good a ↔ Told key inner a := by
  have hflat := flatten_under hkey inner
  have hkind := find?_kind hinner key
  have hseat : optional (.wire "seat_id") (flat key inner) (Check.upTo 255)
      = optional (.wire "seat_id") inner (Check.upTo 255) :=
    optional_flat hinner key (by decide +kernel) (by decide +kernel) _
  have hplayer : optional (.wire "player_id") (flat key inner) Check.nat
      = optional (.wire "player_id") inner Check.nat :=
    optional_flat hinner key (by decide +kernel) (by decide +kernel) _
  have hshuffler : optional (.wire "shuffler_id") (flat key inner) Check.int
      = optional (.wire "shuffler_id") inner Check.int :=
    optional_flat hinner key (by decide +kernel) (by decide +kernel) _
  constructor
  · intro h
    obtain ⟨hgood, hseat', hplayer', hshuffler'⟩ := good_of_flat hflat h
    exact ⟨eq_name_of_checkKind (good_of_required hkind hgood), hseat ▸ hseat',
      hplayer ▸ hplayer', hshuffler ▸ hshuffler'⟩
  · intro h
    refine check_of_flat hflat ?_ (hseat.trans h.seatId) (hplayer.trans h.playerId)
      (hshuffler.trans h.shufflerId)
    exact required_eq_good (hkind.trans (by rw [h.kind])) (checkKind_name a.kind)

/-- The kind is that of the key unless the object names another one. -/
theorem Told.kind_eq_iff {key : ActorKind} {inner : Table Text Json} {a : Actor}
    (h : Told key inner a) :
    a.kind = key
      ↔ ∀ other : ActorKind, Table.get? (text "kind") inner = some (.str other.name) →
          other = key := by
  have hkind := h.kind
  cases hget : Table.get? (text "kind") inner with
  | none =>
    rw [hget] at hkind
    exact iff_of_true (ActorKind.name_injective (Json.str.inj hkind)).symm nofun
  | some v =>
    rw [hget] at hkind
    obtain rfl : v = .str a.kind.name := hkind
    constructor
    · rintro hsame other hother
      exact (ActorKind.name_injective (Json.str.inj (Option.some.inj hother))).symm.trans hsame
    · intro hnone
      exact hnone a.kind rfl

/-! ## The ids that a kind requires -/

theorem ids_of_player {a : Actor} (h : a.kind = .player) :
    ∃ seat id, a.seatId = some seat ∧ a.playerId = some id := by
  have hcomplete := a.complete
  rw [h] at hcomplete
  cases hseat : a.seatId with
  | none =>
    rw [hseat] at hcomplete
    cases hcomplete
  | some seat =>
    cases hid : a.playerId with
    | none =>
      rw [hseat, hid] at hcomplete
      cases hcomplete
    | some id => exact ⟨seat, id, rfl, rfl⟩

theorem id_of_shuffler {a : Actor} (h : a.kind = .shuffler) : ∃ id, a.shufflerId = some id := by
  have hcomplete := a.complete
  rw [h] at hcomplete
  cases hid : a.shufflerId with
  | none =>
    rw [hid] at hcomplete
    cases hcomplete
  | some id => exact ⟨id, rfl⟩

/-- **The key decides who it is**, unless the object under it names another kind. An object under a
key decodes just when it tells of an actor, and to that one. The actor is of the kind of the key just
when no other kind stands in the object. A player has the seat and the id that the object holds, and
the views refer to the player by that seat; a shuffler has the id that the object holds, no seat, and
the views refer to the shuffler by that id. -/
theorem keys_decide_unless_contradicted {key : ActorKind} (hkey : key ≠ .none)
    {inner : Table Text Json} (hinner : (Table.keys inner).Nodup) (a : Actor) :
    (check (under key inner) = .good a ↔ Told key inner a)
      ∧ (Told key inner a →
        (a.kind = key
            ↔ ∀ other : ActorKind, Table.get? (text "kind") inner = some (.str other.name) →
                other = key)
          ∧ (a.kind = .player → ∃ seat id,
              Reads inner (.wire "seat_id") (Check.upTo 255) seat
                ∧ Reads inner (.wire "player_id") Check.nat id
                ∧ a.seatId = some seat ∧ a.playerId = some id
                ∧ a.seat = seat.val ∧ a.contributor = text "seat:" ++ Text.ofNat seat.val)
          ∧ (a.kind = .shuffler → ∃ id,
              Reads inner (.wire "shuffler_id") Check.int id
                ∧ a.shufflerId = some id
                ∧ a.seat = unknownSeat
                ∧ a.contributor = text "shuffler:" ++ Text.ofInt id)) := by
  refine ⟨check_under_iff hkey hinner, fun htold => ⟨htold.kind_eq_iff, fun hplayer => ?_,
    fun hshuffler => ?_⟩⟩
  · obtain ⟨seat, id, hseat, hid⟩ := ids_of_player hplayer
    have hreadsSeat := reads_of_optional (hseat ▸ htold.seatId)
    have hreadsId := reads_of_optional (hid ▸ htold.playerId)
    refine ⟨seat, id, hreadsSeat, hreadsId, hseat, hid, ?_, ?_⟩
    · simp only [Actor.seat, hplayer, hseat]
    · simp only [contributor, hplayer, hseat, Option.elim_some]
  · obtain ⟨id, hid⟩ := id_of_shuffler hshuffler
    have hreads := reads_of_optional (hid ▸ htold.shufflerId)
    refine ⟨id, hreads, hid, ?_, ?_⟩
    · simp only [Actor.seat, hshuffler]
    · simp only [contributor, hshuffler, hid, Option.elim_some]

/-- A player with the id of a shuffler too, in several spellings. -/
def crowded : Table Text Json :=
  Json.table [("seatId", .int 2), ("player_id", Json.lit "5"), ("shuffler_id", .int 9)]

theorem keys_decide_unless_contradicted_crowded :
    ∃ a, check (under .player crowded) = .good a ∧ Told .player crowded a ∧ a.kind = .player
      ∧ a.seat = 2 ∧ a.contributor = text "seat:2" := by
  have hgood : check (under .player crowded) = .good ⟨.player, some 2, some 5, some 9, rfl⟩ := rfl
  have hkey : ActorKind.player ≠ .none := by decide
  have hinner : (Table.keys crowded).Nodup := by decide +kernel
  obtain ⟨hdecodes, htells⟩ := keys_decide_unless_contradicted hkey hinner _
  have htold := hdecodes.mp hgood
  obtain ⟨-, hplayer, -⟩ := htells htold
  obtain ⟨seat, id, -, -, hseat, -, hshown, hcontributor⟩ := hplayer rfl
  cases hseat
  exact ⟨_, hgood, htold, rfl, hshown, hcontributor⟩

/-- **A shuffler under the key for players.** The object names its kind, and a share of this actor
would be counted for the shuffler. -/
theorem nested_kinds_override_keys :
    ∃ a, check (under .player (Json.table [("kind", Json.lit "shuffler"), ("seat_id", .int 2),
        ("player_id", .int 5), ("shuffler_id", .int 9)])) = .good a
      ∧ a.kind = .shuffler ∧ a.seat = unknownSeat ∧ a.contributor = text "shuffler:9" :=
  ⟨⟨.shuffler, some 2, some 5, some 9, rfl⟩, rfl, rfl, rfl, by decide +kernel⟩

end Actor

end MentalPoker
