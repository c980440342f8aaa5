import MentalPoker.Envelope
import MentalPoker.Proofs.Schema.Alike

/-!
# Envelopes under either spelling

The check of a recorded envelope, and with it the checks of all its parts, are lenient: neither the
order of members nor the spelling of a field makes a difference. Two parts have forms that are
flattened before they are checked, and there alike forms are flattened to alike ones.

## The architecture

* **`Bet.lenient_ofJson`**, **`Message.lenient_check`**: what players and shufflers sign.
* **`Actor.flatten_alike`**, **`SnapshotStatus.flatten_alike`**: forms that are flattened first.
* **`Envelope.lenient_check`**, **`Finalized.lenient_ofMembers`**: records.
-/

namespace MentalPoker

open Schema

theorem Hex.lenient_check : Lenient Hex.check := .of_simple (fun _ => rfl) fun _ => rfl

/-! ## Messages -/

theorem Chips.lenient_check : Lenient Chips.check := .of_simple (fun _ => rfl) fun _ => rfl

theorem Bet.lenient_checkAmount : Lenient Bet.checkAmount :=
  Lenient.only (by simp [wireFields, bilingual]) Chips.lenient_check _

theorem Bet.lenient_ofJson : Lenient Bet.ofJson := by
  refine Lenient.firstOf fun entry hentry => ?_
  simp only [List.mem_cons, List.not_mem_nil, or_false] at hentry
  rcases hentry with rfl | rfl | rfl
  · exact lenient_word _ _
  · exact (Lenient.only (by simp [wireFields, bilingual]) Bet.lenient_checkAmount _).map _
  · exact (Lenient.only (by simp [wireFields, bilingual]) Bet.lenient_checkAmount _).map _

namespace Message

theorem lenient_checkShare : LenientFields checkShare := by
  intro ms ns h
  refine Checked.seq_congr (Checked.seq_congr (Checked.fmap_congr ?_ _) ?_) ?_
  · exact required_congr (by simp [wireFields, bilingual]) h (lenient_upTo 255)
  · exact required_congr (by simp [wireFields, bilingual]) h Hex.lenient_check
  · exact required_congr (by simp [wireFields, bilingual]) h Hex.lenient_check

theorem lenient_checkShuffle : LenientFields checkShuffle := by
  intro ms ns h
  have hdeck : Lenient checkDeck := Hex.lenient_check.listOf 52
  refine Checked.seq_congr (Checked.seq_congr (Checked.seq_congr
    (Checked.fmap_congr ?_ _) ?_) ?_) ?_
  · exact required_congr (by simp [wireFields, bilingual]) h (lenient_upTo 65535)
  · exact required_congr (by simp [wireFields, bilingual]) h hdeck
  · exact required_congr (by simp [wireFields, bilingual]) h hdeck
  · exact required_congr (by simp [wireFields, bilingual]) h Hex.lenient_check

theorem lenient_checkBet (street : Street) : LenientFields (checkBet street) := fun _ _ h =>
  Checked.fmap_congr (required_congr (by simp [wireFields, bilingual]) h Bet.lenient_ofJson) _

theorem lenient_checkShowdown : LenientFields checkShowdown := by
  intro ms ns h
  refine Checked.seq_congr (Checked.seq_congr (Checked.fmap_congr ?_ _) ?_) ?_
  · exact required_congr (by simp [wireFields, bilingual]) h (Hex.lenient_check.listOf 2)
  · exact required_congr (by simp [wireFields, bilingual]) h ((lenient_upTo 255).listOf 2)
  · exact required_congr (by simp [wireFields, bilingual]) h (Hex.lenient_check.listOf 2)

theorem lenient_check : Lenient Message.check := by
  refine Lenient.tagged (isKnown_key _ (by simp [wireKeys])) fun entry hentry => ?_
  simp only [branches, Street.all, List.map_cons, List.map_nil, List.mem_append, List.mem_cons,
    List.not_mem_nil, or_false] at hentry
  rcases hentry with ((rfl | rfl | rfl) | rfl | rfl | rfl | rfl) | rfl
  · exact lenient_checkShuffle
  · exact fun _ _ h => Checked.fmap_congr (lenient_checkShare h) _
  · exact fun _ _ h => Checked.fmap_congr (lenient_checkShare h) _
  · exact lenient_checkBet .preflop
  · exact lenient_checkBet .flop
  · exact lenient_checkBet .turn
  · exact lenient_checkBet .river
  · exact lenient_checkShowdown

end Message

/-! ## Actors -/

namespace Actor

/-- Members written over others: each field has its value from the last of the objects that has
it. -/
theorem valueOf?_overlay {base members : Table Text Json} (h : EachOnce members)
    (hkeys : ∀ entry ∈ base, ∀ other ∈ members, fieldOf entry.1 = fieldOf other.1 →
      entry.1 = other.1) (field : Text) :
    valueOf? field (overlay base members)
      = (valueOf? field members).or (valueOf? field base) := by
  induction members generalizing base with
  | nil => rfl
  | cons entry rest ih =>
    obtain ⟨hfirst, hrest⟩ := List.pairwise_cons.mp h
    have hentry : ∀ e ∈ base, fieldOf e.1 = fieldOf entry.1 → e.1 = entry.1 := fun e he =>
      hkeys e he entry List.mem_cons_self
    have hwritten : ∀ e ∈ Table.insert entry.1 entry.2 base, ∀ other ∈ rest,
        fieldOf e.1 = fieldOf other.1 → e.1 = other.1 := by
      intro e he other hother hfield
      rcases mem_insert he with rfl | he
      · exact absurd hfield (hfirst other hother)
      · exact hkeys e he other (List.mem_cons_of_mem _ hother) hfield
    show valueOf? field (overlay (Table.insert entry.1 entry.2 base) rest) = _
    rw [ih hrest hwritten, valueOf?_insert hentry, valueOf?_cons]
    by_cases hfield : field = fieldOf entry.1
    · -- the field does not come again
      have hnone : valueOf? field rest = none :=
        valueOf?_eq_none_iff.mpr fun other hother =>
          hfield ▸ Ne.symm (hfirst other hother)
      rw [if_pos hfield, if_pos hfield.symm, hnone]
      rfl
    · rw [if_neg hfield, if_neg (Ne.symm hfield)]

theorem eachOnce_overlay {base members : Table Text Json} (hbase : EachOnce base)
    (h : EachOnce members)
    (hkeys : ∀ entry ∈ base, ∀ other ∈ members, fieldOf entry.1 = fieldOf other.1 →
      entry.1 = other.1) : EachOnce (overlay base members) := by
  induction members generalizing base with
  | nil => exact hbase
  | cons entry rest ih =>
    obtain ⟨hfirst, hrest⟩ := List.pairwise_cons.mp h
    have hentry : ∀ e ∈ base, fieldOf e.1 = fieldOf entry.1 → e.1 = entry.1 := fun e he =>
      hkeys e he entry List.mem_cons_self
    refine ih (hbase.insert hentry entry.2) hrest fun e he other hother hfield => ?_
    rcases mem_insert he with rfl | he
    · exact absurd hfield (hfirst other hother)
    · exact hkeys e he other (List.mem_cons_of_mem _ hother) hfield

/-- The kind stands under one key only, so that a kind within the nested object replaces it. -/
theorem sameFields_overlay {ms ns : Table Text Json} (h : SameFields ms ns) (kind : Json) :
    SameFields (overlay [(text "kind", kind)] ms) (overlay [(text "kind", kind)] ns) := by
  have hkind : (FieldName.mk (text "kind") none).isKnown = true :=
    isKnown_key _ (by simp [wireKeys])
  have hkeys (members : Table Text Json) : ∀ entry ∈ [(text "kind", kind)], ∀ other ∈ members,
      fieldOf entry.1 = fieldOf other.1 → entry.1 = other.1 := by
    intro entry hentry other _ hfield
    rw [List.mem_singleton.mp hentry] at hfield ⊢
    exact (eq_key_of_fieldOf hkind hfield.symm).symm
  have hone : EachOnce [(text "kind", kind)] := List.pairwise_singleton _ _
  refine ⟨eachOnce_overlay hone h.left (hkeys ms), eachOnce_overlay hone h.right (hkeys ns),
    fun field => ?_⟩
  rw [valueOf?_overlay h.left (hkeys ms), valueOf?_overlay h.right (hkeys ns)]
  rcases h.value_cases field with ⟨hms, hns⟩ | ⟨v, w, hms, hns, halike⟩
  · rw [hms, hns]
    exact rel_refl _
  · rw [hms, hns]
    exact .some halike

/-- Alike forms of an actor are flattened to alike ones, or refused together. -/
theorem flatten_alike {ms ns : Table Text Json} (h : SameFields ms ns) :
    (∃ m m', flatten (.obj ms) = .error m ∧ flatten (.obj ns) = .error m')
      ∨ ∃ v w, flatten (.obj ms) = .ok v ∧ flatten (.obj ns) = .ok w ∧ Alike v w := by
  have hnest (kind : String) {v w : Json} (halike : Alike v w) :
      (∃ m m', flatten.nest kind v = .error m ∧ flatten.nest kind w = .error m')
        ∨ ∃ v' w', flatten.nest kind v = .ok v' ∧ flatten.nest kind w = .ok w' ∧ Alike v' w' := by
    cases halike with
    | refl =>
      cases v with
      | obj members => exact .inr ⟨_, _, rfl, rfl, .refl _⟩
      | _ => exact .inl ⟨_, _, rfl, rfl⟩
    | arr => exact .inl ⟨_, _, rfl, rfl⟩
    | obj hms hns hvalues =>
      exact .inr ⟨_, _, rfl, rfl, (sameFields_overlay ⟨hms, hns, hvalues⟩ _).alike⟩
  unfold flatten Table.has
  dsimp only
  rcases h.get?_cases (isKnown_key (text "kind") (by simp [wireKeys])) with
    ⟨hms, hns⟩ | ⟨v, w, hms, hns, -⟩
  · rw [hms, hns]
    simp only [Option.isSome_none, Bool.false_eq_true, if_false]
    rcases h.get?_cases (isKnown_key (text "player") (by simp [wireKeys])) with
      ⟨hms, hns⟩ | ⟨v, w, hms, hns, halike⟩
    · rw [hms, hns]
      rcases h.get?_cases (isKnown_key (text "shuffler") (by simp [wireKeys])) with
        ⟨hms, hns⟩ | ⟨v, w, hms, hns, halike⟩
      · rw [hms, hns]
        exact .inr ⟨_, _, rfl, rfl, h.alike⟩
      · rw [hms, hns]
        exact hnest "shuffler" halike
    · rw [hms, hns]
      exact hnest "player" halike
  · rw [hms, hns]
    exact .inr ⟨_, _, rfl, rfl, h.alike⟩

/-- The fields of the flat form. -/
def fields (members : Table Text Json) :
    Checked (ActorKind × Option (Fin 256) × Option Nat × Option Int) :=
  (fun kind seat player shuffler => (kind, seat, player, shuffler))
    <$> required (.wire "kind") members
      (Check.word .literal (ActorKind.all.map fun k => (k.name, k)))
    <*> optional (.wire "seat_id") members (Check.upTo 255)
    <*> optional (.wire "player_id") members Check.nat
    <*> optional (.wire "shuffler_id") members Check.int

theorem lenient_fields : LenientFields fields := by
  intro ms ns h
  refine Checked.seq_congr (Checked.seq_congr (Checked.seq_congr
    (Checked.fmap_congr ?_ _) ?_) ?_) ?_
  · exact required_congr (by simp [wireFields, bilingual]) h (lenient_word _ _)
  · exact optional_congr (by simp [wireFields, bilingual]) h (lenient_upTo 255)
  · exact optional_congr (by simp [wireFields, bilingual]) h lenient_nat
  · exact optional_congr (by simp [wireFields, bilingual]) h lenient_int

/-- The value in which the ids stand shows in a complaint only, so any other will do. -/
theorem toOption_check {v flat : Json} (hflat : flatten v = .ok flat) (u : Json) :
    (check v).toOption = ((Check.model "Actor" flat).andThen fun members =>
      (fields members).andThen fun (kind, seat, player, shuffler) =>
        ofFields u kind seat player shuffler).toOption := by
  have hids (kind : ActorKind) (seat : Option (Fin 256)) (player : Option Nat)
      (shuffler : Option Int) : (ofFields v kind seat player shuffler).toOption
        = (ofFields u kind seat player shuffler).toOption := by
    unfold ofFields
    split <;> rfl
  rw [check, hflat]
  simp only [Checked.toOption_andThen, ← hids]
  rfl

theorem lenient_check : Lenient Actor.check := by
  intro v w h
  cases h with
  | refl => rfl
  | arr => rfl
  | obj hms hns hvalues =>
    rcases flatten_alike ⟨hms, hns, hvalues⟩ with
      ⟨m, m', hleft, hright⟩ | ⟨flat, flat', hleft, hright, halike⟩
    · simp only [check, hleft, hright, Checked.toOption_fail]
    · rw [toOption_check hleft .null, toOption_check hright .null]
      refine Lenient.model (fun ms ns hfields => ?_) "Actor" halike
      rw [Checked.toOption_andThen, Checked.toOption_andThen, lenient_fields hfields]

end Actor

/-! ## Statuses -/

namespace SnapshotStatus

theorem failure_alike {v w : Json} (h : Alike v w) : Alike (failure v) (failure w) := by
  have hone : EachOnce [(text "ok", .bool false), (text "reason", v)] := by
    have hdistinct : fieldOf (text "ok") ≠ fieldOf (text "reason") := by decide +kernel
    exact List.pairwise_pair.mpr hdistinct
  have hsame : SameFields [(text "ok", .bool false), (text "reason", v)]
      [(text "ok", .bool false), (text "reason", w)] :=
    .of_forall₂ hone rfl (.cons (.refl _) (.cons h .nil))
  exact hsame.alike

/-- Alike forms of a status are flattened to alike ones. -/
theorem flatten_alike {ms ns : Table Text Json} (h : SameFields ms ns) :
    Alike (flatten (.obj ms)) (flatten (.obj ns)) := by
  have hstatus : Alike (Json.member "status" (.obj ms)) (Json.member "status" (.obj ns)) :=
    h.member (isKnown_key _ (by simp [wireKeys]))
  have hreason : Alike (Json.member "reason" (.obj ms)) (Json.member "reason" (.obj ns)) :=
    h.member (isKnown_key _ (by simp [wireKeys]))
  have hword (word : String) : Json.member "status" (.obj ms) = Json.lit word
      ↔ Json.member "status" (.obj ns) = Json.lit word := hstatus.eq_iff nofun nofun
  unfold flatten
  dsimp only
  simp only [hword]
  split
  · exact .refl _
  · split
    · exact failure_alike hreason
    · rcases h.get?_cases (isKnown_key (text "failure") (by simp [wireKeys])) with
        ⟨hms, hns⟩ | ⟨v, w, hms, hns, halike⟩
      · rw [hms, hns]
        exact h.alike
      · rw [hms, hns]
        cases halike with
        | refl =>
          cases v <;> exact .refl _
        | arr hitems => exact failure_alike (.arr hitems)
        | obj hleft hright hvalues =>
          exact failure_alike (SameFields.member ⟨hleft, hright, hvalues⟩
            (isKnown_key _ (by simp [wireKeys])))

/-- The fields of the flat form. -/
def fields (members : Table Text Json) : Checked (Bool × Option Text) :=
  Prod.mk
    <$> required (.wire "ok") members Check.bool
    <*> optional (.wire "reason") members Check.string

theorem lenient_fields : LenientFields fields := by
  intro ms ns h
  refine Checked.seq_congr (Checked.fmap_congr ?_ _) ?_
  · exact required_congr (by simp [wireFields, bilingual]) h lenient_bool
  · exact optional_congr (by simp [wireFields, bilingual]) h lenient_string

theorem toOption_check (v u : Json) :
    (check v).toOption = ((Check.model "SnapshotStatus" (flatten v)).andThen fun members =>
      (fields members).andThen fun (ok, reason) => ofFields u ok reason).toOption := by
  have hreason (ok : Bool) (reason : Option Text) :
      (ofFields v ok reason).toOption = (ofFields u ok reason).toOption := by
    unfold ofFields
    split <;> rfl
  rw [check]
  simp only [Checked.toOption_andThen, ← hreason]
  rfl

theorem lenient_check : Lenient SnapshotStatus.check := by
  intro v w h
  cases h with
  | refl => rfl
  | arr => rfl
  | obj hms hns hvalues =>
    rw [toOption_check _ .null, toOption_check (.obj _) .null]
    refine Lenient.model (fun ms ns hfields => ?_) "SnapshotStatus"
      (flatten_alike ⟨hms, hns, hvalues⟩)
    rw [Checked.toOption_andThen, Checked.toOption_andThen, lenient_fields hfields]

end SnapshotStatus

/-! ## Records -/

theorem LedgerPhase.lenient_check : Lenient LedgerPhase.check := lenient_word _ _

theorem Signed.lenient_check : Lenient Signed.check := by
  refine Lenient.model (fun ms ns h => ?_) _
  refine Checked.seq_congr (Checked.seq_congr (Checked.fmap_congr ?_ _) ?_) ?_
  · exact required_congr (by simp [wireFields, bilingual]) h Message.lenient_check
  · exact required_congr (by simp [wireFields, bilingual]) h Hex.lenient_check
  · exact defaulted_congr (by simp [wireFields, bilingual]) h (lenient_upTo 255).list

theorem Envelope.lenient_check : Lenient Envelope.check := by
  refine Lenient.model (fun ms ns h => ?_) _
  refine Checked.seq_congr (Checked.seq_congr (Checked.seq_congr (Checked.seq_congr
    (Checked.seq_congr (Checked.fmap_congr ?_ _) ?_) ?_) ?_) ?_) ?_
  · exact required_congr (by simp [wireFields, bilingual]) h lenient_nat
  · exact required_congr (by simp [wireFields, bilingual]) h lenient_nat
  · exact required_congr (by simp [wireFields, bilingual]) h Actor.lenient_check
  · exact required_congr (by simp [wireFields, bilingual]) h lenient_nat
  · exact required_congr (by simp [wireFields, bilingual]) h Hex.lenient_check
  · exact required_congr (by simp [wireFields, bilingual]) h Signed.lenient_check

namespace Finalized

/-- **A recorded envelope** in the nested layout. -/
theorem lenient_ofMembers : LenientFields ofMembers := by
  intro ms ns h
  refine Checked.seq_congr (Checked.seq_congr (Checked.seq_congr (Checked.seq_congr
    (Checked.fmap_congr ?_ _) ?_) ?_) ?_) ?_
  · exact required_congr (by simp [wireFields, bilingual]) h Envelope.lenient_check
  · exact required_congr (by simp [wireFields, bilingual]) h SnapshotStatus.lenient_check
  · exact required_congr (by simp [wireFields, bilingual]) h LedgerPhase.lenient_check
  · exact required_congr (by simp [wireFields, bilingual]) h lenient_nat
  · exact optional_congr (by simp [wireFields, bilingual]) h lenient_nat

end Finalized

end MentalPoker
