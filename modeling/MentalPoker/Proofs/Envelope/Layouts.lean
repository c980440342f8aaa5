import MentalPoker.Envelope.Layout
import MentalPoker.Proofs.Schema.Alike

/-!
# Merging layouts

A recorded envelope comes in several layouts, which are merged to the nested one before anything is
checked. Fields are taken from one object to another on the way, under whichever spelling they have.
Here merging is described by the values of fields before and after, and that is all that matters to
the checks: objects that are alike are merged to objects that are alike.

## The architecture

* **`gather_moves`**, **`gather_snd_perm`**: when the fields of the envelope are taken out of an
  object, each field ends on the one side or on the other, and nothing is lost.
* **`liftAll_lifts`**: a field that recording adds has its value from the outer object, or else from
  the envelope, where it is no more.
* **`nest`**: what merging makes of an outer object and an envelope; **`sameFields_merge`** is the
  result for objects that are alike.
-/

namespace MentalPoker.Layout

open Schema

/-! ## Fields and their spellings -/

/-- The fields, each called by its first spelling. -/
def fieldsOf (fields : List Names) : List Text := fields.map Prod.snd

theorem isKnown_names : ∀ names ∈ finalizedFields ++ envelopeFields,
    (FieldName.mk names.2 (some names.1)).isKnown = true := by
  decide +kernel

theorem fieldOf_iff {names : Names} (h : names ∈ finalizedFields ++ envelopeFields) (key : Text) :
    fieldOf key = names.2 ↔ key = names.1 ∨ key = names.2 :=
  ((FieldName.mk names.2 (some names.1)).fieldOf_iff (isKnown_names names h) key).trans
    ⟨fun hkey => hkey.elim .inr fun h => .inl (Option.some.inj h).symm,
      fun hkey => hkey.elim (fun h => .inr (h ▸ rfl)) .inl⟩

theorem mem_spellings_iff {fields : List Names} (h : fields ⊆ finalizedFields ++ envelopeFields)
    (key : Text) : key ∈ spellings fields ↔ fieldOf key ∈ fieldsOf fields := by
  simp only [spellings, fieldsOf, List.mem_flatMap, List.mem_map, List.mem_cons, List.not_mem_nil,
    or_false]
  constructor
  · rintro ⟨names, hnames, hkey⟩
    exact ⟨names, hnames, ((fieldOf_iff (h hnames) key).mpr hkey).symm⟩
  · rintro ⟨names, hnames, hkey⟩
    exact ⟨names, hnames, (fieldOf_iff (h hnames) key).mp hkey.symm⟩

theorem mem_spellings_cons (names : Names) (fields : List Names) (key : Text) :
    key ∈ spellings (names :: fields) ↔ key = names.1 ∨ key = names.2 ∨ key ∈ spellings fields := by
  simp [spellings]

theorem filter_spellings {fields : List Names} (h : fields ⊆ finalizedFields ++ envelopeFields)
    (members : Table Text Json) :
    members.filter (fun entry => entry.1 ∉ spellings fields)
      = select (· ∉ fieldsOf fields) members := by
  simp only [select, mem_spellings_iff h]

variable {members outer inner : Table Text Json} {names : Names} {field : Text}

/-! ## Taking the fields of the envelope out of an object -/

theorem move_fst (giver taker : Table Text Json) (key : Text) :
    (move giver taker key).1 = Table.erase key giver := by
  unfold move
  split
  · next hget => exact (erase_of_get?_eq_none hget).symm
  · rfl

/-- What is taken from the one object is in the other. -/
theorem move_perm {giver taker : Table Text Json} (h : EachOnce (giver ++ taker)) (key : Text) :
    ((move giver taker key).1 ++ (move giver taker key).2).Perm (giver ++ taker) := by
  obtain ⟨hgiver, -, hapart⟩ := List.pairwise_append.mp h
  unfold move
  split
  · exact .refl _
  · next v hget =>
    have hfresh : Table.get? key taker = none := get?_eq_none_iff.mpr fun entry hentry hsame =>
      hapart _ (Table.mem_of_get?_eq_some hget) entry hentry (hsame ▸ rfl)
    rw [Table.insert_of_get?_eq_none hfresh]
    calc (Table.erase key giver ++ (taker ++ [(key, v)])).Perm
          (Table.erase key giver ++ ((key, v) :: taker)) :=
          (List.perm_append_singleton _ _).append_left _
      _ |>.Perm ((key, v) :: (Table.erase key giver ++ taker)) := List.perm_middle
      _ |>.Perm (giver ++ taker) := (EachOnce.perm_cons_erase hgiver hget).symm.append_right taker

/-- Several keys are taken, one after another. -/
theorem foldl_move_fst (keys : List Text) (giver taker : Table Text Json) :
    (keys.foldl (fun (giver, taker) key => move giver taker key) (giver, taker)).1
      = giver.filter (fun entry => entry.1 ∉ keys) := by
  induction keys generalizing giver taker with
  | nil => simp
  | cons key rest ih =>
    calc (rest.foldl (fun (giver, taker) key => move giver taker key) (move giver taker key)).1
        = (Table.erase key giver).filter (fun entry => entry.1 ∉ rest) := by
          rw [← move_fst giver taker key]
          exact ih _ _
      _ = giver.filter (fun entry => entry.1 ∉ key :: rest) := by
          rw [Table.erase, List.filter_filter]
          exact List.filter_congr fun entry _ => by simp [Bool.and_comm]

theorem foldl_move_perm {keys : List Text} {giver taker : Table Text Json}
    {moved : Table Text Json × Table Text Json} (h : EachOnce (giver ++ taker))
    (hmoved : keys.foldl (fun (giver, taker) key => move giver taker key) (giver, taker) = moved) :
    (moved.1 ++ moved.2).Perm (giver ++ taker) := by
  induction keys generalizing giver taker with
  | nil =>
    subst hmoved
    exact .refl _
  | cons key rest ih =>
    have hfirst := move_perm h key
    exact (@ih (move giver taker key).1 (move giver taker key).2 (h.perm hfirst.symm)
      hmoved).trans hfirst

theorem envelopeFields_subset : envelopeFields ⊆ finalizedFields ++ envelopeFields :=
  List.subset_append_right _ _

theorem finalizedFields_subset : finalizedFields ⊆ finalizedFields ++ envelopeFields :=
  List.subset_append_left _ _

theorem gather_fst (members : Table Text Json) :
    (gather members).1 = members.filter (fun entry => entry.1 ∉ spellings envelopeFields) :=
  foldl_move_fst _ _ _

theorem gather_moves (h : EachOnce members) :
    (gather members).1 = select (· ∉ fieldsOf envelopeFields) members
      ∧ ((gather members).1 ++ (gather members).2).Perm members := by
  have hperm := @foldl_move_perm (spellings envelopeFields) members [] (gather members)
    (by rwa [List.append_nil]) rfl
  rw [List.append_nil] at hperm
  exact ⟨(gather_fst members).trans (filter_spellings envelopeFields_subset members), hperm⟩

theorem gather_snd_perm (h : EachOnce members) :
    (gather members).2.Perm (select (· ∈ fieldsOf envelopeFields) members) := by
  obtain ⟨hfst, hall⟩ := gather_moves h
  have hsplit : (select (· ∉ fieldsOf envelopeFields) members
      ++ select (· ∈ fieldsOf envelopeFields) members).Perm members := by
    refine List.perm_append_comm.trans ?_
    simpa [select] using
      List.filter_append_perm (fun entry => decide (fieldOf entry.1 ∈ fieldsOf envelopeFields))
        members
  rw [hfst] at hall
  exact (List.perm_append_left_iff _).mp (hall.trans hsplit.symm)

/-! ## Taking the fields that recording adds out of the envelope -/

theorem lift_snd (names : Names) (outer inner : Table Text Json) (key : Text) :
    (lift names outer inner key).2 = Table.erase key inner := by
  unfold lift
  split
  · next hget => exact (erase_of_get?_eq_none hget).symm
  · dsimp only
    split <;> rfl

/-- The outer object has the field under a spelling, or does not have it. -/
theorem has_names_iff (h : names ∈ finalizedFields) (outer : Table Text Json) :
    (Table.has names.1 outer || Table.has names.2 outer) = (valueOf? names.2 outer).isSome := by
  have hfield := fieldOf_iff (finalizedFields_subset h)
  rw [Bool.eq_iff_iff, Bool.or_eq_true, Table.has, Table.has, ← not_iff_not, not_or]
  simp only [Option.isSome_iff_ne_none, not_not, get?_eq_none_iff, valueOf?_eq_none_iff, hfield,
    not_or, ne_eq]
  exact forall₂_and.symm

theorem lift_fresh (h : names ∈ finalizedFields)
    (hnone : (Table.has names.1 outer || Table.has names.2 outer) = false) :
    ∀ entry ∈ outer, fieldOf entry.1 ≠ fieldOf names.1 := by
  have hfield : fieldOf names.1 = names.2 :=
    (fieldOf_iff (finalizedFields_subset h) names.1).mpr (.inl rfl)
  rw [has_names_iff h, Option.isSome_eq_false_iff, Option.isNone_iff_eq_none] at hnone
  rw [hfield]
  exact valueOf?_eq_none_iff.mp hnone

theorem valueOf?_lift (h : names ∈ finalizedFields) (outer inner : Table Text Json) (key : Text)
    (field : Text) : valueOf? field (lift names outer inner key).1
      = (valueOf? field outer).or (if field = names.2 then Table.get? key inner else none) := by
  have hfield : fieldOf names.1 = names.2 :=
    (fieldOf_iff (finalizedFields_subset h) names.1).mpr (.inl rfl)
  unfold lift
  split
  · next hget => simp [hget]
  · next v hget =>
    dsimp only
    split
    · next hhas =>
      rw [has_names_iff h] at hhas
      obtain ⟨w, hw⟩ := Option.isSome_iff_exists.mp hhas
      split
      · next heq => rw [heq, hw]; rfl
      · rw [Option.or_none]
    · next hhas =>
      have hfresh := lift_fresh h (Bool.eq_false_iff.mpr hhas)
      rw [valueOf?_insert (fun entry hentry hsame => absurd hsame (hfresh entry hentry)), hfield,
        hget]
      split
      · next heq =>
        have hnone : valueOf? names.2 outer = none :=
          valueOf?_eq_none_iff.mpr fun entry hentry => hfield ▸ hfresh entry hentry
        rw [heq, hnone]
        rfl
      · rw [Option.or_none]

theorem eachOnce_lift (h : names ∈ finalizedFields) (houter : EachOnce outer)
    (inner : Table Text Json) (key : Text) : EachOnce (lift names outer inner key).1 := by
  unfold lift
  split
  · exact houter
  · dsimp only
    split
    · exact houter
    · next hhas =>
      have hfresh := lift_fresh h (Bool.eq_false_iff.mpr hhas)
      exact houter.insert (fun entry hentry hsame => absurd hsame (hfresh entry hentry)) _

/-- What stands in the envelope under the spellings of a field, the one with underscores first. -/
def inside? (names : Names) (inner : Table Text Json) : Option Json :=
  (Table.get? names.1 inner).or (Table.get? names.2 inner)

theorem spellings_ne : ∀ names ∈ finalizedFields, names.2 ≠ names.1 := by
  decide +kernel

theorem liftField_snd (names : Names) (outer inner : Table Text Json) :
    (liftField names outer inner).2 = Table.erase names.2 (Table.erase names.1 inner) := by
  rw [liftField, lift_snd, lift_snd]

theorem valueOf?_liftField (h : names ∈ finalizedFields) (outer inner : Table Text Json)
    (field : Text) : valueOf? field (liftField names outer inner).1
      = (valueOf? field outer).or (if field = names.2 then inside? names inner else none) := by
  rw [liftField, valueOf?_lift h, valueOf?_lift h, lift_snd,
    Table.get?_erase_of_ne (spellings_ne names h), Option.or_assoc]
  by_cases hfield : field = names.2
  · simp only [if_pos hfield, inside?]
  · simp only [if_neg hfield, Option.or_none]

theorem eachOnce_liftField (h : names ∈ finalizedFields) (houter : EachOnce outer)
    (inner : Table Text Json) : EachOnce (liftField names outer inner).1 :=
  eachOnce_lift h (eachOnce_lift h houter inner _) _ _

/-- What the envelope gives to a field of the outer object, if it is one of those that recording
adds. -/
def given? (fields : List Names) (field : Text) (inner : Table Text Json) : Option Json :=
  (fields.find? fun names => names.2 = field).bind fun names => inside? names inner

/-- Where a field was taken out, the other fields are as before. -/
theorem given?_erase {fields : List Names} (h : fields ⊆ finalizedFields)
    (hnames : names ∈ finalizedFields) (hfield : names.2 ≠ field) (inner : Table Text Json) :
    given? fields field (Table.erase names.2 (Table.erase names.1 inner))
      = given? fields field inner := by
  unfold given?
  cases hfind : fields.find? fun n => n.2 = field with
  | none => rfl
  | some other =>
    have hother : other ∈ finalizedFields := h (List.mem_of_find?_eq_some hfind)
    have hsame : other.2 = field := by simpa using List.find?_some hfind
    have hkept (key : Text) (hkey : key = other.1 ∨ key = other.2) :
        Table.get? key (Table.erase names.2 (Table.erase names.1 inner))
          = Table.get? key inner := by
      have hkeyField := ((fieldOf_iff (finalizedFields_subset hother) key).mpr hkey).trans hsame
      obtain ⟨hfirst, hsecond⟩ := not_or.mp
        (mt (fieldOf_iff (finalizedFields_subset hnames) key).mpr
          fun hnamed => hfield (hnamed.symm.trans hkeyField))
      rw [Table.get?_erase_of_ne hsecond, Table.get?_erase_of_ne hfirst]
    simp only [Option.bind_some, inside?, hkept other.1 (.inl rfl), hkept other.2 (.inr rfl)]

/-- Several fields are taken out, one after another. -/
theorem foldl_liftField_snd (fields : List Names) (outer inner : Table Text Json) :
    (fields.foldl (fun (outer, inner) names => liftField names outer inner) (outer, inner)).2
      = inner.filter (fun entry => entry.1 ∉ spellings fields) := by
  induction fields generalizing outer inner with
  | nil => simp [spellings]
  | cons names rest ih =>
    calc (rest.foldl (fun (outer, inner) names => liftField names outer inner)
          (liftField names outer inner)).2
        = (Table.erase names.2 (Table.erase names.1 inner)).filter
            (fun entry => entry.1 ∉ spellings rest) := by
          rw [← liftField_snd names outer inner]
          exact ih _ _
      _ = inner.filter (fun entry => entry.1 ∉ spellings (names :: rest)) := by
          rw [Table.erase, Table.erase, List.filter_filter, List.filter_filter]
          refine List.filter_congr fun entry _ => ?_
          rw [Bool.eq_iff_iff]
          simp only [Bool.and_eq_true, decide_eq_true_eq, mem_spellings_cons, ne_eq]
          tauto

theorem liftAll_snd (outer inner : Table Text Json) :
    (liftAll outer inner).2 = inner.filter (fun entry => entry.1 ∉ spellings finalizedFields) :=
  foldl_liftField_snd _ _ _

theorem valueOf?_foldl_liftField {fields : List Names}
    {lifted : Table Text Json × Table Text Json} (h : fields ⊆ finalizedFields)
    (hdistinct : (fieldsOf fields).Nodup) (houter : EachOnce outer)
    (hlifted : fields.foldl (fun (outer, inner) names => liftField names outer inner)
      (outer, inner) = lifted) :
    EachOnce lifted.1
      ∧ ∀ field, valueOf? field lifted.1
        = (valueOf? field outer).or (given? fields field inner) := by
  induction fields generalizing outer inner with
  | nil =>
    subst hlifted
    exact ⟨houter, fun field => by simp [given?]⟩
  | cons names rest ih =>
    have hnames : names ∈ finalizedFields := h List.mem_cons_self
    have hothers : rest ⊆ finalizedFields := fun n hn => h (List.mem_cons_of_mem _ hn)
    obtain ⟨hfresh, hrest⟩ := List.nodup_cons.mp hdistinct
    obtain ⟨honce, hvalues⟩ := @ih (liftField names outer inner).1
      (liftField names outer inner).2 hothers hrest
      (eachOnce_liftField hnames houter inner) hlifted
    refine ⟨honce, fun field => ?_⟩
    rw [hvalues, valueOf?_liftField hnames, liftField_snd, Option.or_assoc]
    -- the outer object comes first in either case, so only the envelope is left to compare
    congr 1
    by_cases hfield : names.2 = field
    · -- the field is not lifted again
      have hnone : rest.find? (fun n => n.2 = field) = none := by
        refine List.find?_eq_none.mpr fun n hn hsame => hfresh ?_
        rw [hfield, ← of_decide_eq_true hsame]
        exact List.mem_map_of_mem hn
      simp [given?, hfield, hnone]
    · rw [if_neg (Ne.symm hfield), Option.none_or, given?_erase hothers hnames hfield, given?,
        given?, List.find?_cons_of_neg (by simpa using hfield)]

theorem liftAll_lifts (houter : EachOnce outer) (inner : Table Text Json) :
    EachOnce (liftAll outer inner).1
      ∧ (liftAll outer inner).2 = select (· ∉ fieldsOf finalizedFields) inner
      ∧ ∀ field, valueOf? field (liftAll outer inner).1
        = (valueOf? field outer).or (given? finalizedFields field inner) := by
  obtain ⟨honce, hvalues⟩ := @valueOf?_foldl_liftField outer inner finalizedFields
    (liftAll outer inner) (List.Subset.refl _) (by decide +kernel) houter rfl
  exact ⟨honce, (liftAll_snd outer inner).trans (filter_spellings finalizedFields_subset inner),
    hvalues⟩

theorem inside?_eq_valueOf? (h : names ∈ finalizedFields) (hinner : EachOnce inner) :
    inside? names inner = valueOf? names.2 inner :=
  (hinner.valueOf?_eq_or (fieldOf_iff (finalizedFields_subset h))).symm

theorem given?_eq_valueOf? (hinner : EachOnce inner) (field : Text) :
    given? finalizedFields field inner
      = if field ∈ fieldsOf finalizedFields then valueOf? field inner else none := by
  unfold given?
  cases hfind : finalizedFields.find? fun names => names.2 = field with
  | none =>
    rw [if_neg]
    · rfl
    · intro hmem
      obtain ⟨names, hnames, rfl⟩ := List.mem_map.mp hmem
      simpa using List.find?_eq_none.mp hfind names hnames
  | some names =>
    have hnames := List.mem_of_find?_eq_some hfind
    have hsame : names.2 = field := by simpa using List.find?_some hfind
    rw [if_pos (hsame ▸ List.mem_map_of_mem hnames), Option.bind_some,
      inside?_eq_valueOf? hnames hinner, hsame]

/-! ## The nested layout -/

/-- The outer object with the envelope in it, the fields that recording adds taken out of it. -/
def nest (outer inner : Table Text Json) : Table Text Json :=
  Table.insert (text "envelope") (.obj (liftAll outer inner).2) (liftAll outer inner).1

theorem isKnown_envelope : (FieldName.mk (text "envelope") none).isKnown = true :=
  isKnown_key _ (by simp [wireKeys])

theorem eachOnce_nest (houter : EachOnce outer) (inner : Table Text Json) :
    EachOnce (nest outer inner) :=
  (liftAll_lifts houter inner).1.insert (fun _ _ => eq_key_of_fieldOf isKnown_envelope) _

/-- The envelope stands where it stood; another field has its value from the outer object, or else
from the envelope. -/
theorem valueOf?_nest (houter : EachOnce outer) (inner : Table Text Json) (field : Text) :
    valueOf? field (nest outer inner)
      = if field = text "envelope" then
          some (.obj (select (· ∉ fieldsOf finalizedFields) inner))
        else (valueOf? field outer).or (given? finalizedFields field inner) := by
  obtain ⟨-, hsnd, hvalues⟩ := liftAll_lifts houter inner
  rw [nest, valueOf?_insert fun _ _ => eq_key_of_fieldOf isKnown_envelope, hsnd, hvalues,
    fieldOf_key isKnown_envelope]

/-- An envelope that is not the same has at least each field once. -/
theorem sameFields_nest {outer' inner' : Table Text Json} (houter : SameFields outer outer')
    (hinner : inner = inner' ∨ SameFields inner inner') :
    SameFields (nest outer inner) (nest outer' inner') where
  left := eachOnce_nest houter.left inner
  right := eachOnce_nest houter.right inner'
  values field := by
    rw [valueOf?_nest houter.left, valueOf?_nest houter.right]
    rcases hinner with rfl | hinner
    · split
      · exact rel_refl _
      · exact rel_or (houter.values field) (rel_refl _)
    · rw [given?_eq_valueOf? hinner.left, given?_eq_valueOf? hinner.right]
      split
      · exact .some (hinner.select _).alike
      · refine rel_or (houter.values field) ?_
        split
        · exact hinner.values field
        · exact .none

theorem sameFields_gather {ms ns : Table Text Json} (h : SameFields ms ns) :
    SameFields (gather ms).1 (gather ns).1 ∧ SameFields (gather ms).2 (gather ns).2 := by
  rw [(gather_moves h.left).1, (gather_moves h.right).1]
  exact ⟨h.select _,
    (h.select _).perm (gather_snd_perm h.left).symm (gather_snd_perm h.right).symm⟩

theorem merge_of_envelope (hget : Table.get? (text "envelope") members = some (.obj inner)) :
    merge members = nest members inner := by
  rw [merge, split, hget]
  rfl

theorem merge_of_message (hget : Table.get? (text "envelope") members = none
      ∨ Table.get? (text "envelope") members = some .null)
    (hmessage : Table.has (text "message") members = true) :
    merge members = nest (gather members).1 (gather members).2 := by
  unfold merge split
  rcases hget with hget | hget <;> simp only [hget, hmessage, if_true, nest]

/-- What has neither a message nor an envelope that is an object stays as it is. -/
theorem merge_of_other {envelope : Option Json}
    (hget : Table.get? (text "envelope") members = envelope)
    (hobj : ∀ inner, envelope ≠ some (.obj inner))
    (hmessage : envelope = none ∨ envelope = some .null →
      Table.has (text "message") members = false) : merge members = members := by
  rw [merge, split, hget]
  cases envelope with
  | none => simp [hmessage (.inl rfl)]
  | some v =>
    cases v with
    | null => simp [hmessage (.inr rfl)]
    | obj inner => exact absurd rfl (hobj inner)
    | _ => rfl

theorem merge_cases (members : Table Text Json) :
    merge members = members ∨ (∃ inner, merge members = nest members inner)
      ∨ merge members = nest (gather members).1 (gather members).2 := by
  cases hhas : Table.has (text "message") members with
  | true =>
    cases hget : Table.get? (text "envelope") members with
    | none => exact .inr (.inr (merge_of_message (.inl hget) hhas))
    | some v =>
      cases v with
      | null => exact .inr (.inr (merge_of_message (.inr hget) hhas))
      | obj inner => exact .inr (.inl ⟨inner, merge_of_envelope hget⟩)
      | _ => exact .inl (merge_of_other hget nofun nofun)
  | false =>
    cases hget : Table.get? (text "envelope") members with
    | none => exact .inl (merge_of_other hget nofun fun _ => hhas)
    | some v =>
      cases v with
      | obj inner => exact .inr (.inl ⟨inner, merge_of_envelope hget⟩)
      | _ => exact .inl (merge_of_other hget nofun fun _ => hhas)

/-- What is neither the envelope nor a field that is moved keeps its value. -/
theorem valueOf?_merge (h : EachOnce members) (henvelope : field ≠ text "envelope")
    (hlifted : field ∉ fieldsOf finalizedFields) (hgathered : field ∉ fieldsOf envelopeFields) :
    valueOf? field (merge members) = valueOf? field members := by
  have hgiven (inner : Table Text Json) : given? finalizedFields field inner = none := by
    have hnone : finalizedFields.find? (fun names => names.2 = field) = none :=
      List.find?_eq_none.mpr fun names hnames hsame =>
        hlifted (List.mem_map.mpr ⟨names, hnames, of_decide_eq_true hsame⟩)
    rw [given?, hnone, Option.bind_none]
  rcases merge_cases members with hsame | ⟨inner, hnest⟩ | hnest
  · rw [hsame]
  · rw [hnest, valueOf?_nest h, if_neg henvelope, hgiven, Option.or_none]
  · have hrest : EachOnce (gather members).1 := (gather_moves h).1 ▸ h.filter _
    rw [hnest, valueOf?_nest hrest, if_neg henvelope, hgiven, Option.or_none, (gather_moves h).1,
      valueOf?_select, if_pos (decide_eq_true hgathered)]

/-- **Objects that are alike are merged to objects that are alike.** -/
theorem sameFields_merge {ms ns : Table Text Json} (h : SameFields ms ns) :
    SameFields (merge ms) (merge ns) := by
  have hmessage : Table.has (text "message") ms = Table.has (text "message") ns :=
    h.has (isKnown_key _ (by simp [wireKeys]))
  -- without an envelope the fields are gathered, or all stays as it is
  have hgathered {v : Option Json} (hv : v = none ∨ v = some .null)
      (hms : Table.get? (text "envelope") ms = v) (hns : Table.get? (text "envelope") ns = v) :
      SameFields (merge ms) (merge ns) := by
    cases hhas : Table.has (text "message") ms with
    | true =>
      obtain ⟨houter, hinner⟩ := sameFields_gather h
      rw [merge_of_message (hms ▸ hv) hhas, merge_of_message (hns ▸ hv) (hmessage ▸ hhas)]
      exact sameFields_nest houter (.inr hinner)
    | false =>
      have hobj : ∀ inner, v ≠ some (.obj inner) := by
        rcases hv with rfl | rfl <;> nofun
      rw [merge_of_other hms hobj fun _ => hhas,
        merge_of_other hns hobj fun _ => hmessage ▸ hhas]
      exact h
  rcases h.get?_cases isKnown_envelope with ⟨hms, hns⟩ | ⟨v, w, hms, hns, halike⟩
  · exact hgathered (.inl rfl) hms hns
  · cases halike with
    | obj hleft hright hvalues =>
      rw [merge_of_envelope hms, merge_of_envelope hns]
      exact sameFields_nest h (.inr ⟨hleft, hright, hvalues⟩)
    | arr =>
      rw [merge_of_other hms nofun nofun, merge_of_other hns nofun nofun]
      exact h
    | refl =>
      cases v with
      | null => exact hgathered (.inr rfl) hms hns
      | obj inner =>
        rw [merge_of_envelope hms, merge_of_envelope hns]
        exact sameFields_nest h (.inl rfl)
      | _ =>
        rw [merge_of_other hms nofun nofun, merge_of_other hns nofun nofun]
        exact h

end MentalPoker.Layout
