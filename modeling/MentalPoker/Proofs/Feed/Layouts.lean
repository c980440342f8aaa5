import MentalPoker.Proofs.Feed.Spelling

/-!
# Recorded envelopes in any layout

The fields of a recorded envelope come in several layouts, and a recorded envelope comes in two
ways: as an event of the live feed, with its type next to the fields or given by the feed, and as a
value that is known to be one. None of this matters: the same fields decode to the same envelope,
or are refused, in every layout and in either way. The fields may have any values.

## The architecture

* **`Parts`**: the fields of an envelope and those that recording adds; **`Parts.Laid`**: the
  objects that have them in one of the layouts.
* **`Parts.Laid.merge`**: merging brings all of them to objects with the fields of the nested one.
* **`decode_layouts`**: what both decoders give.
-/

namespace MentalPoker

open Schema Layout

/-- The fields of an envelope and the fields that recording adds, each under one spelling, with any
values. Fields may be missing. -/
structure Parts where
  envelope : Table Text Json
  added : Table Text Json
  envelope_keys : ∀ entry ∈ envelope, entry.1 ∈ spellings envelopeFields
  added_keys : ∀ entry ∈ added, entry.1 ∈ spellings finalizedFields
  envelope_once : EachOnce envelope
  added_once : EachOnce added

namespace Parts

/-- The type of a game event, next to the fields or not. -/
def tag (typed : Bool) : Table Text Json :=
  if typed then [(text "type", .str FeedEvent.Kind.gameEvent.name)] else []

/-- The layouts in which the parts come, their members in any order: the envelope under a key of its
own, with some of the added fields in it, or all fields next to one another if there is a
message. -/
inductive Laid (p : Parts) (typed : Bool) : Table Text Json → Prop
  | nested (inside : Text × Json → Bool) {inner members : Table Text Json} :
      inner.Perm (p.envelope ++ p.added.filter inside) →
      members.Perm (tag typed
        ++ (text "envelope", .obj inner) :: p.added.filter fun entry => !inside entry) →
      Laid p typed members
  | flat {members : Table Text Json} : Table.has (text "message") p.envelope = true →
      members.Perm (tag typed ++ (p.envelope ++ p.added)) → Laid p typed members

/-- The fields in the nested layout. -/
def fields (p : Parts) : Table Text Json := (text "envelope", .obj p.envelope) :: p.added

variable {p : Parts} {typed : Bool} {members : Table Text Json}

/-! ## The fields of the parts -/

theorem field_envelope {entry : Text × Json} (h : entry ∈ p.envelope) :
    fieldOf entry.1 ∈ fieldsOf envelopeFields :=
  (mem_spellings_iff envelopeFields_subset _).mp (p.envelope_keys entry h)

theorem field_added {entry : Text × Json} (h : entry ∈ p.added) :
    fieldOf entry.1 ∈ fieldsOf finalizedFields :=
  (mem_spellings_iff finalizedFields_subset _).mp (p.added_keys entry h)

theorem field_tag {entry : Text × Json} (h : entry ∈ tag typed) :
    fieldOf entry.1 = text "type" := by
  cases typed with
  | false => cases h
  | true =>
    rw [List.mem_singleton.mp h]
    exact fieldOf_key FeedEvent.isKnown_type

theorem fieldsOf_disjoint : ∀ field ∈ fieldsOf envelopeFields,
    field ∉ fieldsOf finalizedFields := by
  decide +kernel

theorem type_other : text "type" ∉ fieldsOf envelopeFields
    ∧ text "type" ∉ fieldsOf finalizedFields ∧ text "type" ≠ text "envelope" := by
  decide +kernel

theorem envelope_other : text "envelope" ∉ fieldsOf envelopeFields
    ∧ text "envelope" ∉ fieldsOf finalizedFields := by
  decide +kernel

theorem eachOnce_tag (typed : Bool) : EachOnce (tag typed) := by
  cases typed
  · exact .nil
  · exact List.pairwise_singleton _ _

theorem fieldOf_envelope : fieldOf (text "envelope") = text "envelope" :=
  fieldOf_key isKnown_envelope

/-- The tag and some of the added fields next to an envelope. -/
theorem eachOnce_outer (typed : Bool) (inner : Json) {added : Table Text Json}
    (h : added.Sublist p.added) :
    EachOnce (tag typed ++ (text "envelope", inner) :: added) := by
  refine List.pairwise_append.mpr ⟨eachOnce_tag typed, List.pairwise_cons.mpr ⟨?_, ?_⟩, ?_⟩
  · intro entry hentry hsame
    rw [fieldOf_envelope] at hsame
    exact envelope_other.2 (hsame ▸ field_added (h.subset hentry))
  · exact p.added_once.sublist h
  · intro entry hentry other hother hsame
    rw [field_tag hentry] at hsame
    rcases List.mem_cons.mp hother with rfl | hother
    · exact type_other.2.2 (hsame.trans fieldOf_envelope)
    · exact type_other.2.1 (hsame ▸ field_added (h.subset hother))

theorem eachOnce_flat (p : Parts) (typed : Bool) :
    EachOnce (tag typed ++ (p.envelope ++ p.added)) := by
  refine List.pairwise_append.mpr ⟨eachOnce_tag typed,
    List.pairwise_append.mpr ⟨p.envelope_once, p.added_once, ?_⟩, ?_⟩
  · intro entry hentry other hother hsame
    exact fieldsOf_disjoint _ (field_envelope hentry) (hsame ▸ field_added hother)
  · intro entry hentry other hother hsame
    rw [field_tag hentry] at hsame
    rcases List.mem_append.mp hother with hother | hother
    · exact type_other.1 (hsame ▸ field_envelope hother)
    · exact type_other.2.1 (hsame ▸ field_added hother)

/-! ## Merging -/

/-- The fields of the envelope are all that stays in it. -/
theorem select_inner {inner inside : Table Text Json} (hinner : inner.Perm (p.envelope ++ inside))
    (hinside : ∀ entry ∈ inside, fieldOf entry.1 ∈ fieldsOf finalizedFields) :
    (select (· ∉ fieldsOf finalizedFields) inner).Perm p.envelope := by
  have hkept : select (· ∉ fieldsOf finalizedFields) p.envelope = p.envelope :=
    select_eq_self fun entry hentry =>
      decide_eq_true (fieldsOf_disjoint _ (field_envelope hentry))
  have htaken : select (· ∉ fieldsOf finalizedFields) inside = [] :=
    select_eq_nil fun entry hentry => by simpa using hinside entry hentry
  have hperm := select_perm (· ∉ fieldsOf finalizedFields) hinner
  rwa [select_append, hkept, htaken, List.append_nil] at hperm

/-- What the envelope gives to the outer object are the added fields in it. -/
theorem given?_inner {inner inside : Table Text Json} (hinner : inner.Perm (p.envelope ++ inside))
    (hinside : ∀ entry ∈ inside, fieldOf entry.1 ∈ fieldsOf finalizedFields)
    (honce : EachOnce inside) (field : Text) :
    given? finalizedFields field inner = valueOf? field inside := by
  have hall : EachOnce (p.envelope ++ inside) :=
    List.pairwise_append.mpr ⟨p.envelope_once, honce, fun entry hentry other hother hsame =>
      fieldsOf_disjoint _ (field_envelope hentry) (hsame ▸ hinside other hother)⟩
  rw [given?_eq_valueOf? (hall.perm hinner.symm), valueOf?_perm hall hinner.symm, valueOf?_append]
  by_cases hfield : field ∈ fieldsOf finalizedFields
  · have hnone : valueOf? field p.envelope = none :=
      valueOf?_eq_none_iff.mpr fun entry hentry hsame =>
        fieldsOf_disjoint _ (field_envelope hentry) (hsame ▸ hfield)
    rw [if_pos hfield, hnone, Option.none_or]
  · have hnone : valueOf? field inside = none :=
      valueOf?_eq_none_iff.mpr fun entry hentry hsame => hfield (hsame ▸ hinside entry hentry)
    rw [if_neg hfield, hnone]

/-- However the added fields are divided, merging puts them next to the envelope. -/
theorem sameFields_nest {outer inner outside inside : Table Text Json} (houter : EachOnce outer)
    (hvalues : ∀ field ≠ text "envelope",
      valueOf? field outer = valueOf? field (tag typed ++ outside))
    (hinner : inner.Perm (p.envelope ++ inside)) (hadded : (outside ++ inside).Perm p.added) :
    SameFields (nest outer inner) (tag typed ++ p.fields) where
  left := eachOnce_nest houter inner
  right := eachOnce_outer typed _ (List.Sublist.refl _)
  values field := by
    have honce : EachOnce (outside ++ inside) := p.added_once.perm hadded.symm
    have hinside : ∀ entry ∈ inside, fieldOf entry.1 ∈ fieldsOf finalizedFields := fun entry h =>
      field_added (hadded.subset (List.mem_append_right _ h))
    rw [valueOf?_nest houter, fields, valueOf?_append, valueOf?_cons, fieldOf_envelope]
    by_cases hfield : field = text "envelope"
    · have htag : valueOf? field (tag typed) = none :=
        valueOf?_eq_none_iff.mpr fun entry hentry hsame =>
          type_other.2.2 ((field_tag hentry).symm.trans (hsame.trans hfield))
      -- what is left in the envelope are its own fields, in another order
      rw [if_pos hfield, if_pos hfield.symm, htag]
      have hsame : SameFields p.envelope p.envelope :=
        .of_eq p.envelope_once p.envelope_once fun _ => rfl
      exact .some (hsame.perm (select_inner hinner hinside).symm (List.Perm.refl _)).alike
    · have hvalue := calc (valueOf? field outer).or (given? finalizedFields field inner)
          _ = (valueOf? field (tag typed ++ outside)).or (valueOf? field inside) := by
            rw [hvalues field hfield,
              given?_inner hinner hinside (List.pairwise_append.mp honce).2.1]
          _ = (valueOf? field (tag typed)).or (valueOf? field (outside ++ inside)) := by
            rw [valueOf?_append, Option.or_assoc, ← valueOf?_append]
          _ = (valueOf? field (tag typed)).or (valueOf? field p.added) := by
            rw [valueOf?_perm p.added_once hadded.symm]
      rw [if_neg hfield, if_neg (Ne.symm hfield), hvalue]
      exact rel_refl _

/-- The fields of the envelope are what is gathered. -/
theorem gather_flat (h : members.Perm (tag typed ++ (p.envelope ++ p.added))) :
    (gather members).1.Perm (tag typed ++ p.added) ∧ (gather members).2.Perm p.envelope := by
  have hall : EachOnce members := (eachOnce_flat p typed).perm h.symm
  have htag : ∀ entry ∈ tag typed, fieldOf entry.1 ∉ fieldsOf envelopeFields := fun _ hentry =>
    (field_tag hentry).symm ▸ type_other.1
  have hadded : ∀ entry ∈ p.added, fieldOf entry.1 ∉ fieldsOf envelopeFields :=
    fun _ hentry hown => fieldsOf_disjoint _ hown (field_added hentry)
  have houter : select (· ∉ fieldsOf envelopeFields) (tag typed ++ (p.envelope ++ p.added))
      = tag typed ++ p.added := by
    have hkept : select (· ∉ fieldsOf envelopeFields) (tag typed) = tag typed :=
      select_eq_self fun entry hentry => decide_eq_true (htag entry hentry)
    have htaken : select (· ∉ fieldsOf envelopeFields) p.envelope = [] :=
      select_eq_nil fun entry hentry => by simpa using field_envelope hentry
    have hadded : select (· ∉ fieldsOf envelopeFields) p.added = p.added :=
      select_eq_self fun entry hentry => decide_eq_true (hadded entry hentry)
    rw [select_append, select_append, hkept, htaken, hadded, List.nil_append]
  have hinner : select (· ∈ fieldsOf envelopeFields) (tag typed ++ (p.envelope ++ p.added))
      = p.envelope := by
    have hkept : select (· ∈ fieldsOf envelopeFields) (tag typed) = [] :=
      select_eq_nil fun entry hentry => decide_eq_false (htag entry hentry)
    have htaken : select (· ∈ fieldsOf envelopeFields) p.envelope = p.envelope :=
      select_eq_self fun entry hentry => decide_eq_true (field_envelope hentry)
    have hadded : select (· ∈ fieldsOf envelopeFields) p.added = [] :=
      select_eq_nil fun entry hentry => decide_eq_false (hadded entry hentry)
    rw [select_append, select_append, hkept, htaken, hadded, List.nil_append, List.append_nil]
  constructor
  · rw [(gather_moves hall).1, ← houter]
    exact select_perm _ h
  · rw [← hinner]
    exact (gather_snd_perm hall).trans (select_perm _ h)

theorem Laid.eachOnce (h : p.Laid typed members) : EachOnce members := by
  cases h with
  | nested inside _ hmembers =>
    exact (eachOnce_outer typed _ List.filter_sublist).perm hmembers.symm
  | flat _ hmembers => exact (eachOnce_flat p typed).perm hmembers.symm

/-- **Every layout is merged** to an object with the fields of the nested one. -/
theorem Laid.merge (h : p.Laid typed members) :
    SameFields (Layout.merge members) (tag typed ++ p.fields) := by
  have hall := h.eachOnce
  cases h with
  | @nested inside inner _ hinner hmembers =>
    have hget : Table.get? (text "envelope") members = some (.obj inner) :=
      hall.get?_eq_some (hmembers.symm.subset (by simp))
    have hadded : (p.added.filter (fun entry => !inside entry) ++ p.added.filter inside).Perm
        p.added :=
      List.perm_append_comm.trans (List.filter_append_perm inside p.added)
    rw [merge_of_envelope hget]
    -- in the outer object stand the added fields that are not inside, and the envelope
    refine sameFields_nest hall (fun field hfield => ?_) hinner hadded
    rw [valueOf?_perm (hall.perm hmembers) hmembers.symm, valueOf?_append, valueOf?_append,
      valueOf?_cons, fieldOf_envelope, if_neg (Ne.symm hfield)]
  | flat hmessage hmembers =>
    have hnone : Table.get? (text "envelope") members = none := by
      refine get?_eq_none_iff.mpr fun entry hentry hkey => ?_
      have hfield : fieldOf entry.1 = text "envelope" := hkey ▸ fieldOf_envelope
      rcases List.mem_append.mp (hmembers.subset hentry) with hentry | hentry
      · exact type_other.2.2 ((field_tag hentry).symm.trans hfield)
      · rcases List.mem_append.mp hentry with hentry | hentry
        · exact envelope_other.1 (hfield ▸ field_envelope hentry)
        · exact envelope_other.2 (hfield ▸ field_added hentry)
    have hhas : Table.has (text "message") members = true := by
      obtain ⟨v, hv⟩ := Option.isSome_iff_exists.mp hmessage
      have hmem : (text "message", v) ∈ members := hmembers.symm.subset
        (List.mem_append_right _ (List.mem_append_left _ (Table.mem_of_get?_eq_some hv)))
      rw [Table.has, hall.get?_eq_some hmem, Option.isSome_some]
    obtain ⟨houter, hinner⟩ := gather_flat hmembers
    have houterOnce : EachOnce (tag typed ++ p.added) :=
      (eachOnce_flat p typed).sublist (List.Sublist.append_left (List.sublist_append_right _ _) _)
    rw [merge_of_message (.inl hnone) hhas]
    -- none of the added fields is gathered
    have hinside : (gather members).2.Perm (p.envelope ++ []) := by rwa [List.append_nil]
    have hadded : (p.added ++ []).Perm p.added := by rw [List.append_nil]
    refine sameFields_nest (houterOnce.perm houter.symm) (fun field _ => ?_) hinside hadded
    rw [valueOf?_perm houterOnce houter.symm]

/-! ## The type -/

theorem Laid.get?_type (h : p.Laid true members) :
    Table.get? (text "type") members = some (.str FeedEvent.Kind.gameEvent.name) := by
  have hmem : (text "type", Json.str FeedEvent.Kind.gameEvent.name) ∈ tag true :=
    List.mem_singleton.mpr rfl
  refine h.eachOnce.get?_eq_some ?_
  cases h with
  | nested _ _ hmembers => exact hmembers.symm.subset (List.mem_append_left _ hmem)
  | flat _ hmembers => exact hmembers.symm.subset (List.mem_append_left _ hmem)

theorem Laid.has_no_type (h : p.Laid false members) :
    Table.get? (text "type") members = none := by
  have htype {entry : Text × Json} (hkey : entry.1 = text "type") :
      fieldOf entry.1 = text "type" := by
    rw [hkey]
    exact fieldOf_key FeedEvent.isKnown_type
  refine get?_eq_none_iff.mpr fun entry hentry hkey => ?_
  cases h with
  | nested inside _ hmembers =>
    rcases List.mem_cons.mp (hmembers.subset hentry) with rfl | hentry
    · exact type_other.2.2 ((htype hkey).symm.trans fieldOf_envelope)
    · exact type_other.2.1 (htype hkey ▸ field_added (List.mem_of_mem_filter hentry))
  | flat _ hmembers =>
    rw [tag, if_neg Bool.false_ne_true, List.nil_append] at hmembers
    rcases List.mem_append.mp (hmembers.subset hentry) with hentry | hentry
    · exact type_other.1 (htype hkey ▸ field_envelope hentry)
    · exact type_other.2.1 (htype hkey ▸ field_added hentry)

theorem laid_fields (p : Parts) : p.Laid false p.fields := by
  have hinner : p.envelope.Perm (p.envelope ++ p.added.filter fun _ => false) := by simp
  exact .nested (fun _ => false) hinner (by simp [fields, tag])

/-- The feed gives its type to an event that has none. -/
theorem Laid.withType {name : Option Text} (h : p.Laid typed members)
    (hname : typed = true ∨ name = some FeedEvent.Kind.gameEvent.name) :
    p.Laid true (FeedEvent.withType name members) := by
  cases typed with
  | true =>
    have hhas : Table.has (text "type") members = true := by
      rw [Table.has, h.get?_type, Option.isSome_some]
    unfold FeedEvent.withType
    rwa [if_pos hhas]
  | false =>
    have hnone := h.has_no_type
    have hgiven : FeedEvent.withType name members
        = members ++ [(text "type", .str FeedEvent.Kind.gameEvent.name)] := by
      rw [hname.resolve_left Bool.false_ne_true, ← Table.insert_of_get?_eq_none hnone]
      simp only [FeedEvent.withType, Table.has, hnone, Option.isSome_none, Bool.false_eq_true,
        if_false]
      rfl
    have htagged {rest : Table Text Json} (hrest : members.Perm (tag false ++ rest)) :
        (members ++ [(text "type", Json.str FeedEvent.Kind.gameEvent.name)]).Perm
          (tag true ++ rest) :=
      (List.perm_append_singleton _ _).trans (hrest.cons _)
    rw [hgiven]
    cases h with
    | nested inside hinner hmembers => exact .nested inside hinner (htagged hmembers)
    | flat hmessage hmembers => exact .flat hmessage (htagged hmembers)

/-! ## Decoding -/

/-- A type is not looked at. -/
theorem ofMembers_cons_type (v : Json) (members : Table Text Json) :
    (Finalized.ofMembers ((text "type", v) :: members)).toOption
      = (Finalized.ofMembers members).toOption := by
  have hfind (name : FieldName)
      (hname : name.first ≠ text "type" ∧ name.second ≠ some (text "type")) :
      name.find? ((text "type", v) :: members) = name.find? members := by
    obtain ⟨hfirst, hsecond⟩ := hname
    unfold FieldName.find?
    rw [Table.get?, if_neg hfirst]
    cases hname : name.second with
    | none => rfl
    | some key =>
      have hkey : key ≠ text "type" := fun h => hsecond (hname.trans (congrArg some h))
      simp only [Option.bind_some, Table.get?, if_neg hkey]
  simp only [Finalized.ofMembers, Checked.toOption_seq, Checked.toOption_fmap, toOption_required,
    toOption_optional]
  rw [hfind _ (by decide +kernel), hfind _ (by decide +kernel), hfind _ (by decide +kernel),
    hfind _ (by decide +kernel), hfind _ (by decide +kernel)]

theorem Laid.ofMembers_merge (h : p.Laid typed members) :
    (Finalized.ofMembers (Layout.merge members)).toOption
      = (Finalized.ofMembers p.fields).toOption := by
  rw [Finalized.lenient_ofMembers h.merge]
  cases typed with
  | false => rfl
  | true => exact ofMembers_cons_type _ _

/-- What the check gives that is for recorded envelopes alone. -/
theorem Laid.decode_finalized [Json.Room] (h : p.Laid typed members) {q : Payload}
    (hq : q.read = .ok (.obj members)) :
    (Finalized.decode q).toOption = (Finalized.ofMembers p.fields).toOption := by
  have hfields : Table.erase (text "type") (tag typed ++ p.fields) = p.fields := by
    have htyped : Table.erase (text "type") (tag typed) = [] := by
      cases typed <;> rfl
    have happend : Table.erase (text "type") (tag typed ++ p.fields)
        = Table.erase (text "type") (tag typed) ++ Table.erase (text "type") p.fields :=
      List.filter_append _ _
    rw [happend, htyped, erase_of_get?_eq_none p.laid_fields.has_no_type,
      List.nil_append]
  rw [Finalized.toOption_decode hq,
    Finalized.lenient_ofMembers (h.merge.erase FeedEvent.isKnown_type), hfields]

/-- What the check of events gives. -/
theorem Laid.decode_event [Json.Room] {name : Option Text} (h : p.Laid typed members)
    (hname : typed = true ∨ name = some FeedEvent.Kind.gameEvent.name) {q : Payload}
    (hq : q.read = .ok (.obj members)) :
    (FeedEvent.decode name q).toOption
      = ((Finalized.ofMembers p.fields).toOption).map .gameEvent := by
  have htyped := h.withType hname
  have hmerged : FeedEvent.arrange name members
      = Layout.merge (FeedEvent.withType name members) := by
    unfold FeedEvent.arrange
    dsimp only
    rw [if_pos htyped.get?_type]
  have htype := FeedEvent.type_arrange name htyped.eachOnce
  rw [htyped.get?_type] at htype
  have hbranch : Table.get? FeedEvent.Kind.gameEvent.name
      (FeedEvent.Kind.all.map fun k => (k.name, FeedEvent.branch k))
      = some (FeedEvent.branch .gameEvent) := rfl
  rw [FeedEvent.toOption_decode hq, FeedEvent.check, Check.tagged]
  rw [htype]
  dsimp only
  rw [hbranch]
  dsimp only
  rw [Checked.toOption_under, hmerged, FeedEvent.branch, Checked.toOption_fmap,
    htyped.ofMembers_merge]

end Parts

/-- **Layout and entry point do not matter.** Whatever the fields of an envelope and the fields that
recording adds hold, there is one outcome for all layouts: a recorded envelope, or none when the
fields are refused. The decoder for recorded envelopes gives it for every layout, with a type next
to the fields or without. The decoder for events gives the event with that envelope, or refuses,
whether the type is there or is given by the feed. -/
theorem decode_layouts [Json.Room] (p : Parts) : ∃ outcome : Option Finalized,
    ∀ (typed : Bool) (members : Table Text Json) (q : Payload),
      p.Laid typed members → q.read = .ok (.obj members) →
        (Finalized.decode q).toOption = outcome
          ∧ ∀ name, typed = true ∨ name = some FeedEvent.Kind.gameEvent.name →
            (FeedEvent.decode name q).toOption = outcome.map .gameEvent :=
  ⟨(Finalized.ofMembers p.fields).toOption, fun _ _ _ hlaid hq =>
    ⟨hlaid.decode_finalized hq, fun _ hname => hlaid.decode_event hname hq⟩⟩

namespace RiverRaise

/-- The fields of the envelope in camel case, those that recording adds with underscores. -/
def parts : Parts where
  envelope := envelope true
  added := added false
  envelope_keys := by decide +kernel
  added_keys := by decide +kernel
  envelope_once := by decide +kernel
  added_once := by decide +kernel

/-- The number stands in the envelope, the other added fields next to it, and the type too. -/
def halfNested : Table Text Json :=
  Parts.tag true ++ (text "envelope", .obj (envelope true ++ (added false).drop 2))
    :: (added false).take 2

theorem laid_halfNested : parts.Laid true halfNested :=
  @Parts.Laid.nested parts true (fun entry => entry.1 = text "snapshot_sequence_id")
    (envelope true ++ (added false).drop 2) halfNested (.of_eq (by decide +kernel))
    (.of_eq (by decide +kernel))

theorem laid_flat : parts.Laid false (envelope true ++ added false) :=
  .flat (by decide +kernel) (.refl _)

end RiverRaise

/-- The raise decodes in either layout, and to the same. -/
theorem decode_layouts_riverRaise :
    let flat := Payload.value (.obj (RiverRaise.envelope true ++ RiverRaise.added false))
    let nested := Payload.value (.obj RiverRaise.halfNested)
    ∃ f, (Finalized.decode flat).toOption = some f
      ∧ (FeedEvent.decode (some (text "game_event")) flat).toOption = some (.gameEvent f)
      ∧ (Finalized.decode nested).toOption = some f
      ∧ (FeedEvent.decode none nested).toOption = some (.gameEvent f) := by
  intro flat nested
  obtain ⟨outcome, h⟩ := decode_layouts RiverRaise.parts
  obtain ⟨hflat, hflatEvent⟩ := h false _ flat RiverRaise.laid_flat rfl
  obtain ⟨hnested, hnestedEvent⟩ := h true _ nested RiverRaise.laid_halfNested rfl
  have hdecodes : (Finalized.decode flat).toOption.isSome = true := by decide +kernel
  rw [hflat] at hdecodes
  obtain ⟨f, rfl⟩ := Option.isSome_iff_exists.mp hdecodes
  exact ⟨f, hflat, hflatEvent _ (.inr rfl), hnested, hnestedEvent _ (.inl rfl)⟩

end MentalPoker
