import MentalPoker.Proofs.Envelope.Layouts

/-!
# The nested layout is a normal form

Merging takes keys from one object to another and back, under two spellings for each field. What
comes of it is described here key by key, whatever stands where: inside the envelope, outside of it,
or in both places, and whether there is an envelope at all.

## The crux

An object is left alone by merging just when it is `Nested`: nothing is to be gathered from it, and
nothing to be lifted out of its envelope. Whatever is merged comes out nested, so that merging it
once more does nothing.

## The architecture

* **`get?_liftField`**, **`get?_foldl_liftField`**: a field that is lifted is written under its
  first spelling, and no step of the walk touches the keys of another.
* **`get?_gather_snd`**: what is gathered, under each key.
* **`Nested`**, **`Merged`**: the normal form, and what an object has to do with it.
-/

namespace MentalPoker.Layout

variable {members outer inner : Table Text Json} {names : Names} {key : Text}

/-! ## Lifting one field -/

theorem mem_spellings_of_mem {fields : List Names} (h : names ∈ fields) :
    names.1 ∈ spellings fields ∧ names.2 ∈ spellings fields :=
  ⟨List.mem_flatMap.mpr ⟨names, h, List.mem_cons_self⟩,
    List.mem_flatMap.mpr ⟨names, h, List.mem_cons_of_mem _ List.mem_cons_self⟩⟩

/-- The field stands in the object under one spelling or both. -/
def standsIn (names : Names) (members : Table Text Json) : Bool :=
  Table.has names.1 members || Table.has names.2 members

theorem standsIn_eq_false_iff : standsIn names members = false
    ↔ Table.get? names.1 members = none ∧ Table.get? names.2 members = none := by
  simp only [standsIn, Table.has, Bool.or_eq_false_iff, Option.isSome_eq_false_iff,
    Option.isNone_iff_eq_none]

theorem lift_of_standsIn (h : standsIn names outer = true) (inner : Table Text Json)
    (key : Text) : (lift names outer inner key).1 = outer := by
  unfold lift
  split
  · rfl
  · exact congrArg Prod.fst (if_pos h)

theorem lift_of_get?_eq_none (names : Names) (outer : Table Text Json)
    (h : Table.get? key inner = none) : lift names outer inner key = (outer, inner) := by
  rw [lift, h]

theorem lift_of_get?_eq_some (h : standsIn names outer = false) {v : Json}
    (hv : Table.get? key inner = some v) :
    (lift names outer inner key).1 = Table.insert names.1 v outer := by
  rw [lift, hv]
  exact congrArg Prod.fst (if_neg (Bool.eq_false_iff.mp h))

theorem liftField_eq (names : Names) (outer inner : Table Text Json) :
    liftField names outer inner = lift names (lift names outer inner names.1).1
      (lift names outer inner names.1).2 names.2 := rfl

/-- Only a field that does not stand outside is lifted, under its first spelling. -/
theorem get?_liftField (names : Names) (outer inner : Table Text Json) (key : Text) :
    Table.get? key (liftField names outer inner).1
      = if standsIn names outer = false ∧ key = names.1 then inside? names inner
        else Table.get? key outer := by
  rw [liftField_eq]
  cases hstands : standsIn names outer with
  | true =>
    rw [lift_of_standsIn hstands, lift_of_standsIn hstands, if_neg (by simp)]
  | false =>
    simp only [true_and]
    cases hfirst : Table.get? names.1 inner with
    | some v =>
      -- the first spelling was lifted, so that the second one does not count
      have hlifted : standsIn names (Table.insert names.1 v outer) = true := by
        rw [standsIn, Table.has, Table.get?_insert_self]
        rfl
      rw [lift_of_get?_eq_some hstands hfirst, lift_of_standsIn hlifted, Table.get?_insert, inside?,
        hfirst, Option.some_or]
    | none =>
      rw [lift_of_get?_eq_none names outer hfirst, inside?, hfirst, Option.none_or]
      cases hsecond : Table.get? names.2 inner with
      | some v => rw [lift_of_get?_eq_some hstands hsecond, Table.get?_insert]
      | none =>
        rw [lift_of_get?_eq_none names outer hsecond]
        split
        · next hkey => rw [hkey, (standsIn_eq_false_iff.mp hstands).1]
        · rfl

theorem liftField_of_clean (names : Names) (outer : Table Text Json)
    (hfirst : Table.get? names.1 inner = none) (hsecond : Table.get? names.2 inner = none) :
    liftField names outer inner = (outer, inner) := by
  rw [liftField_eq, lift_of_get?_eq_none names outer hfirst]
  exact lift_of_get?_eq_none names outer hsecond

theorem nodup_keys_lift (names : Names) (inner : Table Text Json) (key : Text)
    (h : (Table.keys outer).Nodup) : (Table.keys (lift names outer inner key).1).Nodup := by
  cases hstands : standsIn names outer with
  | true => rwa [lift_of_standsIn hstands]
  | false =>
    cases hget : Table.get? key inner with
    | none => rwa [lift_of_get?_eq_none names outer hget]
    | some v =>
      rw [lift_of_get?_eq_some hstands hget]
      exact Table.nodup_keys_insert _ _ h

/-! ## Lifting all fields -/

/-- Each field is lifted by itself: the steps for other fields touch other keys. -/
theorem get?_foldl_liftField {fields : List Names} (hdistinct : (spellings fields).Nodup)
    (outer inner : Table Text Json) :
    let lifted :=
      fields.foldl (fun (outer, inner) names => liftField names outer inner) (outer, inner)
    (∀ key, key ∉ spellings fields → Table.get? key lifted.1 = Table.get? key outer)
      ∧ ∀ names ∈ fields,
          Table.get? names.1 lifted.1 = (if standsIn names outer = false then inside? names inner
            else Table.get? names.1 outer)
            ∧ Table.get? names.2 lifted.1 = Table.get? names.2 outer := by
  induction fields generalizing outer inner with
  | nil => exact ⟨fun _ _ => rfl, fun _ h => absurd h List.not_mem_nil⟩
  | cons names rest ih =>
    have hsplit : spellings (names :: rest) = names.1 :: names.2 :: spellings rest := rfl
    rw [hsplit, List.nodup_cons, List.nodup_cons, List.mem_cons, not_or] at hdistinct
    obtain ⟨⟨hne, hfirst⟩, hsecond, hrest⟩ := hdistinct
    have hstep := get?_liftField names outer inner
    obtain ⟨hothers, hfields⟩ := ih hrest (liftField names outer inner).1
      (liftField names outer inner).2
    refine ⟨fun key hkey => ?_, fun field hfield => ?_⟩
    · rw [mem_spellings_cons, not_or, not_or] at hkey
      exact (hothers key hkey.2.2).trans ((hstep key).trans (if_neg fun h => hkey.1 h.2))
    · rcases List.mem_cons.mp hfield with rfl | hfield
      · -- this field is not met again
        refine ⟨(hothers _ hfirst).trans ((hstep _).trans ?_),
          (hothers _ hsecond).trans ((hstep _).trans (if_neg fun h => hne h.2.symm))⟩
        simp only [and_true]
      · -- the spellings of later fields are left alone on both sides
        have houter {k : Text} (hk : k ∈ spellings rest) :
            Table.get? k (liftField names outer inner).1 = Table.get? k outer := by
          rw [hstep, if_neg]
          rintro ⟨-, rfl⟩
          exact hfirst hk
        have hinner {k : Text} (hk : k ∈ spellings rest) :
            Table.get? k (liftField names outer inner).2 = Table.get? k inner := by
          have hne : k ≠ names.1 := fun h => hfirst (h ▸ hk)
          have hne' : k ≠ names.2 := fun h => hsecond (h ▸ hk)
          rw [liftField_snd, Table.get?_erase_of_ne hne', Table.get?_erase_of_ne hne]
        obtain ⟨hone, hother⟩ := mem_spellings_of_mem hfield
        have hhere := hfields field hfield
        rwa [standsIn, Table.has, Table.has, inside?, houter hone, houter hother, hinner hone,
          hinner hother] at hhere

theorem nodup_spellings_finalizedFields : (spellings finalizedFields).Nodup := by
  decide +kernel

theorem get?_liftAll_fst (hkey : key ∉ spellings finalizedFields) (outer inner : Table Text Json) :
    Table.get? key (liftAll outer inner).1 = Table.get? key outer :=
  (get?_foldl_liftField nodup_spellings_finalizedFields outer inner).1 key hkey

theorem get?_liftAll_names (hnames : names ∈ finalizedFields) (outer inner : Table Text Json) :
    Table.get? names.1 (liftAll outer inner).1
        = (if standsIn names outer = false then inside? names inner else Table.get? names.1 outer)
      ∧ Table.get? names.2 (liftAll outer inner).1 = Table.get? names.2 outer :=
  (get?_foldl_liftField nodup_spellings_finalizedFields outer inner).2 names hnames

theorem get?_liftAll_snd (outer inner : Table Text Json) (key : Text) :
    Table.get? key (liftAll outer inner).2
      = if key ∈ spellings finalizedFields then none else Table.get? key inner := by
  rw [liftAll_snd, Table.get?_filter fun k => decide (k ∉ spellings finalizedFields)]
  by_cases hkey : key ∈ spellings finalizedFields <;> simp [hkey]

/-- No field that recording adds stands in the object. -/
def Clean (members : Table Text Json) : Prop :=
  ∀ key ∈ spellings finalizedFields, Table.get? key members = none

theorem clean_liftAll_snd (outer inner : Table Text Json) : Clean (liftAll outer inner).2 :=
  fun key hkey => (get?_liftAll_snd outer inner key).trans (if_pos hkey)

theorem liftAll_of_clean (h : Clean inner) (outer : Table Text Json) :
    liftAll outer inner = (outer, inner) := by
  have hwalk (fields : List Names) (hsub : fields ⊆ finalizedFields) :
      fields.foldl (fun (outer, inner) names => liftField names outer inner) (outer, inner)
        = (outer, inner) := by
    induction fields with
    | nil => rfl
    | cons names rest ih =>
      obtain ⟨hfirst, hsecond⟩ := mem_spellings_of_mem (hsub List.mem_cons_self)
      show rest.foldl _ (liftField names outer inner) = _
      rw [liftField_of_clean names outer (h _ hfirst) (h _ hsecond)]
      exact ih fun other hother => hsub (List.mem_cons_of_mem _ hother)
  exact hwalk finalizedFields (List.Subset.refl _)

theorem nodup_keys_foldl_liftField (fields : List Names) (h : (Table.keys outer).Nodup)
    (inner : Table Text Json) :
    (Table.keys (fields.foldl (fun (outer, inner) names => liftField names outer inner)
      (outer, inner)).1).Nodup := by
  induction fields generalizing outer inner with
  | nil => exact h
  | cons names rest ih =>
    have hstep : (Table.keys (liftField names outer inner).1).Nodup :=
      nodup_keys_lift names _ _ (nodup_keys_lift names _ _ h)
    exact ih hstep (liftField names outer inner).2

theorem nodup_keys_liftAll_fst (h : (Table.keys outer).Nodup) (inner : Table Text Json) :
    (Table.keys (liftAll outer inner).1).Nodup :=
  nodup_keys_foldl_liftField finalizedFields h inner

/-! ## Gathering an envelope -/

theorem get?_move_snd (giver taker : Table Text Json) (moved key : Text) :
    Table.get? key (move giver taker moved).2
      = if key = moved then (Table.get? moved giver).or (Table.get? moved taker)
        else Table.get? key taker := by
  unfold move
  split
  · next hget =>
    rw [hget, Option.none_or]
    split
    · next hkey => rw [hkey]
    · rfl
  · next v hget => rw [hget, Option.some_or, Table.get?_insert]

/-- What is taken has the value of the giver. -/
theorem get?_foldl_move_snd (keys : List Text) (giver taker : Table Text Json) (key : Text) :
    Table.get? key
        (keys.foldl (fun (giver, taker) key => move giver taker key) (giver, taker)).2
      = if key ∈ keys then (Table.get? key giver).or (Table.get? key taker)
        else Table.get? key taker := by
  induction keys generalizing giver taker with
  | nil => simp
  | cons moved rest ih =>
    refine (ih (move giver taker moved).1 (move giver taker moved).2).trans ?_
    rw [move_fst, get?_move_snd, Table.get?_erase]
    by_cases hkey : key = moved
    · simp [hkey]
    · simp [hkey]

theorem get?_gather_fst (members : Table Text Json) (key : Text) :
    Table.get? key (gather members).1
      = if key ∈ spellings envelopeFields then none else Table.get? key members := by
  rw [gather_fst, Table.get?_filter fun k => decide (k ∉ spellings envelopeFields)]
  by_cases hkey : key ∈ spellings envelopeFields <;> simp [hkey]

theorem get?_gather_snd (members : Table Text Json) (key : Text) :
    Table.get? key (gather members).2
      = if key ∈ spellings envelopeFields then Table.get? key members else none := by
  rw [gather, get?_foldl_move_snd, Table.get?_nil, Option.or_none]

/-- The two kinds of fields, and the envelope, have keys of their own. -/
theorem finalizedFields_apart : ∀ key ∈ spellings finalizedFields,
    key ∉ spellings envelopeFields ∧ key ≠ text "envelope" := by
  decide +kernel

theorem envelopeFields_apart : ∀ key ∈ spellings envelopeFields,
    key ∉ spellings finalizedFields ∧ key ≠ text "envelope" := by
  decide +kernel

theorem clean_gather_snd (members : Table Text Json) : Clean (gather members).2 :=
  fun key hkey => (get?_gather_snd members key).trans (if_neg (finalizedFields_apart key hkey).1)

theorem nodup_keys_foldl_move_snd (keys : List Text) (giver : Table Text Json)
    {taker : Table Text Json} (h : (Table.keys taker).Nodup) :
    (Table.keys (keys.foldl (fun (giver, taker) key => move giver taker key)
      (giver, taker)).2).Nodup := by
  induction keys generalizing giver taker with
  | nil => exact h
  | cons key rest ih =>
    have hstep : (Table.keys (move giver taker key).2).Nodup := by
      unfold move
      split
      · exact h
      · exact Table.nodup_keys_insert _ _ h
    exact ih (move giver taker key).1 hstep

theorem nodup_keys_gather_snd (members : Table Text Json) :
    (Table.keys (gather members).2).Nodup :=
  nodup_keys_foldl_move_snd (spellings envelopeFields) members List.nodup_nil

/-! ## The normal form -/

/-- The fields of an envelope stand in the object itself, and there is no envelope. -/
def Flat (members : Table Text Json) : Prop :=
  (Table.get? (text "envelope") members = none
      ∨ Table.get? (text "envelope") members = some .null)
    ∧ Table.has (text "message") members = true

/-- There is nothing to be gathered and nothing to be lifted. -/
structure Nested (members : Table Text Json) : Prop where
  gathered : ¬ Flat members
  clean : ∀ inner, Table.get? (text "envelope") members = some (.obj inner) → Clean inner

theorem Flat.get?_ne_obj (h : Flat members) (inner : Table Text Json) :
    Table.get? (text "envelope") members ≠ some (.obj inner) := by
  intro hget
  rcases h.1 with hnone | hnull
  · rw [hget] at hnone
    cases hnone
  · rw [hget] at hnull
    cases hnull

/-- An object is flat, or has an envelope that is an object, or neither. -/
theorem layout_cases (members : Table Text Json) :
    Flat members
      ∨ (∃ inner, Table.get? (text "envelope") members = some (.obj inner))
      ∨ (¬ Flat members
        ∧ ∀ inner, Table.get? (text "envelope") members ≠ some (.obj inner)) := by
  by_cases hflat : Flat members
  · exact .inl hflat
  · by_cases hobj : ∃ inner, Table.get? (text "envelope") members = some (.obj inner)
    · exact .inr (.inl hobj)
    · exact .inr (.inr ⟨hflat, not_exists.mp hobj⟩)

theorem merge_of_flat (h : Flat members) : merge members
    = Table.insert (text "envelope") (.obj (gather members).2) (gather members).1 := by
  rw [merge_of_message h.1 h.2, nest, liftAll_of_clean (clean_gather_snd members)]

theorem merge_of_neither (h : ¬ Flat members)
    (hobj : ∀ inner, Table.get? (text "envelope") members ≠ some (.obj inner)) :
    merge members = members :=
  merge_of_other rfl hobj fun hnone => Bool.eq_false_iff.mpr fun hmessage => h ⟨hnone, hmessage⟩

theorem get?_envelope_nest (outer inner : Table Text Json) :
    Table.get? (text "envelope") (nest outer inner) = some (.obj (liftAll outer inner).2) :=
  Table.get?_insert_self _ _ _

theorem get?_nest (hkey : key ≠ text "envelope") (outer inner : Table Text Json) :
    Table.get? key (nest outer inner) = Table.get? key (liftAll outer inner).1 :=
  Table.get?_insert_of_ne hkey _ _

theorem nested_of_get?_envelope (h : Table.get? (text "envelope") members = some (.obj inner))
    (hclean : Clean inner) : Nested members where
  gathered hflat := hflat.get?_ne_obj inner h
  clean other hother := by
    rw [h] at hother
    cases hother
    exact hclean

/-- **Whatever is merged is nested.** -/
theorem nested_merge (members : Table Text Json) : Nested (merge members) := by
  rcases layout_cases members with hflat | ⟨inner, hget⟩ | ⟨hflat, hobj⟩
  · rw [merge_of_flat hflat]
    exact nested_of_get?_envelope (Table.get?_insert_self _ _ _) (clean_gather_snd members)
  · rw [merge_of_envelope hget]
    exact nested_of_get?_envelope (get?_envelope_nest members inner)
      (clean_liftAll_snd members inner)
  · rw [merge_of_neither hflat hobj]
    exact ⟨hflat, fun inner hget => absurd hget (hobj inner)⟩

theorem merge_of_nested (h : Nested members) : merge members = members := by
  rcases layout_cases members with hflat | ⟨inner, hget⟩ | ⟨hflat, hobj⟩
  · exact absurd hflat h.gathered
  · rw [merge_of_envelope hget, nest, liftAll_of_clean (h.clean inner hget)]
    exact Table.insert_eq_self hget
  · exact merge_of_neither hflat hobj

theorem merge_eq_self_iff : merge members = members ↔ Nested members :=
  ⟨fun h => h ▸ nested_merge members, merge_of_nested⟩

/-! ## What merging keeps -/

/-- The members of the envelope; none when it is no object. -/
def innerOf (members : Table Text Json) : Table Text Json :=
  match Table.get? (text "envelope") members with
  | some (.obj inner) => inner
  | _ => []

/-- What becomes of the keys of an object when it is merged. -/
structure Merged (members merged : Table Text Json) : Prop where
  /-- A field that recording adds keeps what the outer object has, under either spelling. -/
  kept : ∀ names ∈ finalizedFields, standsIn names members = true →
    Table.get? names.1 merged = Table.get? names.1 members
      ∧ Table.get? names.2 merged = Table.get? names.2 members
  /-- If it has nothing, the value comes from the envelope and goes under the first spelling. -/
  lifted : ∀ names ∈ finalizedFields, standsIn names members = false →
    Table.get? names.1 merged = inside? names (innerOf members)
      ∧ Table.get? names.2 merged = none
  /-- None of these fields is left in the envelope. -/
  clean : ∀ inner, Table.get? (text "envelope") merged = some (.obj inner) → Clean inner
  /-- The fields of the envelope leave the outer object just when it is flat. -/
  moved : ∀ key ∈ spellings envelopeFields, Table.has key members = true →
    (Table.get? key merged = none ↔ Flat members)
  /-- They are gathered in a new envelope, which has nothing else. -/
  gathered : Flat members → ∃ inner, Table.get? (text "envelope") merged = some (.obj inner)
    ∧ ∀ key, Table.get? key inner
        = if key ∈ spellings envelopeFields then Table.get? key members else none
  /-- An envelope that is there keeps all that does not belong outside. -/
  envelope : ∀ inner, Table.get? (text "envelope") members = some (.obj inner) →
    ∃ rest, Table.get? (text "envelope") merged = some (.obj rest)
      ∧ ∀ key, key ∉ spellings finalizedFields → Table.get? key rest = Table.get? key inner
  /-- All other keys of the outer object keep their values. -/
  others : ∀ key, key ≠ text "envelope" → key ∉ spellings finalizedFields →
    ¬ (Flat members ∧ key ∈ spellings envelopeFields) →
      Table.get? key merged = Table.get? key members
  /-- An object with neither an envelope that is an object nor a message stays as it is. -/
  unchanged : ¬ Flat members →
    (∀ inner, Table.get? (text "envelope") members ≠ some (.obj inner)) → merged = members

theorem innerOf_eq_nil
    (h : ∀ inner, Table.get? (text "envelope") members ≠ some (.obj inner)) :
    innerOf members = [] := by
  unfold innerOf
  split
  · next inner hget => exact absurd hget (h inner)
  · rfl

theorem get?_ne_none (h : Table.has key members = true) : Table.get? key members ≠ none :=
  Option.isSome_iff_ne_none.mp h

theorem merged_of_flat (h : Flat members) : Merged members (merge members) := by
  have hclean := (nested_merge members).clean
  rw [merge_of_flat h] at hclean ⊢
  have hget {key : Text} (hkey : key ≠ text "envelope") :
      Table.get? key (Table.insert (text "envelope") (.obj (gather members).2) (gather members).1)
        = if key ∈ spellings envelopeFields then none else Table.get? key members :=
    (Table.get?_insert_of_ne hkey _ _).trans (get?_gather_fst members key)
  have hrecorded {key : Text} (hkey : key ∈ spellings finalizedFields) :
      Table.get? key (Table.insert (text "envelope") (.obj (gather members).2) (gather members).1)
        = Table.get? key members :=
    (hget (finalizedFields_apart key hkey).2).trans (if_neg (finalizedFields_apart key hkey).1)
  constructor
  case kept =>
    intro names hnames _
    obtain ⟨hfirst, hsecond⟩ := mem_spellings_of_mem hnames
    exact ⟨hrecorded hfirst, hrecorded hsecond⟩
  case lifted =>
    -- without an envelope there is nothing to lift
    intro names hnames hstands
    obtain ⟨hfirst, hsecond⟩ := mem_spellings_of_mem hnames
    obtain ⟨hnone, hnone'⟩ := standsIn_eq_false_iff.mp hstands
    rw [innerOf_eq_nil h.get?_ne_obj, hrecorded hfirst, hrecorded hsecond, hnone, hnone']
    exact ⟨rfl, rfl⟩
  case clean => exact hclean
  case moved =>
    intro key hkey _
    exact iff_of_true ((hget (envelopeFields_apart key hkey).2).trans (if_pos hkey)) h
  case gathered =>
    intro _
    exact ⟨_, Table.get?_insert_self _ _ _, get?_gather_snd members⟩
  case envelope =>
    intro inner hinner
    exact absurd hinner (h.get?_ne_obj inner)
  case others =>
    intro key hkey _ hmoved
    exact (hget hkey).trans (if_neg fun hfield => hmoved ⟨h, hfield⟩)
  case unchanged =>
    intro hflat
    exact absurd h hflat

theorem merged_of_envelope
    (hinner : Table.get? (text "envelope") members = some (.obj inner)) :
    Merged members (merge members) := by
  have hflat : ¬ Flat members := fun hflat => hflat.get?_ne_obj inner hinner
  have hclean := (nested_merge members).clean
  have hinnerOf : innerOf members = inner := by rw [innerOf, hinner]
  rw [merge_of_envelope hinner] at hclean ⊢
  have hothers {key : Text} (hkey : key ≠ text "envelope")
      (hfield : key ∉ spellings finalizedFields) :
      Table.get? key (nest members inner) = Table.get? key members :=
    (get?_nest hkey members inner).trans (get?_liftAll_fst hfield members inner)
  have hrecorded {names : Names} (hnames : names ∈ finalizedFields) :
      Table.get? names.1 (nest members inner)
          = (if standsIn names members = false then inside? names inner
            else Table.get? names.1 members)
        ∧ Table.get? names.2 (nest members inner) = Table.get? names.2 members := by
    obtain ⟨hfirst, hsecond⟩ := mem_spellings_of_mem hnames
    rw [get?_nest (finalizedFields_apart _ hfirst).2, get?_nest (finalizedFields_apart _ hsecond).2]
    exact get?_liftAll_names hnames members inner
  constructor
  case kept =>
    intro names hnames hstands
    obtain ⟨hfirst, hsecond⟩ := hrecorded hnames
    exact ⟨hfirst.trans (if_neg (Bool.not_eq_false _ ▸ hstands)), hsecond⟩
  case lifted =>
    intro names hnames hstands
    obtain ⟨hfirst, hsecond⟩ := hrecorded hnames
    rw [hinnerOf]
    exact ⟨hfirst.trans (if_pos hstands),
      hsecond.trans (standsIn_eq_false_iff.mp hstands).2⟩
  case clean => exact hclean
  case moved =>
    intro key hkey hhas
    obtain ⟨hfield, henvelope⟩ := envelopeFields_apart key hkey
    rw [hothers henvelope hfield]
    exact iff_of_false (get?_ne_none hhas) hflat
  case gathered => exact fun h => absurd h hflat
  case envelope =>
    intro other hother
    rw [hinner] at hother
    obtain rfl := Json.obj.inj (Option.some.inj hother)
    exact ⟨_, get?_envelope_nest members inner, fun key hkey =>
      (get?_liftAll_snd members inner key).trans (if_neg hkey)⟩
  case others =>
    intro key hkey hfield _
    exact hothers hkey hfield
  case unchanged =>
    intro _ hobj
    exact absurd hinner (hobj inner)

theorem merged_of_neither (h : ¬ Flat members)
    (hobj : ∀ inner, Table.get? (text "envelope") members ≠ some (.obj inner)) :
    Merged members (merge members) := by
  rw [merge_of_neither h hobj]
  constructor
  case lifted =>
    intro names _ hstands
    obtain ⟨hfirst, hsecond⟩ := standsIn_eq_false_iff.mp hstands
    rw [innerOf_eq_nil hobj, hfirst, hsecond]
    exact ⟨rfl, rfl⟩
  case moved =>
    intro key _ hhas
    exact iff_of_false (get?_ne_none hhas) h
  case kept => exact fun _ _ _ => ⟨rfl, rfl⟩
  case clean => exact fun inner hinner => absurd hinner (hobj inner)
  case gathered => exact fun hflat => absurd hflat h
  case envelope => exact fun inner hinner => absurd hinner (hobj inner)
  case others => exact fun _ _ _ _ => rfl
  case unchanged => exact fun _ _ => rfl

theorem merged_merge (members : Table Text Json) : Merged members (merge members) := by
  rcases layout_cases members with hflat | ⟨inner, hget⟩ | ⟨hflat, hobj⟩
  · exact merged_of_flat hflat
  · exact merged_of_envelope hget
  · exact merged_of_neither hflat hobj

/-- Each key stands once, in the object and in its envelope. -/
structure KeysOnce (members : Table Text Json) : Prop where
  outer : (Table.keys members).Nodup
  inner : ∀ inner, Table.get? (text "envelope") members = some (.obj inner) →
    (Table.keys inner).Nodup

theorem nodup_keys_filter (keep : Text × Json → Bool) (h : (Table.keys members).Nodup) :
    (Table.keys (members.filter keep)).Nodup :=
  h.sublist (List.filter_sublist.map Prod.fst)

theorem KeysOnce.merge (h : KeysOnce members) : KeysOnce (merge members) := by
  rcases layout_cases members with hflat | ⟨inner, hget⟩ | ⟨hflat, hobj⟩
  · rw [merge_of_flat hflat]
    refine ⟨Table.nodup_keys_insert _ _ ?_, fun inner hinner => ?_⟩
    · rw [gather_fst]
      exact nodup_keys_filter _ h.outer
    · rw [Table.get?_insert_self] at hinner
      obtain rfl := Json.obj.inj (Option.some.inj hinner)
      exact nodup_keys_gather_snd members
  · rw [merge_of_envelope hget]
    refine ⟨Table.nodup_keys_insert _ _ (nodup_keys_liftAll_fst h.outer inner),
      fun rest hrest => ?_⟩
    rw [get?_envelope_nest] at hrest
    obtain rfl := Json.obj.inj (Option.some.inj hrest)
    rw [liftAll_snd]
    exact nodup_keys_filter _ (h.inner inner hget)
  · rwa [merge_of_neither hflat hobj]

/-- **Merging brings every object to its normal form.** Merging twice is merging once, and the
objects that merging leaves alone are those that are nested. What is merged has each key of the
object and of its envelope where it belongs, with the value that it had (`Merged`), and no key
twice. -/
theorem merging_is_normalizing (members : Table Text Json) :
    merge (merge members) = merge members
      ∧ (merge members = members ↔ Nested members)
      ∧ Merged members (merge members)
      ∧ (KeysOnce members → KeysOnce (merge members)) :=
  ⟨merge_of_nested (nested_merge members), merge_eq_self_iff, merged_merge members, KeysOnce.merge⟩

/-- An envelope with fields that recording adds, one of them under both spellings and one that
stands outside as well. -/
def crowdedEnvelope : Table Text Json :=
  [(text "createdTimestamp", .int 9), (text "appliedPhase", .lit "dealing"),
    (text "nonce", .int 4), (text "applied_phase", .lit "shuffling")]

def crowded : Table Text Json :=
  [(text "hand_id", .int 3), (text "envelope", .obj crowdedEnvelope),
    (text "created_timestamp", .int 5)]

theorem merging_is_normalizing_crowded :
    KeysOnce crowded
      ∧ merge crowded
        = [(text "hand_id", .int 3), (text "envelope", .obj [(text "nonce", .int 4)]),
          (text "created_timestamp", .int 5), (text "applied_phase", .lit "shuffling")]
      ∧ merge (merge crowded) = merge crowded ∧ merge crowded ≠ crowded
      ∧ Merged crowded (merge crowded) ∧ KeysOnce (merge crowded) := by
  have hget : Table.get? (text "envelope") crowded = some (.obj crowdedEnvelope) := by
    decide +kernel
  have honce : KeysOnce crowded := by
    refine ⟨by decide +kernel, fun inner hinner => ?_⟩
    rw [hget] at hinner
    obtain rfl := Json.obj.inj (Option.some.inj hinner)
    decide +kernel
  obtain ⟨htwice, hfixed, hmerged, hkeys⟩ := merging_is_normalizing crowded
  refine ⟨honce, by decide +kernel, htwice, fun hsame => ?_, hmerged, hkeys honce⟩
  -- a phase is still to be lifted
  have hclean := (hfixed.mp hsame).clean crowdedEnvelope hget (text "appliedPhase")
    (by decide +kernel)
  exact absurd hclean (by decide +kernel)

end MentalPoker.Layout
