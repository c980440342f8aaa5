import Mathlib.Data.List.Pairwise
import MentalPoker.Schema

/-!
# Fields under either spelling

A field of the wire format that is called by several words has two spellings. Which of them stands
in an object should not matter, nor in which order the members come. This module looks at objects
that way: a key stands for its field, and a field has a value.

## The architecture

* **`fieldOf`**: the field that a key names. A field with two spellings is called by the first.
* **`EachOnce`**: no field stands in an object twice, under one spelling or under two.
* **`valueOf?`**: the value of a field. It does not depend on the order of the members
  (`valueOf?_perm`), and is what a check finds under the name of the field
  (`FieldName.find?_eq_valueOf?`).
* **`valueOf?_insert`**, **`valueOf?_select`**: members that are written and taken out.
-/

namespace MentalPoker.Schema

/-! ## The field of a key -/

/-- The fields with two spellings, of all objects of the wire format. -/
def bilingual : List FieldName :=
  [.wire "seat_id", .wire "player_id", .wire "shuffler_id", .wire "turn_index", .wire "deck_in",
    .wire "deck_out", .wire "card_in_deck_position", .wire "target_player_public_key",
    .wire "chaum_pedersen_proofs", .wire "hole_ciphertexts", .wire "hand_id", .wire "game_id",
    .wire "public_key", .wire "snapshot_status", .wire "applied_phase",
    .wire "snapshot_sequence_id", .wire "created_timestamp", .wire "display_name",
    .wire "player_count", .wire "shuffler_count", .wire "card_position",
    .either "BetTo" "bet_to", .either "RaiseTo" "raise_to"]

/-- The field that a key names, called by its first spelling. A key that is no second spelling
stands for itself. -/
def fieldOf (key : Text) : Text :=
  match bilingual.find? fun name => name.second = some key with
  | some name => name.first
  | none => key

/-- No two of the fields have a spelling in common. -/
theorem bilingual_disjoint : ∀ name ∈ bilingual, ∀ other ∈ bilingual,
    (name.first = other.first → name = other) ∧ (name.second = other.second → name = other)
      ∧ name.second ≠ some other.first := by
  decide +kernel

theorem fieldOf_cases (key : Text) :
    (∃ name ∈ bilingual, name.second = some key ∧ fieldOf key = name.first)
      ∨ ((∀ name ∈ bilingual, name.second ≠ some key) ∧ fieldOf key = key) := by
  unfold fieldOf
  split
  · next name hfind =>
    have hsecond : name.second = some key := by simpa using List.find?_some hfind
    exact .inl ⟨name, List.mem_of_find?_eq_some hfind, hsecond, rfl⟩
  · next hfind => exact .inr ⟨by simpa using List.find?_eq_none.mp hfind, rfl⟩

/-- A name with two spellings that is listed, or one with a single spelling that is no spelling of
those. -/
def FieldName.isKnown (name : FieldName) : Bool :=
  bilingual.contains name
    || ((name.second == none || name.second == some name.first)
      && bilingual.all fun other => name.first ≠ other.first && other.second ≠ some name.first)

theorem FieldName.fieldOf_iff_of_mem {name : FieldName} (hname : name ∈ bilingual) (key : Text) :
    fieldOf key = name.first ↔ key = name.first ∨ name.second = some key := by
  rcases fieldOf_cases key with ⟨other, hother, hsecond, hfield⟩ | ⟨hnone, hfield⟩
  · rw [hfield]
    refine ⟨fun hfirst => ?_, fun hspelling => ?_⟩
    · rw [← (bilingual_disjoint other hother name hname).1 hfirst]
      exact .inr hsecond
    · rcases hspelling with rfl | hkey
      · exact absurd hsecond (bilingual_disjoint other hother name hname).2.2
      · rw [(bilingual_disjoint other hother name hname).2.1 (hsecond.trans hkey.symm)]
  · rw [hfield]
    exact ⟨.inl, fun hspelling => hspelling.resolve_right (hnone name hname)⟩

/-- The keys of a field are the spellings of its name. -/
theorem FieldName.fieldOf_iff (name : FieldName) (h : name.isKnown = true) (key : Text) :
    fieldOf key = name.first ↔ key = name.first ∨ name.second = some key := by
  simp only [isKnown, Bool.or_eq_true, List.contains_iff_mem, Bool.and_eq_true, beq_iff_eq,
    List.all_eq_true, decide_eq_true_eq] at h
  rcases h with hmem | ⟨hsecond, halone⟩
  · exact fieldOf_iff_of_mem hmem key
  · have hsame : name.second = some key → key = name.first := by
      rcases hsecond with hnone | hfirst
      · rw [hnone]
        nofun
      · rw [hfirst]
        exact fun hkey => (Option.some.inj hkey).symm
    rcases fieldOf_cases key with ⟨other, hother, hkey, hfield⟩ | ⟨-, hfield⟩
    · rw [hfield]
      refine ⟨fun hfirst => absurd hfirst.symm (halone other hother).1, fun hspelling => ?_⟩
      rw [hspelling.elim id hsame] at hkey
      exact absurd hkey (halone other hother).2
    · rw [hfield]
      exact ⟨.inl, fun hspelling => hspelling.elim id hsame⟩

/-- A key that is the only one of its field. -/
theorem fieldOf_eq_iff {key : Text} (hkey : (FieldName.mk key none).isKnown = true) (other : Text) :
    fieldOf other = key ↔ other = key :=
  ((FieldName.mk key none).fieldOf_iff hkey other).trans ⟨fun h => h.elim id nofun, .inl⟩

theorem fieldOf_key {key : Text} (hkey : (FieldName.mk key none).isKnown = true) :
    fieldOf key = key :=
  (fieldOf_eq_iff hkey key).mpr rfl

theorem eq_key_of_fieldOf {key other : Text} (hkey : (FieldName.mk key none).isKnown = true)
    (h : fieldOf other = fieldOf key) : other = key :=
  (fieldOf_eq_iff hkey other).mp (h.trans (fieldOf_key hkey))

/-- The fields that checks look for. -/
def wireFields : List FieldName :=
  bilingual ++ [.wire "action", .wire "actor", .wire "card", .wire "cards", .wire "envelope",
    .wire "kind", .wire "message", .wire "nonce", .wire "ok", .wire "proof", .wire "reason",
    .wire "seat", .wire "share", .wire "signature", .wire "snapshot", .wire "transcript",
    .wire "value", .plain "rank", .plain "suit", .plain "to"]

/-- The keys that are looked for under this spelling only. -/
def wireKeys : List Text :=
  ["type", "kind", "player", "shuffler", "status", "reason", "failure", "message", "envelope",
    "snapshot"].map text

theorem isKnown_of_mem : ∀ name ∈ wireFields, name.isKnown = true := by
  decide +kernel

theorem isKnown_key : ∀ key ∈ wireKeys, (FieldName.mk key none).isKnown = true := by
  decide +kernel

/-- A proper key names a proper field, and an improper one itself. -/
theorem isUnicode_fieldOf (key : Text) : Text.isUnicode (fieldOf key) = Text.isUnicode key := by
  have hproper : ∀ name ∈ bilingual,
      Text.isUnicode name.first = true ∧ ∀ t ∈ name.second, Text.isUnicode t = true := by
    decide +kernel
  rcases fieldOf_cases key with ⟨name, hname, hsecond, hfield⟩ | ⟨-, hfield⟩
  · rw [hfield, (hproper name hname).1, (hproper name hname).2 key hsecond]
  · rw [hfield]

/-! ## The value of a field -/

/-- No field stands in the object twice, be it under one spelling or under two. -/
def EachOnce (members : Table Text Json) : Prop :=
  members.Pairwise fun a b => fieldOf a.1 ≠ fieldOf b.1

instance (members : Table Text Json) : Decidable (EachOnce members) :=
  inferInstanceAs (Decidable (members.Pairwise fun a b => fieldOf a.1 ≠ fieldOf b.1))

/-- The value of a field, under whichever spelling. -/
def valueOf? (field : Text) (members : Table Text Json) : Option Json :=
  (members.find? fun entry => fieldOf entry.1 = field).map Prod.snd

section Values

variable {members others : Table Text Json} {field key : Text} {v : Json}

@[simp] theorem valueOf?_nil (field : Text) : valueOf? field [] = none := rfl

theorem valueOf?_cons (field : Text) (entry : Text × Json) (members : Table Text Json) :
    valueOf? field (entry :: members)
      = if fieldOf entry.1 = field then some entry.2 else valueOf? field members := by
  by_cases h : fieldOf entry.1 = field <;> simp [valueOf?, h]

theorem valueOf?_append (field : Text) (members others : Table Text Json) :
    valueOf? field (members ++ others) = (valueOf? field members).or (valueOf? field others) := by
  rw [valueOf?, List.find?_append, Option.map_or]
  rfl

theorem valueOf?_eq_none_iff :
    valueOf? field members = none ↔ ∀ entry ∈ members, fieldOf entry.1 ≠ field := by
  simp [valueOf?]

theorem EachOnce.eq_of_field {a b : Text × Json} (h : EachOnce members) (ha : a ∈ members)
    (hb : b ∈ members) (hfield : fieldOf a.1 = fieldOf b.1) : a = b := by
  by_contra hne
  have : Std.Symm fun a b : Text × Json => fieldOf a.1 ≠ fieldOf b.1 := ⟨fun _ _ => Ne.symm⟩
  exact h.forall ha hb hne hfield

theorem EachOnce.valueOf?_eq_some_iff (h : EachOnce members) :
    valueOf? field members = some v ↔ ∃ key, fieldOf key = field ∧ (key, v) ∈ members := by
  constructor
  · intro hv
    obtain ⟨⟨key, w⟩, hfind, rfl⟩ := Option.map_eq_some_iff.1 hv
    exact ⟨key, by simpa using List.find?_some hfind, List.mem_of_find?_eq_some hfind⟩
  · rintro ⟨key, hkey, hmem⟩
    cases hvalue : valueOf? field members with
    | none => exact absurd hkey (valueOf?_eq_none_iff.mp hvalue _ hmem)
    | some w =>
      obtain ⟨⟨other, w'⟩, hfind, rfl⟩ := Option.map_eq_some_iff.1 hvalue
      have hother : fieldOf other = field := by simpa using List.find?_some hfind
      have hsame := h.eq_of_field (List.mem_of_find?_eq_some hfind) hmem (hother.trans hkey.symm)
      rw [hsame]

/-- The order of the members does not matter. -/
theorem EachOnce.perm (h : EachOnce members) (hperm : members.Perm others) : EachOnce others :=
  (hperm.pairwise_iff fun hab => Ne.symm hab).mp h

theorem valueOf?_perm (h : EachOnce members) (hperm : members.Perm others) (field : Text) :
    valueOf? field others = valueOf? field members := by
  apply Option.ext
  intro v
  rw [(h.perm hperm).valueOf?_eq_some_iff, h.valueOf?_eq_some_iff]
  simp only [hperm.mem_iff]

theorem EachOnce.filter (h : EachOnce members) (p : Text × Json → Bool) :
    EachOnce (members.filter p) :=
  List.Pairwise.filter p h

/-! ## Keys and names -/

theorem get?_eq_valueOf? (hkey : (FieldName.mk key none).isKnown = true)
    (members : Table Text Json) : Table.get? key members = valueOf? key members := by
  induction members with
  | nil => rfl
  | cons entry rest ih =>
    simp only [Table.get?, valueOf?_cons, fieldOf_eq_iff hkey, eq_comm, ih]

theorem get?_eq_none_iff : Table.get? key members = none ↔ ∀ entry ∈ members, entry.1 ≠ key := by
  induction members with
  | nil => simp
  | cons entry rest ih =>
    by_cases hentry : key = entry.1
    · simp [Table.get?, hentry]
    · simp [Table.get?, hentry, Ne.symm hentry, ih]

theorem EachOnce.get?_eq_some (h : EachOnce members) (hmem : (key, v) ∈ members) :
    Table.get? key members = some v := by
  induction members with
  | nil => cases hmem
  | cons entry rest ih =>
    obtain ⟨hfirst, hrest⟩ := List.pairwise_cons.mp h
    rcases List.mem_cons.mp hmem with rfl | hmem
    · rw [Table.get?, if_pos rfl]
    · have hne : key ≠ entry.1 := by
        rintro rfl
        exact hfirst _ hmem rfl
      rw [Table.get?, if_neg hne, ih hrest hmem]

/-- A field has its value under one of the keys that name it. -/
theorem EachOnce.valueOf?_eq_or {first second : Text} (h : EachOnce members)
    (hkeys : ∀ key, fieldOf key = field ↔ key = first ∨ key = second) :
    valueOf? field members = (Table.get? first members).or (Table.get? second members) := by
  have hfound {key : Text} {v : Json} (hkey : key = first ∨ key = second)
      (hget : Table.get? key members = some v) : valueOf? field members = some v :=
    h.valueOf?_eq_some_iff.mpr ⟨key, (hkeys key).mpr hkey, Table.mem_of_get?_eq_some hget⟩
  cases hfirst : Table.get? first members with
  | some v => exact hfound (.inl rfl) hfirst
  | none =>
    cases hsecond : Table.get? second members with
    | some v => exact hfound (.inr rfl) hsecond
    | none =>
      refine valueOf?_eq_none_iff.mpr fun entry hentry hfield => ?_
      rcases (hkeys entry.1).mp hfield with hkey | hkey
      · exact get?_eq_none_iff.mp hfirst entry hentry hkey
      · exact get?_eq_none_iff.mp hsecond entry hentry hkey

/-- What is found under a name is the value of the field. -/
theorem FieldName.find?_eq_valueOf? (name : FieldName) (hname : name ∈ wireFields)
    (h : EachOnce members) : (name.find? members).map Prod.snd = valueOf? name.first members := by
  have hkeys := name.fieldOf_iff (isKnown_of_mem name hname)
  unfold find?
  cases hsecond : name.second with
  | none =>
    have hone (key : Text) : fieldOf key = name.first ↔ key = name.first ∨ key = name.first := by
      rw [hkeys key, hsecond]
      exact ⟨fun hkey => .inl (hkey.resolve_right nofun), fun hkey => .inl (hkey.elim id id)⟩
    rw [h.valueOf?_eq_or hone]
    cases Table.get? name.first members <;> rfl
  | some second =>
    have hboth (key : Text) : fieldOf key = name.first ↔ key = name.first ∨ key = second := by
      rw [hkeys key, hsecond, Option.some.injEq, eq_comm (b := key)]
    rw [h.valueOf?_eq_or hboth]
    cases Table.get? name.first members <;> cases hget : Table.get? second members <;> simp [hget]

/-! ## Writing and taking out -/

/-- A key that is written is the only spelling of its field there. -/
theorem valueOf?_insert (hkey : ∀ entry ∈ members, fieldOf entry.1 = fieldOf key → entry.1 = key)
    (v : Json) (field : Text) :
    valueOf? field (Table.insert key v members)
      = if field = fieldOf key then some v else valueOf? field members := by
  induction members with
  | nil =>
    by_cases hfield : field = fieldOf key
    · simp [Table.insert, valueOf?_cons, hfield]
    · simp [Table.insert, valueOf?_cons, hfield, Ne.symm hfield]
  | cons entry rest ih =>
    have hrest := ih fun e he => hkey e (List.mem_cons_of_mem _ he)
    by_cases hentry : key = entry.1
    · by_cases hfield : field = fieldOf key
      · simp [Table.insert, hentry, valueOf?_cons, hfield]
      · have hne : ¬ fieldOf entry.1 = field := by
          rw [← hentry]
          exact Ne.symm hfield
        simp [Table.insert, hentry, valueOf?_cons, hne, Ne.symm hne]
    · have hne : fieldOf entry.1 ≠ fieldOf key := fun h =>
        hentry (hkey entry List.mem_cons_self h).symm
      rw [Table.insert, if_neg hentry, valueOf?_cons, valueOf?_cons, hrest]
      by_cases hfield : field = fieldOf key
      · simp [hfield, hne]
      · simp [hfield]

theorem mem_insert {entry : Text × Json} (h : entry ∈ Table.insert key v members) :
    entry = (key, v) ∨ entry ∈ members := by
  induction members with
  | nil => exact .inl (List.mem_singleton.mp h)
  | cons e rest ih =>
    by_cases hk : key = e.1
    · rw [Table.insert, if_pos hk] at h
      rcases List.mem_cons.mp h with rfl | h
      · exact .inl (by rw [hk])
      · exact .inr (List.mem_cons_of_mem _ h)
    · rw [Table.insert, if_neg hk] at h
      rcases List.mem_cons.mp h with rfl | h
      · exact .inr List.mem_cons_self
      · exact (ih h).imp id (List.mem_cons_of_mem _)

theorem EachOnce.insert (h : EachOnce members)
    (hkey : ∀ entry ∈ members, fieldOf entry.1 = fieldOf key → entry.1 = key) (v : Json) :
    EachOnce (Table.insert key v members) := by
  induction members with
  | nil => exact List.pairwise_singleton _ _
  | cons entry rest ih =>
    obtain ⟨hfirst, hrest⟩ := List.pairwise_cons.mp h
    by_cases hentry : key = entry.1
    · rw [Table.insert, if_pos hentry]
      exact List.pairwise_cons.mpr ⟨hfirst, hrest⟩
    · rw [Table.insert, if_neg hentry]
      refine List.pairwise_cons.mpr ⟨fun e he => ?_,
        ih hrest fun e he => hkey e (List.mem_cons_of_mem _ he)⟩
      rcases mem_insert he with rfl | he
      · exact fun hfield => hentry (hkey entry List.mem_cons_self hfield).symm
      · exact hfirst e he

/-- The members whose fields satisfy a condition. -/
def select (p : Text → Bool) (members : Table Text Json) : Table Text Json :=
  members.filter fun entry => p (fieldOf entry.1)

theorem valueOf?_select (p : Text → Bool) (field : Text) (members : Table Text Json) :
    valueOf? field (select p members) = if p field then valueOf? field members else none := by
  induction members with
  | nil => simp [select]
  | cons entry rest ih =>
    by_cases hentry : p (fieldOf entry.1) = true
    · have hkeep : select p (entry :: rest) = entry :: select p rest := by simp [select, hentry]
      rw [hkeep, valueOf?_cons, valueOf?_cons, ih]
      by_cases hfield : fieldOf entry.1 = field
      · rw [← hfield, if_pos rfl, if_pos hentry, if_pos rfl]
      · rw [if_neg hfield, if_neg hfield]
    · have hdrop : select p (entry :: rest) = select p rest := by simp [select, hentry]
      rw [hdrop, ih, valueOf?_cons]
      by_cases hfield : fieldOf entry.1 = field
      · rw [← hfield, if_neg hentry, if_neg hentry]
      · rw [if_neg hfield]

theorem select_append (p : Text → Bool) (members others : Table Text Json) :
    select p (members ++ others) = select p members ++ select p others :=
  List.filter_append _ _

theorem select_perm (p : Text → Bool) (h : members.Perm others) :
    (select p members).Perm (select p others) :=
  h.filter _

theorem select_eq_self {p : Text → Bool} (h : ∀ entry ∈ members, p (fieldOf entry.1) = true) :
    select p members = members :=
  List.filter_eq_self.mpr h

theorem select_eq_nil {p : Text → Bool} (h : ∀ entry ∈ members, p (fieldOf entry.1) = false) :
    select p members = [] :=
  List.filter_eq_nil_iff.mpr fun entry hentry => by simp [h entry hentry]

/-- Nothing is erased when the key is not there. -/
theorem erase_of_get?_eq_none (h : Table.get? key members = none) :
    Table.erase key members = members :=
  List.filter_eq_self.mpr fun entry hentry => by simpa using get?_eq_none_iff.mp h entry hentry

/-- What is erased stood there once. -/
theorem EachOnce.perm_cons_erase (h : EachOnce members) (hget : Table.get? key members = some v) :
    members.Perm ((key, v) :: Table.erase key members) := by
  induction members with
  | nil => cases hget
  | cons entry rest ih =>
    obtain ⟨hfirst, hrest⟩ := List.pairwise_cons.mp h
    by_cases hentry : entry.1 = key
    · have hself : Table.erase key (entry :: rest) = rest := by
        rw [Table.erase, List.filter_cons_of_neg (by simpa using hentry), List.filter_eq_self]
        intro other hother
        have hne : other.1 ≠ key := fun hsame =>
          hfirst other hother ((hentry.trans hsame.symm) ▸ rfl)
        simpa using hne
      rw [Table.get?, if_pos hentry.symm] at hget
      cases hget
      rw [hself, ← hentry]
    · have hget : Table.get? key rest = some v := by
        rwa [Table.get?, if_neg (Ne.symm hentry)] at hget
      have herase : Table.erase key (entry :: rest) = entry :: Table.erase key rest := by
        simp [Table.erase, hentry]
      rw [herase]
      exact ((ih hrest hget).cons entry).trans (.swap _ _ _)

/-- A key that is the only one of its field is erased with it. -/
theorem erase_eq_select (hkey : (FieldName.mk key none).isKnown = true)
    (members : Table Text Json) : Table.erase key members = select (· ≠ key) members := by
  simp only [Table.erase, select, ne_eq, fieldOf_eq_iff hkey]

end Values

end MentalPoker.Schema
