import Mathlib.Data.List.Forall2
import MentalPoker.Proofs.Schema.Spelling

/-!
# Checks of values that are alike

Two JSON values are alike when they differ only in the order of members and in the spellings of
fields, at any depth, within objects that have each field once. A check is lenient when it gives the
same for alike values: the same value, or none for either. What it says about a value that it
refuses may differ, since there the spellings are named.

## The architecture

* **`Alike`**, **`SameFields`**: values and objects that are alike.
* **`Checked.toOption_seq`** and its kin: what a check gives, without its issues.
* **`Lenient`**, with a lemma for each kind of check; the crux is `required_congr`, where a field is
  found under either spelling.
* **`SameFields.insert`**, **`SameFields.erase`**: what keeps two objects alike.
* **`Respelled.alike`**: a value in which fields got their other spellings is alike.
-/

namespace MentalPoker.Schema

variable {α β : Type}

/-! ## Values that are alike -/

/-- The values are the same up to the order of members and the spelling of fields, in objects that
have each field once. -/
inductive Alike : Json → Json → Prop
  | refl (v : Json) : Alike v v
  | arr {vs ws : List Json} : List.Forall₂ Alike vs ws → Alike (.arr vs) (.arr ws)
  | obj {ms ns : Table Text Json} : EachOnce ms → EachOnce ns →
      (∀ field, Option.Rel Alike (valueOf? field ms) (valueOf? field ns)) →
      Alike (.obj ms) (.obj ns)

/-- The objects have the same fields, each of them once, with alike values. -/
structure SameFields (ms ns : Table Text Json) : Prop where
  left : EachOnce ms
  right : EachOnce ns
  values : ∀ field, Option.Rel Alike (valueOf? field ms) (valueOf? field ns)

theorem rel_refl (v : Option Json) : Option.Rel Alike v v := by
  cases v with
  | none => exact .none
  | some v => exact .some (.refl v)

theorem rel_or {a b c d : Option Json} (hac : Option.Rel Alike a c) (hbd : Option.Rel Alike b d) :
    Option.Rel Alike (a.or b) (c.or d) := by
  cases hac with
  | some h => exact .some h
  | none => exact hbd

theorem SameFields.of_eq {ms ns : Table Text Json} (hms : EachOnce ms) (hns : EachOnce ns)
    (h : ∀ field, valueOf? field ms = valueOf? field ns) : SameFields ms ns :=
  ⟨hms, hns, fun field => h field ▸ rel_refl _⟩

/-- A field has a value in both objects or in neither. -/
theorem SameFields.value_cases {ms ns : Table Text Json} (h : SameFields ms ns) (field : Text) :
    (valueOf? field ms = none ∧ valueOf? field ns = none)
      ∨ ∃ v w, valueOf? field ms = some v ∧ valueOf? field ns = some w ∧ Alike v w := by
  have hrel := h.values field
  cases hms : valueOf? field ms with
  | none =>
    rw [hms] at hrel
    exact .inl ⟨rfl, by generalize valueOf? field ns = r at hrel; cases hrel; rfl⟩
  | some v =>
    rw [hms] at hrel
    generalize valueOf? field ns = r at hrel
    cases hrel with
    | some halike => exact .inr ⟨v, _, rfl, rfl, halike⟩

theorem SameFields.alike {ms ns : Table Text Json} (h : SameFields ms ns) :
    Alike (.obj ms) (.obj ns) := .obj h.left h.right h.values

/-- A value without parts is alike to no other. -/
theorem Alike.eq_iff {v w u : Json} (h : Alike v w) (harr : ∀ vs, u ≠ .arr vs)
    (hobj : ∀ ms, u ≠ .obj ms) : v = u ↔ w = u := by
  cases h with
  | refl => rfl
  | arr => exact ⟨fun h => absurd h.symm (harr _), fun h => absurd h.symm (harr _)⟩
  | obj => exact ⟨fun h => absurd h.symm (hobj _), fun h => absurd h.symm (hobj _)⟩

/-! ## What a check gives -/

namespace Checked

@[simp] theorem toOption_good (a : α) : (good a).toOption = some a := rfl

@[simp] theorem toOption_bad (issues : List Issue) : (bad issues : Checked α).toOption = none := rfl

@[simp] theorem toOption_fail (kind : Kind) (v : Json) :
    (fail kind v : Checked α).toOption = none := rfl

@[simp] theorem toOption_map (f : α → β) (x : Checked α) :
    (x.map f).toOption = x.toOption.map f := by
  cases x <;> rfl

@[simp] theorem toOption_fmap (f : α → β) (x : Checked α) :
    (f <$> x).toOption = x.toOption.map f :=
  toOption_map f x

@[simp] theorem toOption_seq (f : Checked (α → β)) (x : Checked α) :
    (f <*> x).toOption = f.toOption.bind fun g => x.toOption.map g := by
  cases f <;> cases x <;> rfl

@[simp] theorem toOption_andThen (x : Checked α) (f : α → Checked β) :
    (x.andThen f).toOption = x.toOption.bind fun a => (f a).toOption := by
  cases x <;> rfl

@[simp] theorem toOption_under (step : Step) (x : Checked α) :
    (x.under step).toOption = x.toOption := by
  cases x <;> rfl

theorem fmap_congr {x y : Checked α} (h : x.toOption = y.toOption) (f : α → β) :
    (f <$> x).toOption = (f <$> y).toOption := by
  rw [toOption_fmap, toOption_fmap, h]

theorem seq_congr {f g : Checked (α → β)} {x y : Checked α} (hf : f.toOption = g.toOption)
    (hx : x.toOption = y.toOption) : (f <*> x).toOption = (g <*> y).toOption := by
  rw [toOption_seq, toOption_seq, hf, hx]

end Checked

/-- A check gives the same for alike values. -/
def Lenient (check : Json → Checked α) : Prop :=
  ∀ ⦃v w : Json⦄, Alike v w → (check v).toOption = (check w).toOption

/-- A check of the members of an object gives the same for objects with the same fields. -/
def LenientFields (check : Table Text Json → Checked α) : Prop :=
  ∀ ⦃ms ns : Table Text Json⦄, SameFields ms ns → (check ms).toOption = (check ns).toOption

/-! ## Fields -/

section Fields

variable {name : FieldName} {ms ns : Table Text Json} {check : Json → Checked α}

theorem toOption_required (name : FieldName) (ms : Table Text Json) (check : Json → Checked α) :
    (required name ms check).toOption
      = ((name.find? ms).map Prod.snd).bind fun v => (check v).toOption := by
  unfold required
  split
  · next hfind => rw [hfind, Checked.toOption_under]; rfl
  · next hfind => rw [hfind]; rfl

theorem toOption_optional (name : FieldName) (ms : Table Text Json) (check : Json → Checked α) :
    (optional name ms check).toOption = ((name.find? ms).map Prod.snd).elim (some none) fun v =>
      if v = .null then some none else (check v).toOption.map some := by
  unfold optional
  split
  · next hfind => rw [hfind]; rfl
  · next v hnull hfind =>
    rw [hfind, Checked.toOption_under, Checked.toOption_map]
    exact (if_neg hnull).symm
  · next hfind => rw [hfind]; rfl

theorem toOption_defaulted (name : FieldName) (ms : Table Text Json) (default : α)
    (check : Json → Checked α) :
    (defaulted name ms default check).toOption
      = ((name.find? ms).map Prod.snd).elim (some default) fun v => (check v).toOption := by
  unfold defaulted
  split
  · next hfind => rw [hfind, Checked.toOption_under]; rfl
  · next hfind => rw [hfind]; rfl

variable (hname : name ∈ wireFields) (h : SameFields ms ns)

include hname h

/-- A field is found under whichever spelling it has. -/
theorem required_congr (hcheck : Lenient check) :
    (required name ms check).toOption = (required name ns check).toOption := by
  rw [toOption_required, toOption_required, name.find?_eq_valueOf? hname h.left,
    name.find?_eq_valueOf? hname h.right]
  rcases h.value_cases name.first with ⟨hms, hns⟩ | ⟨v, w, hms, hns, halike⟩
  · rw [hms, hns]
  · rw [hms, hns]
    exact hcheck halike

theorem optional_congr (hcheck : Lenient check) :
    (optional name ms check).toOption = (optional name ns check).toOption := by
  rw [toOption_optional, toOption_optional, name.find?_eq_valueOf? hname h.left,
    name.find?_eq_valueOf? hname h.right]
  rcases h.value_cases name.first with ⟨hms, hns⟩ | ⟨v, w, hms, hns, halike⟩
  · rw [hms, hns]
  · have hnull : v = .null ↔ w = .null := halike.eq_iff nofun nofun
    simp only [hms, hns, Option.elim_some, hnull, hcheck halike]

/-- A value that is not looked into has to be the same. -/
theorem optional_congr_of_eq (heq : valueOf? name.first ms = valueOf? name.first ns) :
    (optional name ms check).toOption = (optional name ns check).toOption := by
  rw [toOption_optional, toOption_optional, name.find?_eq_valueOf? hname h.left,
    name.find?_eq_valueOf? hname h.right, heq]

theorem defaulted_congr (hcheck : Lenient check) {default : α} :
    (defaulted name ms default check).toOption = (defaulted name ns default check).toOption := by
  rw [toOption_defaulted, toOption_defaulted, name.find?_eq_valueOf? hname h.left,
    name.find?_eq_valueOf? hname h.right]
  rcases h.value_cases name.first with ⟨hms, hns⟩ | ⟨v, w, hms, hns, halike⟩
  · rw [hms, hns]
  · rw [hms, hns]
    exact hcheck halike

end Fields

/-! ## Single values and lists -/

section Checks

variable {check : Json → Checked α} {v w : Json}

/-- A check that refuses whatever has parts. -/
theorem Lenient.of_simple (harr : ∀ vs, (check (.arr vs)).toOption = none)
    (hobj : ∀ ms, (check (.obj ms)).toOption = none) : Lenient check := by
  intro v w h
  cases h with
  | refl => rfl
  | arr => rw [harr, harr]
  | obj => rw [hobj, hobj]

theorem lenient_int : Lenient Check.int := .of_simple (fun _ => rfl) fun _ => rfl

theorem lenient_nat : Lenient Check.nat := .of_simple (fun _ => rfl) fun _ => rfl

theorem lenient_range (low : Int) (n : Nat) : Lenient (Check.range low n) :=
  .of_simple (fun _ => rfl) fun _ => rfl

theorem lenient_upTo (n : Nat) : Lenient (Check.upTo n) := lenient_range 0 n

theorem lenient_bool : Lenient Check.bool := .of_simple (fun _ => rfl) fun _ => rfl

theorem lenient_string : Lenient Check.string := .of_simple (fun _ => rfl) fun _ => rfl

theorem lenient_word (kind : List Text → Kind) (words : List (Text × α)) :
    Lenient (Check.word kind words) :=
  .of_simple (fun _ => rfl) fun _ => rfl

theorem Lenient.map (hcheck : Lenient check) (f : α → β) : Lenient fun v => (check v).map f := by
  intro v w h
  simp only [Checked.toOption_map, hcheck h]

/-- Items are checked one after another; where they stand shows in issues only. -/
theorem Lenient.items (hcheck : Lenient check) {vs ws : List Json}
    (h : List.Forall₂ Alike vs ws) (i j : Nat) :
    (Check.items check i vs).toOption = (Check.items check j ws).toOption := by
  induction h generalizing i j with
  | nil => rfl
  | cons hhead _ ih =>
    refine Checked.seq_congr (Checked.fmap_congr ?_ _) (ih (i + 1) (j + 1))
    rw [Checked.toOption_under, Checked.toOption_under, hcheck hhead]

theorem Lenient.list (hcheck : Lenient check) : Lenient (Check.list check) := by
  intro v w h
  cases h with
  | refl => rfl
  | arr hitems => exact hcheck.items hitems 0 0
  | obj => rfl

theorem Lenient.listOf (hcheck : Lenient check) (n : Nat) : Lenient (Check.listOf n check) := by
  intro v w h
  cases h with
  | refl => rfl
  | @arr vs ws hitems =>
    rw [Check.listOf, Check.listOf, hitems.length_eq]
    by_cases hmore : n < ws.length
    · rw [if_pos hmore, if_pos hmore, Checked.toOption_fail, Checked.toOption_fail]
    · rw [if_neg hmore, if_neg hmore, Checked.toOption_andThen, Checked.toOption_andThen,
        hcheck.items hitems 0 0]
      congr 1
      funext xs
      split <;> rfl
  | obj => rfl

/-- The first check that succeeds is the same for both. -/
theorem Lenient.firstOf {checks : List (Text × (Json → Checked α))}
    (hchecks : ∀ entry ∈ checks, Lenient entry.2) : Lenient (Check.firstOf checks) := by
  have hgives (checks : List (Text × (Json → Checked α))) (v : Json) :
      (Check.firstOf checks v).toOption = checks.findSome? fun entry => (entry.2 v).toOption := by
    induction checks with
    | nil => rfl
    | cons entry rest ih =>
      obtain ⟨name, check⟩ := entry
      rw [Check.firstOf, List.findSome?_cons]
      cases hcheck : check v with
      | good a => simp only [hcheck, Checked.toOption_good]
      | bad issues =>
        simp only [hcheck, Checked.toOption_bad, ← ih]
        cases Check.firstOf rest v <;> rfl
  intro v w h
  rw [hgives, hgives]
  clear hgives
  induction checks with
  | nil => rfl
  | cons entry rest ih =>
    rw [List.findSome?_cons, List.findSome?_cons, hchecks entry List.mem_cons_self h,
      ih fun other hother => hchecks other (List.mem_cons_of_mem _ hother)]

/-! ## Objects -/

theorem Lenient.model {check : Table Text Json → Checked α} (hcheck : LenientFields check)
    (name : String) : Lenient fun v => (Check.model name v).andThen check := by
  intro v w h
  cases h with
  | refl => rfl
  | arr => rfl
  | obj hms hns hvalues => exact hcheck ⟨hms, hns, hvalues⟩

/-- A key that is the only one of its field has alike values, if any. -/
theorem SameFields.get?_cases {ms ns : Table Text Json} (h : SameFields ms ns) {key : Text}
    (hkey : (FieldName.mk key none).isKnown = true) :
    (Table.get? key ms = none ∧ Table.get? key ns = none)
      ∨ ∃ v w, Table.get? key ms = some v ∧ Table.get? key ns = some w ∧ Alike v w := by
  rw [get?_eq_valueOf? hkey, get?_eq_valueOf? hkey]
  exact h.value_cases key

theorem SameFields.has {ms ns : Table Text Json} (h : SameFields ms ns) {key : Text}
    (hkey : (FieldName.mk key none).isKnown = true) : Table.has key ms = Table.has key ns := by
  rw [Table.has, Table.has]
  rcases h.get?_cases hkey with ⟨hms, hns⟩ | ⟨v, w, hms, hns, -⟩
  · rw [hms, hns]
  · rw [hms, hns, Option.isSome_some, Option.isSome_some]

/-- A key has a text in both objects or in neither. -/
theorem SameFields.get?_str {ms ns : Table Text Json} (h : SameFields ms ns) {key : Text}
    (hkey : (FieldName.mk key none).isKnown = true) (t : Text) :
    Table.get? key ms = some (.str t) ↔ Table.get? key ns = some (.str t) := by
  rcases h.get?_cases hkey with ⟨hms, hns⟩ | ⟨v, w, hms, hns, halike⟩
  · rw [hms, hns]
  · rw [hms, hns, Option.some.injEq, Option.some.injEq]
    exact halike.eq_iff nofun nofun

/-- The tag is the same for both, so that the same branch is taken. -/
theorem tagged_congr {tag : String} {branches : List (Text × (Table Text Json → Checked α))}
    {ms ns : Table Text Json} (htag : (FieldName.mk (text tag) none).isKnown = true)
    (h : SameFields ms ns)
    (hbranch : ∀ name check, Table.get? (text tag) ms = some (.str name) →
      Table.get? name branches = some check → (check ms).toOption = (check ns).toOption) :
    (Check.tagged tag branches (.obj ms)).toOption
      = (Check.tagged tag branches (.obj ns)).toOption := by
  unfold Check.tagged
  dsimp only
  rcases h.get?_cases htag with ⟨hms, hns⟩ | ⟨v, w, hms, hns, halike⟩
  · rw [hms, hns]
    rfl
  · rw [hms, hns]
    cases halike with
    | refl =>
      cases v with
      | str name =>
        dsimp only
        cases hcheck : Table.get? name branches with
        | none => rfl
        | some check =>
          simp only [Checked.toOption_under]
          exact hbranch name check hms hcheck
      | _ => rfl
    | arr => rfl
    | obj => rfl

theorem Lenient.tagged {tag : String} {branches : List (Text × (Table Text Json → Checked α))}
    (htag : (FieldName.mk (text tag) none).isKnown = true)
    (hbranches : ∀ entry ∈ branches, LenientFields entry.2) :
    Lenient (Check.tagged tag branches) := by
  intro v w h
  cases h with
  | refl => rfl
  | arr => rfl
  | obj hms hns hvalues =>
    exact tagged_congr htag ⟨hms, hns, hvalues⟩ fun name check _ hcheck =>
      hbranches (name, check) (Table.mem_of_get?_eq_some hcheck) ⟨hms, hns, hvalues⟩

/-- An improper key names itself, and so stands in both objects or in neither. -/
theorem SameFields.improperKey? {ms ns : Table Text Json} (h : SameFields ms ns) :
    (Check.improperKey? ms).isSome = (Check.improperKey? ns).isSome := by
  have hsome (members : Table Text Json) : (Check.improperKey? members).isSome = true
      ↔ ∃ field, Text.isUnicode field = false ∧ valueOf? field members ≠ none := by
    simp only [Check.improperKey?, List.find?_isSome, List.mem_map, ne_eq, valueOf?_eq_none_iff]
    constructor
    · rintro ⟨-, ⟨entry, hentry, rfl⟩, himproper⟩
      exact ⟨fieldOf entry.1, by simpa [isUnicode_fieldOf] using himproper,
        fun hnone => hnone entry hentry rfl⟩
    · rintro ⟨field, himproper, hvalue⟩
      push Not at hvalue
      obtain ⟨entry, hentry, rfl⟩ := hvalue
      exact ⟨entry.1, ⟨entry, hentry, rfl⟩, by simpa [isUnicode_fieldOf] using himproper⟩
  rw [Bool.eq_iff_iff, hsome, hsome]
  refine exists_congr fun field => and_congr_right fun _ => ?_
  rcases h.value_cases field with ⟨hms, hns⟩ | ⟨v, w, hms, hns, -⟩ <;> simp [hms, hns]

theorem toOption_noOthers (used : Option Text) (ms : Table Text Json) :
    (Check.noOthers used ms).toOption = some () ↔ ∀ entry ∈ ms, used = some entry.1 := by
  have hempty : (Check.noOthers used ms).toOption = some ()
      ↔ (ms.filter fun entry => used ≠ some entry.1) = [] := by
    unfold Check.noOthers
    split
    · next hnone => exact iff_of_true rfl hnone
    · next hsome => exact iff_of_false nofun hsome
  rw [hempty, List.filter_eq_nil_iff]
  simp

/-- Nothing stands in an object besides a field if no other field has a value. -/
theorem noOthers_iff {ms : Table Text Json} (h : EachOnce ms) {key : Text} {v : Json}
    (hmem : (key, v) ∈ ms) : (Check.noOthers (some key) ms).toOption = some ()
      ↔ ∀ field ≠ fieldOf key, valueOf? field ms = none := by
  rw [toOption_noOthers]
  constructor
  · intro hkeys field hfield
    refine valueOf?_eq_none_iff.mpr fun entry hentry hsame => hfield ?_
    rw [← hsame, ← Option.some.inj (hkeys entry hentry)]
  · intro hnone entry hentry
    have hfield : fieldOf entry.1 = fieldOf key := by
      by_contra hne
      exact valueOf?_eq_none_iff.mp (hnone _ hne) entry hentry rfl
    rw [h.eq_of_field hentry hmem hfield]

theorem mem_of_find? {name : FieldName} {ms : Table Text Json} {key : Text} {v : Json}
    (h : name.find? ms = some (key, v)) :
    (key, v) ∈ ms ∧ (key = name.first ∨ name.second = some key) := by
  unfold FieldName.find? at h
  split at h
  · next hget =>
    cases h
    exact ⟨Table.mem_of_get?_eq_some hget, .inl rfl⟩
  · obtain ⟨other, hother, hget⟩ := Option.bind_eq_some_iff.mp h
    obtain ⟨w, hget, hentry⟩ := Option.map_eq_some_iff.mp hget
    cases hentry
    exact ⟨Table.mem_of_get?_eq_some hget, .inr hother⟩

/-- Either object has something besides a field that is there, or neither has. -/
theorem SameFields.noOthers_congr {name : FieldName} (hname : name ∈ wireFields)
    {ms ns : Table Text Json} (h : SameFields ms ns) {entry other : Text × Json}
    (hms : name.find? ms = some entry) (hns : name.find? ns = some other) :
    (Check.noOthers ((name.find? ms).map Prod.fst) ms).toOption
      = (Check.noOthers ((name.find? ns).map Prod.fst) ns).toOption := by
  obtain ⟨hentry, hspelling⟩ := mem_of_find? hms
  obtain ⟨hother, hspelling'⟩ := mem_of_find? hns
  have hleft := noOthers_iff h.left hentry
  have hright := noOthers_iff h.right hother
  rw [(name.fieldOf_iff (isKnown_of_mem _ hname) _).mpr hspelling] at hleft
  rw [(name.fieldOf_iff (isKnown_of_mem _ hname) _).mpr hspelling'] at hright
  have hsame : (∀ field ≠ name.first, valueOf? field ms = none)
      ↔ ∀ field ≠ name.first, valueOf? field ns = none := by
    refine forall_congr' fun field => imp_congr_right fun _ => ?_
    rcases h.value_cases field with ⟨hms, hns⟩ | ⟨v, w, hms, hns, -⟩ <;> simp [hms, hns]
  rw [hms, hns]
  apply Option.ext
  intro u
  exact (hleft.trans hsame).trans hright.symm

/-- An object with a single field, under either of its spellings. -/
theorem Lenient.only {name : FieldName} (hname : name ∈ wireFields) (hcheck : Lenient check)
    (model : String) : Lenient (Check.only model name check) := by
  refine Lenient.model (fun ms ns h => ?_) model
  have himproper := h.improperKey?
  cases hms : Check.improperKey? ms with
  | some key =>
    cases hns : Check.improperKey? ns with
    | some other => rfl
    | none => rw [hms, hns] at himproper; cases himproper
  | none =>
    cases hns : Check.improperKey? ns with
    | some other => rw [hms, hns] at himproper; cases himproper
    | none =>
      have hrequired := required_congr hname h hcheck
      have hvalues := h.value_cases name.first
      rw [← name.find?_eq_valueOf? hname h.left, ← name.find?_eq_valueOf? hname h.right] at hvalues
      rcases hvalues with ⟨hleft, hright⟩ | ⟨v, w, hleft, hright, -⟩
      · -- without the field nothing else is looked at
        rw [Option.map_eq_none_iff] at hleft hright
        simp only [required, hleft, hright, Checked.toOption_seq, Checked.toOption_fmap,
          Checked.toOption_bad, Option.map_none, Option.bind_none]
      · obtain ⟨entry, hentry, -⟩ := Option.map_eq_some_iff.mp hleft
        obtain ⟨other, hother, -⟩ := Option.map_eq_some_iff.mp hright
        exact Checked.seq_congr (Checked.fmap_congr hrequired _)
          (h.noOthers_congr hname hentry hother)

end Checks

/-! ## Objects that stay alike -/

section Objects

variable {ms ns : Table Text Json} {key : Text} {v w : Json}

theorem SameFields.insert (h : SameFields ms ns)
    (hms : ∀ entry ∈ ms, fieldOf entry.1 = fieldOf key → entry.1 = key)
    (hns : ∀ entry ∈ ns, fieldOf entry.1 = fieldOf key → entry.1 = key) (halike : Alike v w) :
    SameFields (Table.insert key v ms) (Table.insert key w ns) where
  left := h.left.insert hms v
  right := h.right.insert hns w
  values field := by
    rw [valueOf?_insert hms, valueOf?_insert hns]
    split
    · exact .some halike
    · exact h.values field

theorem SameFields.select (h : SameFields ms ns) (p : Text → Bool) :
    SameFields (Schema.select p ms) (Schema.select p ns) where
  left := h.left.filter _
  right := h.right.filter _
  values field := by
    rw [valueOf?_select, valueOf?_select]
    split
    · exact h.values field
    · exact .none

theorem SameFields.erase (h : SameFields ms ns)
    (hkey : (FieldName.mk key none).isKnown = true) :
    SameFields (Table.erase key ms) (Table.erase key ns) := by
  rw [erase_eq_select hkey, erase_eq_select hkey]
  exact h.select _

/-- The order of the members does not matter. -/
theorem SameFields.perm {ms ns ms' ns' : Table Text Json} (h : SameFields ms ns)
    (hms : ms.Perm ms') (hns : ns.Perm ns') : SameFields ms' ns' where
  left := h.left.perm hms
  right := h.right.perm hns
  values field := by
    rw [valueOf?_perm h.left hms, valueOf?_perm h.right hns]
    exact h.values field

/-- What stands at a key, or null. -/
theorem SameFields.member {name : String} (h : SameFields ms ns)
    (hkey : (FieldName.mk (text name) none).isKnown = true) :
    Alike (Json.member name (.obj ms)) (Json.member name (.obj ns)) := by
  rcases h.get?_cases hkey with ⟨hms, hns⟩ | ⟨v, w, hms, hns, halike⟩
  · rw [Json.member, Json.member, hms, hns]
    exact .refl _
  · rw [Json.member, Json.member, hms, hns]
    exact halike

theorem eachOnce_iff_nodup : EachOnce ms ↔ (ms.map fun entry => fieldOf entry.1).Nodup :=
  List.pairwise_map.symm

/-- Members that follow one another as before, under the same or other spellings. -/
theorem SameFields.of_forall₂ (h : EachOnce ms)
    (hfields : ms.map (fun entry => fieldOf entry.1) = ns.map fun entry => fieldOf entry.1)
    (hvalues : List.Forall₂ Alike (ms.map Prod.snd) (ns.map Prod.snd)) : SameFields ms ns where
  left := h
  right := by
    rw [eachOnce_iff_nodup] at h ⊢
    rwa [← hfields]
  values field := by
    clear h
    induction ms generalizing ns with
    | nil =>
      cases ns with
      | nil => exact .none
      | cons => cases hfields
    | cons entry rest ih =>
      cases ns with
      | nil => cases hfields
      | cons other others =>
        have hfield : fieldOf entry.1 = fieldOf other.1 := (List.cons.inj hfields).1
        have hrest := (List.cons.inj hfields).2
        obtain ⟨halike, htail⟩ := List.forall₂_cons.mp hvalues
        rw [valueOf?_cons, valueOf?_cons, ← hfield]
        split
        · exact .some halike
        · exact ih hrest htail

end Objects

/-! ## Values that were respelled -/

/-- The keys are the same, or the two spellings of one field. -/
def Synonymous (key other : Text) : Prop :=
  key = other ∨ ∃ name ∈ bilingual, (name.first = key ∧ name.second = some other)
    ∨ (name.second = some key ∧ name.first = other)

instance (key other : Text) : Decidable (Synonymous key other) :=
  inferInstanceAs (Decidable (key = other ∨ ∃ name ∈ bilingual, _))

/-- The second value is the first with some fields, at any depth, under their other spellings. An
object in which anything changes has each field under one spelling. -/
inductive Respelled : Json → Json → Prop
  | same (v : Json) : Respelled v v
  | items {vs ws : List Json} : List.Forall₂ Respelled vs ws → Respelled (.arr vs) (.arr ws)
  | members {ms ns : Table Text Json} : EachOnce ms → List.Forall₂ Synonymous ms.keys ns.keys →
      List.Forall₂ Respelled ms.values ns.values → Respelled (.obj ms) (.obj ns)

theorem Synonymous.fieldOf_eq {key other : Text} (h : Synonymous key other) :
    fieldOf key = fieldOf other := by
  obtain rfl | ⟨name, hname, ⟨hkey, hother⟩ | ⟨hkey, hother⟩⟩ := h
  · rfl
  · exact ((name.fieldOf_iff_of_mem hname key).mpr (.inl hkey.symm)).trans
      ((name.fieldOf_iff_of_mem hname other).mpr (.inr hother)).symm
  · exact ((name.fieldOf_iff_of_mem hname key).mpr (.inr hkey)).trans
      ((name.fieldOf_iff_of_mem hname other).mpr (.inl hother.symm)).symm

theorem map_fieldOf_eq {keys others : List Text} (h : List.Forall₂ Synonymous keys others) :
    keys.map fieldOf = others.map fieldOf := by
  induction h with
  | nil => rfl
  | cons hkey _ ih => rw [List.map_cons, List.map_cons, hkey.fieldOf_eq, ih]

theorem Respelled.alike {v w : Json} (h : Respelled v w) : Alike v w := by
  -- on values and lists of values at once
  refine @Respelled.rec (fun v w _ => Alike v w) (fun vs ws _ => List.Forall₂ Alike vs ws)
    ?_ ?_ ?_ ?_ ?_ v w h
  · exact .refl
  · exact fun _ hitems => .arr hitems
  · intro ms ns honce hkeys _ hvalues
    have hfields := map_fieldOf_eq hkeys
    rw [Table.keys, Table.keys, List.map_map, List.map_map] at hfields
    exact (SameFields.of_forall₂ honce hfields hvalues).alike
  · exact .nil
  · exact fun _ _ hhead htail => .cons hhead htail

end MentalPoker.Schema
