import MentalPoker.Schema

/-!
# Checks read back what was written

A value is written as JSON by one function and checked by another. Here stand the parts from which
it follows that the check gives back the value: what single values, fields and tags come to when
that stands in them which is written for a value.

A field is found under one of its spellings; which one, and what stands there, is for the caller to
say (`FieldName.find?`), and for an object with literal keys it is a matter of computation.
-/

namespace MentalPoker

/-- The members of an object whose keys are literals. -/
def Json.table (members : List (String × Json)) : Table Text Json :=
  members.map fun (key, v) => (text key, v)

namespace Schema

variable {α β : Type}

/-! ## Results -/

namespace Checked

theorem map_eq_good {x : Checked α} {a : α} (h : x = .good a) (f : α → β) :
    f <$> x = .good (f a) := by
  rw [h]
  rfl

theorem seq_eq_good {f : Checked (α → β)} {g : α → β} {x : Checked α} {a : α}
    (hf : f = .good g) (hx : x = .good a) : f <*> x = .good (g a) := by
  rw [hf, hx]
  rfl

/-- Independent results are good together only when each of them is. -/
theorem good_of_seq {f : Checked (α → β)} {x : Checked α} {b : β} (h : f <*> x = .good b) :
    (∃ g, f = .good g) ∧ ∃ a, x = .good a := by
  cases f with
  | good g =>
    cases x with
    | good a => exact ⟨⟨g, rfl⟩, a, rfl⟩
    | bad issues => cases h
  | bad issues => cases x <;> cases h

theorem good_of_map {f : α → β} {x : Checked α} {b : β} (h : f <$> x = .good b) :
    ∃ a, x = .good a := by
  cases x with
  | good a => exact ⟨a, rfl⟩
  | bad issues => cases h

end Checked

/-! ## Fields -/

section Fields

variable {name : FieldName} {members : Table Text Json} {key : Text} {check : Json → Checked α}

theorem required_eq_good {v : Json} {a : α} (hfind : name.find? members = some (key, v))
    (hcheck : check v = .good a) : required name members check = .good a := by
  rw [required, hfind]
  dsimp only
  rw [hcheck]
  rfl

theorem good_of_required {v : Json} {a : α} (hfind : name.find? members = some (key, v))
    (h : required name members check = .good a) : check v = .good a := by
  rw [required, hfind] at h
  dsimp only at h
  cases hcheck : check v with
  | good a' =>
    rw [hcheck] at h
    exact h
  | bad issues =>
    rw [hcheck] at h
    cases h

/-- What is not there is written as null, or not at all. -/
theorem optional_eq_good {write : α → Json} {a : Option α}
    (hfind : name.find? members = some (key, Json.ofOption write a))
    (hcheck : ∀ b ∈ a, write b ≠ .null ∧ check (write b) = .good b) :
    optional name members check = .good a := by
  rw [optional, hfind]
  cases a with
  | none => rfl
  | some b =>
    obtain ⟨hnull, hgood⟩ := hcheck b rfl
    rw [Json.ofOption]
    split
    · next hwritten =>
      -- nothing else is written as null
      exact absurd (Prod.mk.inj (Option.some.inj hwritten)).2 hnull
    · next hwritten =>
      obtain ⟨-, rfl⟩ := Prod.mk.inj (Option.some.inj hwritten)
      rw [hgood]
      rfl
    · next hwritten => cases hwritten

theorem optional_eq_none (hfind : name.find? members = none) :
    optional name members check = .good none := by
  rw [optional, hfind]

theorem defaulted_eq_good {v : Json} {default a : α} (hfind : name.find? members = some (key, v))
    (hcheck : check v = .good a) : defaulted name members default check = .good a := by
  rw [defaulted, hfind]
  dsimp only
  rw [hcheck]
  rfl

end Fields

/-! ## Single values -/

namespace Check

@[simp] theorem int_int (n : Int) : int (.int n) = .good n := rfl

@[simp] theorem bool_bool (b : Bool) : bool (.bool b) = .good b := rfl

@[simp] theorem string_str (t : Text) : string (.str t) = .good t := rfl

@[simp] theorem dict_obj (members : Table Text Json) : dict (.obj members) = .good members := rfl

@[simp] theorem nat_nat (n : Nat) : nat (Json.nat n) = .good n := by
  have hfrom : intFrom 0 (Json.nat n) = .good (n : Int) := by
    show (if (0 : Int) ≤ n then Checked.good (n : Int) else .fail (.atLeast 0) (Json.nat n)) = _
    rw [if_pos (Int.natCast_nonneg n)]
  rw [nat, hfrom, Checked.map, Int.toNat_natCast]

/-- Only integers from zero on are natural numbers. -/
theorem nonneg_of_nat_int {n : Int} {k : Nat} (h : nat (.int n) = .good k) : 0 ≤ n := by
  refine Decidable.byContradiction fun hnegative => ?_
  have hfrom : intFrom 0 (.int n) = .fail (.atLeast 0) (.int n) := if_neg hnegative
  rw [nat, hfrom] at h
  cases h

/-- A number within bounds, given by its distance from the lower one. -/
theorem range_int (low : Int) {n : Nat} (i : Fin (n + 1)) :
    range low n (.int (low + i.val)) = .good i := by
  have hdistance : (low + (i.val : Int) - low).toNat = i.val := by omega
  have hlow : ¬ low + (i.val : Int) < low := by omega
  show (if low + (i.val : Int) < low then _ else _) = _
  rw [if_neg hlow, dif_pos (by rw [hdistance]; exact i.isLt)]
  simp only [hdistance, Fin.eta]

@[simp] theorem upTo_nat {n : Nat} (i : Fin (n + 1)) : upTo n (Json.nat i.val) = .good i := by
  have hrange := range_int 0 i
  rw [Int.zero_add] at hrange
  exact hrange

theorem unicode_of_isUnicode {v : Json} {t : Text} (ht : Text.isUnicode t = true)
    (check : Text.Unicode → Checked α) : unicode v t check = check ⟨t, ht⟩ :=
  dif_pos ht

@[simp] theorem unicodeString_str (t : Text.Unicode) : unicodeString (.str t.1) = .good t := by
  rw [unicodeString, string_str, Checked.andThen, unicode_of_isUnicode t.2]

theorem word_str {kind : List Text → Kind} {words : List (Text × α)} {t : Text} {a : α}
    (ht : Text.isUnicode t = true) (hget : Table.get? t words = some a) :
    word kind words (.str t) = .good a := by
  rw [word, unicode_of_isUnicode ht]
  dsimp only
  rw [hget]

/-! ## Alternatives -/

section FirstOf

variable {name : Text} {check : Json → Checked α} {rest : List (Text × (Json → Checked α))}
  {v : Json} {a : α}

theorem firstOf_head (h : check v = .good a) : firstOf ((name, check) :: rest) v = .good a := by
  rw [firstOf, h]

theorem firstOf_tail {issues : List Issue} (h : check v = .bad issues)
    (hrest : firstOf rest v = .good a) : firstOf ((name, check) :: rest) v = .good a := by
  rw [firstOf, h]
  dsimp only
  rw [hrest]

end FirstOf

/-! ## Lists -/

theorem items_map {check : Json → Checked α} {write : α → Json}
    (h : ∀ a, check (write a) = .good a) (i : Nat) (xs : List α) :
    items check i (xs.map write) = .good xs := by
  induction xs generalizing i with
  | nil => rfl
  | cons a xs ih =>
    rw [List.map_cons, items, h, ih]
    rfl

theorem list_map {check : Json → Checked α} {write : α → Json}
    (h : ∀ a, check (write a) = .good a) (xs : List α) :
    list check (.arr (xs.map write)) = .good xs :=
  items_map h 0 xs

theorem listOf_map {check : Json → Checked α} {write : α → Json}
    (h : ∀ a, check (write a) = .good a) {n : Nat} (xs : { xs : List α // xs.length = n }) :
    listOf n check (.arr (xs.1.map write)) = .good xs := by
  have hnotMore : ¬ n < (xs.1.map write).length := by
    rw [List.length_map, xs.2]
    exact Nat.lt_irrefl n
  rw [listOf, if_neg hnotMore, items_map h]
  exact dif_pos xs.2

/-! ## Objects -/

theorem tagged_obj {tag : String} {branches : List (Text × (Table Text Json → Checked α))}
    {members : Table Text Json} {name : Text} {check : Table Text Json → Checked α} {a : α}
    (htag : Table.get? (text tag) members = some (.str name))
    (hbranch : Table.get? name branches = some check) (hcheck : check members = .good a) :
    tagged tag branches (.obj members) = .good a := by
  simp only [tagged, htag, hbranch, hcheck, Checked.under_good]

/-- An object with one field, under either of its spellings. -/
theorem only_obj {model : String} {name : FieldName} {check : Json → Checked α} {key : Text}
    {v : Json} {a : α} (hkey : Text.isUnicode key = true)
    (hfind : name.find? [(key, v)] = some (key, v)) (hcheck : check v = .good a) :
    only model name check (.obj [(key, v)]) = .good a := by
  have hproper : improperKey? [(key, v)] = none := by
    simp only [improperKey?, List.map_cons, List.map_nil, List.find?_cons, hkey, Bool.not_true,
      List.find?_nil]
  have halone : noOthers ((name.find? [(key, v)]).map Prod.fst) [(key, v)] = .good () := by
    rw [hfind, Option.map_some, noOthers]
    simp
  simp only [only, Check.model, Checked.andThen, hproper, halone]
  exact Checked.seq_eq_good (Checked.map_eq_good (required_eq_good hfind hcheck) _) rfl

end Check

end Schema

end MentalPoker
