import Mathlib.Computability.RegularExpressions
import MentalPoker.Proofs.Envelope.ReadBack

/-!
# The pattern of hexadecimal texts

Keys and signatures come with a `0x`, with a `\x` or without a mark, and are brought to the form
with `0x` before they are checked against the pattern of such texts. A text that is rewritten before
it is checked could become valid on the way, or equal to another one. Here the pattern is read as a
regular expression, apart from the functions that rewrite and check, and neither of the two happens.

## The crux

A text of the pattern is a mark and digits, in one way only: no digit is an `x`, so the digits are
what `Hex.body` leaves (`body_of_spells`). Bringing any text to the form with `0x` keeps what
`Hex.body` leaves of it (`normalize_eq`), and that decides whether a text is of the pattern
(`mem_expression_iff`).
-/

namespace MentalPoker.HexPattern

open Schema

variable {t u d e : Text}

/-! ## The pattern as a regular expression -/

/-- Any one of some code points. -/
def oneOf (points : Text) : RegularExpression Nat := (points.map .char).sum

/-- Some code points one after another. -/
def word (points : Text) : RegularExpression Nat := (points.map .char).prod

/-- A digit of either case, `[0-9a-fA-F]`. -/
def digit : RegularExpression Nat := oneOf (text "0123456789abcdefABCDEF")

/-- One digit or more, `[0-9a-fA-F]+`. -/
def number : RegularExpression Nat := digit * digit.star

/-- A mark, or none: `(?:0x|\\x)?`. -/
def mark : RegularExpression Nat := 1 + (word (text "0x") + word (text "\\x"))

/-- The pattern of hexadecimal texts. -/
def expression : RegularExpression Nat := mark * number

/-- The text is of the pattern, and these are its digits. -/
def Spells (t d : Text) : Prop := ∃ m ∈ mark.matches', d ∈ number.matches' ∧ m ++ d = t

theorem mem_oneOf_iff (points : Text) : t ∈ (oneOf points).matches' ↔ ∃ c ∈ points, t = [c] := by
  induction points with
  | nil => exact iff_of_false (Language.notMem_zero t) (by simp)
  | cons c rest ih =>
    show t ∈ ({[c]} : Language Nat) + (oneOf rest).matches' ↔ _
    rw [Language.mem_add, ih]
    simp only [List.mem_cons, exists_eq_or_imp]
    rfl

theorem mem_word_iff (points : Text) : t ∈ (word points).matches' ↔ t = points := by
  induction points generalizing t with
  | nil => exact Language.mem_one t
  | cons c rest ih =>
    show t ∈ ({[c]} : Language Nat) * (word rest).matches' ↔ _
    rw [Language.mem_mul]
    constructor
    · rintro ⟨_, rfl, later, hlater, rfl⟩
      rw [ih.mp hlater]
      rfl
    · rintro rfl
      exact ⟨[c], rfl, rest, ih.mpr rfl, rfl⟩

theorem mem_mark_iff : t ∈ mark.matches' ↔ t = [] ∨ t = text "0x" ∨ t = text "\\x" := by
  show t ∈ (1 : Language Nat) + ((word (text "0x")).matches' + (word (text "\\x")).matches') ↔ _
  rw [Language.mem_add, Language.mem_add, Language.mem_one, mem_word_iff, mem_word_iff]

/-- The code points of digits. -/
theorem isHexDigit_iff (c : Nat) :
    Text.isHexDigit c = true ↔ c ∈ text "0123456789abcdefABCDEF" := by
  have hvalue : Text.isHexDigit c = true ↔ (0x30 ≤ c ∧ c ≤ 0x39) ∨ (0x41 ≤ c ∧ c ≤ 0x46)
      ∨ (0x61 ≤ c ∧ c ≤ 0x66) := by
    unfold Text.isHexDigit Text.hexValue?
    split
    · simp [*]
    · split
      · simp [*]
      · split <;> simp [*]
  have hpoints : text "0123456789abcdefABCDEF"
      = [0x30, 0x31, 0x32, 0x33, 0x34, 0x35, 0x36, 0x37, 0x38, 0x39, 0x61, 0x62, 0x63, 0x64, 0x65,
        0x66, 0x41, 0x42, 0x43, 0x44, 0x45, 0x46] := by decide +kernel
  rw [hvalue, hpoints]
  simp only [List.mem_cons, List.not_mem_nil, or_false]
  omega

theorem mem_digit_iff : t ∈ digit.matches' ↔ ∃ c, Text.isHexDigit c = true ∧ t = [c] := by
  simp only [digit, mem_oneOf_iff, isHexDigit_iff]

theorem mem_number_iff :
    t ∈ number.matches' ↔ t ≠ [] ∧ ∀ c ∈ t, Text.isHexDigit c = true := by
  show t ∈ digit.matches' * KStar.kstar digit.matches' ↔ _
  rw [Language.mem_mul]
  constructor
  · rintro ⟨first, hfirst, later, hlater, rfl⟩
    obtain ⟨c, hc, rfl⟩ := mem_digit_iff.mp hfirst
    obtain ⟨parts, rfl, hparts⟩ := Language.mem_kstar.mp hlater
    refine ⟨by simp, fun other hother => ?_⟩
    rcases List.mem_append.mp hother with hother | hother
    · rwa [List.mem_singleton.mp hother]
    · obtain ⟨part, hpart, hother⟩ := List.mem_flatten.mp hother
      obtain ⟨x, hx, rfl⟩ := mem_digit_iff.mp (hparts part hpart)
      rwa [List.mem_singleton.mp hother]
  · rintro ⟨hsome, hdigits⟩
    obtain ⟨c, rest, rfl⟩ := List.exists_cons_of_ne_nil hsome
    refine ⟨[c], mem_digit_iff.mpr ⟨c, hdigits c List.mem_cons_self, rfl⟩, rest,
      Language.mem_kstar.mpr ⟨rest.map fun x => [x], ?_, fun part hpart => ?_⟩, rfl⟩
    · rw [← List.flatMap_def, List.flatMap_singleton']
    · obtain ⟨x, hx, rfl⟩ := List.mem_map.mp hpart
      exact mem_digit_iff.mpr ⟨x, hdigits x (List.mem_cons_of_mem _ hx), rfl⟩

theorem mem_expression_iff_exists : t ∈ expression.matches' ↔ ∃ d, Spells t d := by
  show t ∈ mark.matches' * number.matches' ↔ _
  rw [Language.mem_mul]
  exact ⟨fun ⟨m, hm, d, hd, ht⟩ => ⟨d, m, hm, hd, ht⟩, fun ⟨d, m, hm, hd, ht⟩ => ⟨m, hm, d, hd, ht⟩⟩

/-! ## Marks and digits -/

/-- A text is what stands before its body, and its body. -/
theorem exists_mark (t : Text) : ∃ m ∈ mark.matches', m ++ Hex.body t = t := by
  unfold Hex.body
  split
  · exact ⟨text "0x", mem_mark_iff.mpr (.inr (.inl rfl)), rfl⟩
  · exact ⟨text "\\x", mem_mark_iff.mpr (.inr (.inr rfl)), rfl⟩
  · exact ⟨[], mem_mark_iff.mpr (.inl rfl), rfl⟩

theorem body_of_mem_number (h : d ∈ number.matches') : Hex.body d = d := by
  obtain ⟨-, hdigits⟩ := mem_number_iff.mp h
  have hx : Text.isHexDigit 0x78 = false := by decide
  unfold Hex.body
  split
  · next rest =>
    rw [hdigits 0x78 (by simp)] at hx
    cases hx
  · next rest =>
    rw [hdigits 0x78 (by simp)] at hx
    cases hx
  · rfl

/-- **The digits of a text** are what is left of it without its mark. -/
theorem body_of_spells (h : Spells t d) : Hex.body t = d := by
  obtain ⟨m, hm, hd, rfl⟩ := h
  rcases mem_mark_iff.mp hm with rfl | rfl | rfl
  · exact body_of_mem_number hd
  · rfl
  · rfl

theorem spells_body_iff : Spells t (Hex.body t) ↔ Hex.body t ∈ number.matches' := by
  obtain ⟨m, hm, ht⟩ := exists_mark t
  exact ⟨fun ⟨_, _, hd, _⟩ => hd, fun hd => ⟨m, hm, hd, ht⟩⟩

/-- A text is of the pattern when its body consists of digits. -/
theorem mem_expression_iff : t ∈ expression.matches' ↔ Hex.body t ∈ number.matches' := by
  rw [mem_expression_iff_exists, ← spells_body_iff]
  exact ⟨fun ⟨d, hd⟩ => (body_of_spells hd).symm ▸ hd, fun h => ⟨_, h⟩⟩

theorem isHex_iff : Hex.isHex t = true ↔ t ∈ expression.matches' := by
  rw [mem_expression_iff, mem_number_iff, Hex.isHex, Bool.and_eq_true, List.all_eq_true]
  simp

/-! ## The form with `0x` -/

theorem normalize_eq (t : Text) : Hex.normalize t = text "0x" ++ Hex.body t := by
  unfold Hex.normalize
  split
  · rfl
  · rfl
  · next hback hzero =>
    unfold Hex.body
    split
    · exact absurd rfl (hzero _)
    · exact absurd rfl (hback _)
    · rfl

theorem body_normalize (t : Text) : Hex.body (Hex.normalize t) = Hex.body t := by
  rw [normalize_eq]
  rfl

theorem normalize_inj : Hex.normalize t = Hex.normalize u ↔ Hex.body t = Hex.body u := by
  rw [normalize_eq, normalize_eq, List.append_cancel_left_eq]

/-! ## The check of a field -/

/-- Fields take the texts of the pattern, and take them as they are. -/
theorem check_str_iff {h : Hex} :
    Hex.check (.str t) = .good h ↔ t ∈ expression.matches' ∧ h.text = t := by
  constructor
  · intro hgood
    by_cases hunicode : Text.isUnicode t = true
    · rw [Hex.check, Check.unicodeString_str ⟨t, hunicode⟩, Checked.andThen] at hgood
      split at hgood
      · next hhex =>
        cases hgood
        exact ⟨isHex_iff.mp hhex, rfl⟩
      · cases hgood
    · have hrefused : Check.unicodeString (.str t) = .fail .stringUnicode (.str t) :=
        dif_neg hunicode
      rw [Hex.check, hrefused] at hgood
      cases hgood
  · rintro ⟨-, rfl⟩
    exact Hex.check_toJson h

/-- **Bringing a text to the form with `0x` changes nothing but the mark.** The form is of the
pattern just when the text is, and it is its own form. A text of the pattern has its digits in one
way only, and its form is `0x` with these digits; so two texts of the pattern have the same form
just when they have the same digits. Fields take the texts of the pattern, as they are. -/
theorem forms_are_faithful :
    (∀ t, Hex.normalize t ∈ expression.matches' ↔ t ∈ expression.matches')
      ∧ (∀ t, Hex.normalize (Hex.normalize t) = Hex.normalize t)
      ∧ (∀ t, t ∈ expression.matches' ↔ ∃! d, Spells t d)
      ∧ (∀ t d, Spells t d → Hex.normalize t = text "0x" ++ d)
      ∧ (∀ t u d e, Spells t d → Spells u e → (Hex.normalize t = Hex.normalize u ↔ d = e))
      ∧ ∀ t (h : Hex), Hex.check (.str t) = .good h ↔ t ∈ expression.matches' ∧ h.text = t := by
  refine ⟨fun t => ?_, fun t => ?_, fun t => ?_, fun t d hd => ?_, fun t u d e hd he => ?_,
    fun t h => check_str_iff⟩
  · rw [mem_expression_iff, mem_expression_iff, body_normalize]
  · rw [normalize_inj, body_normalize]
  · rw [mem_expression_iff_exists]
    exact ⟨fun ⟨d, hd⟩ => ⟨d, hd, fun e he => (body_of_spells he).symm.trans (body_of_spells hd)⟩,
      fun ⟨d, hd, _⟩ => ⟨d, hd⟩⟩
  · rw [normalize_eq, body_of_spells hd]
  · rw [normalize_inj, body_of_spells hd, body_of_spells he]

/-- One key in the form of the database, bare, and with its digits in the other case. -/
theorem forms_are_faithful_beef :
    Spells (text "\\xBEef") (text "BEef") ∧ Spells (text "BEef") (text "BEef")
      ∧ Spells (text "0xbeef") (text "beef")
      ∧ Hex.normalize (text "\\xBEef") = text "0xBEef"
      ∧ Hex.normalize (text "\\xBEef") = Hex.normalize (text "BEef")
      ∧ Hex.normalize (text "\\xBEef") ≠ Hex.normalize (text "0xbeef") := by
  have hmarked : Spells (text "\\xBEef") (text "BEef") :=
    ⟨text "\\x", mem_mark_iff.mpr (.inr (.inr rfl)), mem_number_iff.mpr (by decide +kernel), rfl⟩
  have hbare : Spells (text "BEef") (text "BEef") :=
    ⟨[], mem_mark_iff.mpr (.inl rfl), mem_number_iff.mpr (by decide +kernel), rfl⟩
  have hsmall : Spells (text "0xbeef") (text "beef") :=
    ⟨text "0x", mem_mark_iff.mpr (.inr (.inl rfl)), mem_number_iff.mpr (by decide +kernel), rfl⟩
  obtain ⟨-, -, -, hform, hsame, -⟩ := forms_are_faithful
  exact ⟨hmarked, hbare, hsmall, hform _ _ hmarked, (hsame _ _ _ _ hmarked hbare).mpr rfl,
    fun h => absurd ((hsame _ _ _ _ hmarked hsmall).mp h) (by decide +kernel)⟩

end MentalPoker.HexPattern
