import MentalPoker.Json.Reader

/-!
# What the limits of the reader mean

A text is refused for a limit only when it goes beyond that limit itself: a long integer stands in
it, digit by digit, and where values are nested too deep there are as many opening brackets. What
is read inside a text is a part of it, so a limit that is found inside was exceeded by the whole.

## The architecture

* **`Exceeds`**: a text goes beyond a limit, with a depth that is left.
* **`Reads`**: a reader passes on a rest of its text, and stops at a limit only where the text goes
  beyond it; with a lemma for each way in which readers are joined.
* **`reads_value`**: the three readers that call each other. Induction on the fuel.
* **`exceeds_of_readDocument`**: a whole text.
-/

namespace MentalPoker.Json

/-- How many lists and objects are opened in a text, or seem to be. -/
def openings (t : Text) : Nat := t.countP fun c => c = 0x5B || c = 0x7B

/-- The text goes beyond a limit, when values in it may be nested to a depth. -/
def Exceeds (depth : Nat) (t : Text) : Limit → Prop
  | .longInteger n =>
    Numeral.maxDigits < n ∧ ∃ ds, ds <:+: t ∧ ds.length = n ∧ ∀ c ∈ ds, Text.isDigit c = true
  | .deepList | .deepObject => depth < openings t

/-- What goes beyond a limit behind some of the text does so in the text. -/
theorem Exceeds.of_suffix {depth : Nat} {t rest : Text} {l : Limit} (h : Exceeds depth rest l)
    (hrest : rest <:+ t) : Exceeds depth t l := by
  have hcount : openings rest ≤ openings t := hrest.sublist.countP_le
  cases l with
  | longInteger n =>
    obtain ⟨hn, ds, hds, hlength, hdigits⟩ := h
    exact ⟨hn, ds, hds.trans hrest.isInfix, hlength, hdigits⟩
  | deepList => exact Nat.lt_of_lt_of_le h hcount
  | deepObject => exact Nat.lt_of_lt_of_le h hcount

theorem openings_cons {c : Nat} (hc : c = 0x5B ∨ c = 0x7B) (rest : Text) :
    openings (c :: rest) = openings rest + 1 :=
  List.countP_cons_of_pos (by simpa using hc)

/-- Behind an opening bracket one level of depth is gone. -/
theorem Exceeds.opened {depth : Nat} {rest : Text} {l : Limit} (h : Exceeds depth rest l) {c : Nat}
    (hc : c = 0x5B ∨ c = 0x7B) : Exceeds (depth + 1) (c :: rest) l := by
  have hcount := openings_cons hc rest
  cases l with
  | longInteger n => exact Exceeds.of_suffix (l := .longInteger n) h (List.suffix_cons c rest)
  | deepList => rw [Exceeds, hcount]; exact Nat.succ_lt_succ h
  | deepObject => rw [Exceeds, hcount]; exact Nat.succ_lt_succ h

/-! ## Readers -/

/-- A reader of `t` passes on a rest of `t`, and stops at a limit only where `t` goes beyond it. -/
structure Reads {α : Type} (depth : Nat) (t : Text) (r : Except Stop (α × Text)) : Prop where
  rest : ∀ a rest, r = .ok (a, rest) → rest <:+ t
  limit : ∀ l, r = .error (.limit l) → Exceeds depth t l

namespace Reads

variable {α β : Type} {depth : Nat} {t : Text}

theorem ok {a : α} {rest : Text} (h : rest <:+ t) : Reads depth t (.ok (a, rest)) where
  rest _ _ heq := by cases heq; exact h
  limit _ heq := nomatch heq

theorem malformed {reason : Reason} {left : Nat} :
    Reads (α := α) depth t (.error (.malformed reason left)) where
  rest _ _ heq := nomatch heq
  limit _ heq := nomatch heq

theorem atLimit {l : Limit} (h : Exceeds depth t l) :
    Reads (α := α) depth t (.error (.limit l)) where
  rest _ _ heq := nomatch heq
  limit _ heq := by cases heq; exact h

/-- A reader of a rest of the text. -/
theorem of_suffix {inner : Text} {r : Except Stop (α × Text)} (h : Reads depth inner r)
    (hinner : inner <:+ t) : Reads depth t r where
  rest a rest heq := (h.rest a rest heq).trans hinner
  limit l heq := (h.limit l heq).of_suffix hinner

/-- A reader that goes on where another one stopped. -/
theorem bind {r : Except Stop (α × Text)} (h : Reads depth t r)
    {f : α × Text → Except Stop (β × Text)} (hf : ∀ a rest, rest <:+ t → Reads depth t (f (a, rest))) :
    Reads depth t (r >>= f) := by
  cases hr : r with
  | error stop =>
    refine ⟨fun _ _ heq => (nomatch heq), fun l heq => h.limit l ?_⟩
    rw [hr]
    cases heq
    rfl
  | ok found =>
    obtain ⟨a, rest⟩ := found
    exact hf a rest (h.rest a rest hr)

end Reads

/-! ## Tokens -/

theorem skipBlanks_suffix (t : Text) : skipBlanks t <:+ t := List.dropWhile_suffix _

/-- What follows the first code point that is not blank. -/
theorem suffix_of_skipBlanks {t after : Text} {c : Nat} (h : skipBlanks t = c :: after) :
    after <:+ t := by
  have hsuffix := skipBlanks_suffix t
  rw [h] at hsuffix
  exact (List.suffix_cons c after).trans hsuffix

theorem reads_hex (depth : Nat) (t : Text) : Reads depth t (readHex t) := by
  unfold readHex
  split
  · next a b c d e rest =>
    split
    · exact .ok ⟨[a, b, c, d], rfl⟩
    · exact .malformed
  · exact .malformed

theorem reads_escape (depth : Nat) (t : Text) : Reads depth t (readEscape t) := by
  unfold readEscape
  refine (reads_hex depth t).bind fun high rest hrest => ?_
  dsimp only
  split
  · next more =>
    have hmore : more <:+ t := (List.suffix_append [0x5C, 0x75] more).trans hrest
    split
    · refine ((reads_hex depth more).of_suffix hmore).bind fun low after hafter => ?_
      dsimp only
      split
      · exact .ok hafter
      · exact .ok hrest
    · exact .ok hrest
  · exact .ok hrest

theorem reads_string (depth opening fuel : Nat) (t : Text) :
    Reads depth t (readString opening fuel t) := by
  induction fuel generalizing t with
  | zero => exact .malformed
  | succ fuel ih =>
    -- a code point, or an escape, and then the rest of the string
    have htail {rest : Text} (hrest : rest <:+ t) (code : Nat) :
        Reads depth t (readString opening fuel rest >>= fun r => .ok (code :: r.1, r.2)) :=
      ((ih rest).of_suffix hrest).bind fun _ _ h => .ok h
    unfold readString
    split
    · exact .malformed
    · exact .ok (List.suffix_cons _ _)
    · exact .malformed
    · next rest =>
      have hrest : rest <:+ 0x5C :: 0x75 :: rest := List.suffix_append [0x5C, 0x75] rest
      refine ((reads_escape depth rest).of_suffix hrest).bind fun code after hafter => ?_
      exact htail hafter code
    · next c rest _ =>
      split
      · exact .malformed
      · exact htail (List.suffix_append [0x5C, c] rest) _
    · next c rest _ _ _ _ =>
      split
      · exact .malformed
      · exact htail (List.suffix_cons c rest) c

/-! ## Numbers and words -/

theorem digits_append (t : Text) : (digits t).1 ++ (digits t).2 = t :=
  List.takeWhile_append_dropWhile

theorem integerPart_append (t : Text) : (integerPart t).1 ++ (integerPart t).2 = t := by
  unfold integerPart
  split
  · rfl
  · exact digits_append t

theorem fractionPart_suffix (t : Text) : (fractionPart t).2 <:+ t := by
  unfold fractionPart
  split
  · next rest =>
    split
    · exact List.suffix_refl _
    · exact (List.dropWhile_suffix _).trans (List.suffix_cons _ rest)
  · exact List.suffix_refl t

theorem sign_suffix (t : Text) : (Numeral.sign t).2 <:+ t := by
  unfold Numeral.sign
  split
  all_goals first | exact List.suffix_cons _ _ | exact List.suffix_refl _

theorem exponentPart_suffix (t : Text) : (exponentPart t).2 <:+ t := by
  unfold exponentPart
  split
  · next c rest =>
    split
    · dsimp only
      split
      · exact List.suffix_refl _
      · exact ((List.dropWhile_suffix _).trans (sign_suffix rest)).trans (List.suffix_cons c rest)
    · exact List.suffix_refl _
  · exact List.suffix_refl _

theorem integerPart_long {body : Text} (h : 1 < (integerPart body).1.length) :
    ∀ c ∈ (integerPart body).1, Text.isDigit c = true := by
  unfold integerPart at h ⊢
  split
  · next rest => exact absurd h (Nat.lt_irrefl 1)
  · exact List.all_eq_true.mp List.all_takeWhile

theorem reads_number (depth : Nat) (t : Text) : Reads depth t (readNumber t) := by
  unfold readNumber
  split
  next negative body heq =>
  have hbody : body <:+ t := by
    split at heq
    · cases heq
      exact List.suffix_cons 0x2D _
    · cases heq
      exact List.suffix_refl t
  have hwhole : (integerPart body).1 <+: body := ⟨_, integerPart_append body⟩
  have hafter : (integerPart body).2 <:+ body := ⟨_, integerPart_append body⟩
  have hrest : (exponentPart (fractionPart (integerPart body).2).2).2 <:+ t :=
    ((exponentPart_suffix _).trans (fractionPart_suffix _)).trans (hafter.trans hbody)
  dsimp only
  split
  · exact .malformed
  · split
    · split
      · next hlong =>
        -- a single zero is not long, so the digits stand where the number does
        have hdigits := integerPart_long (Nat.lt_trans (by decide) hlong)
        exact .atLimit ⟨hlong, _, hwhole.isInfix.trans hbody.isInfix, rfl, hdigits⟩
      · exact .ok hrest
    · exact .ok hrest

theorem reads_word (depth : Nat) {t : Text} {v : Json} {rest : Text}
    (h : readWord? t = some (v, rest)) : Reads depth t (.ok (v, rest)) := by
  obtain ⟨⟨word, value⟩, _, hfound⟩ := List.exists_of_findSome?_eq_some h
  obtain ⟨after, hafter, heq⟩ := Option.map_eq_some_iff.mp hfound
  cases heq
  rw [Text.dropPrefix?_eq_some_iff.mp hafter]
  exact .ok (List.suffix_append word rest)

/-! ## Values -/

/-- What the readers of values read with some fuel. -/
structure ReadsValues (fuel : Nat) : Prop where
  value : ∀ depth t, Reads depth t (readValue fuel depth t)
  members : ∀ depth table t, Reads depth t (readMembers fuel depth table t)
  items : ∀ depth before t, Reads depth t (readItems fuel depth before t)

/-- What stands in brackets is read with one level of depth less. -/
theorem Reads.opened {α : Type} {depth c : Nat} {inside rest : Text}
    {r : Except Stop (α × Text)} (h : Reads depth inside r) (hinside : inside <:+ rest)
    (hc : c = 0x5B ∨ c = 0x7B) : Reads (depth + 1) (c :: rest) r where
  rest a after heq := ((h.rest a after heq).trans hinside).trans (List.suffix_cons c rest)
  limit l heq := ((h.limit l heq).of_suffix hinside).opened hc

theorem Reads.tooDeep {α : Type} {c : Nat} {rest : Text} (hc : c = 0x5B ∨ c = 0x7B) {l : Limit}
    (hl : l = .deepList ∨ l = .deepObject) :
    Reads (α := α) 0 (c :: rest) (.error (.limit l)) := by
  have hopen : 0 < openings (c :: rest) := by
    rw [openings_cons hc]
    exact Nat.succ_pos _
  rcases hl with rfl | rfl
  · exact .atLimit hopen
  · exact .atLimit hopen

section Values

variable {fuel : Nat} (ih : ReadsValues fuel)
include ih

theorem reads_value (depth : Nat) (t : Text) : Reads depth t (readValue (fuel + 1) depth t) := by
  unfold readValue
  split
  · next rest =>
    refine ((reads_string depth _ _ rest).of_suffix (List.suffix_cons _ rest)).bind ?_
    exact fun s after hafter => .ok hafter
  · next rest =>
    split
    · exact .tooDeep (.inr rfl) (.inr rfl)
    · next depth =>
      split
      · next after hblanks => exact .ok ((suffix_of_skipBlanks hblanks).trans (List.suffix_cons _ rest))
      · exact (ih.members depth [] _).opened (skipBlanks_suffix rest) (.inr rfl)
  · next rest =>
    split
    · exact .tooDeep (.inl rfl) (.inl rfl)
    · next depth =>
      split
      · next after hblanks => exact .ok ((suffix_of_skipBlanks hblanks).trans (List.suffix_cons _ rest))
      · exact (ih.items depth [] _).opened (skipBlanks_suffix rest) (.inl rfl)
  · split
    · next found hfound => exact reads_word depth hfound
    · exact reads_number depth t

theorem reads_members (depth : Nat) (table : Table Text Json) (t : Text) :
    Reads depth t (readMembers (fuel + 1) depth table t) := by
  unfold readMembers
  split
  · next rest =>
    refine ((reads_string depth _ _ rest).of_suffix (List.suffix_cons _ rest)).bind ?_
    intro key afterKey hkey
    dsimp only
    split
    · next afterColon hcolon =>
      have hvalue : skipBlanks afterColon <:+ 0x22 :: rest :=
        (skipBlanks_suffix _).trans ((suffix_of_skipBlanks hcolon).trans hkey)
      refine ((ih.value depth _).of_suffix hvalue).bind fun value afterValue hafter => ?_
      dsimp only
      split
      · next after hclose => exact .ok ((suffix_of_skipBlanks hclose).trans hafter)
      · next after hcomma =>
        have hnext := (skipBlanks_suffix _).trans ((suffix_of_skipBlanks hcomma).trans hafter)
        exact (ih.members depth _ _).of_suffix hnext
      · exact .malformed
    · exact .malformed
  · exact .malformed

theorem reads_items (depth : Nat) (before : List Json) (t : Text) :
    Reads depth t (readItems (fuel + 1) depth before t) := by
  unfold readItems
  refine (ih.value depth t).bind fun value afterValue hafter => ?_
  dsimp only
  split
  · next after hclose => exact .ok ((suffix_of_skipBlanks hclose).trans hafter)
  · next after hcomma =>
    have hnext := (skipBlanks_suffix _).trans ((suffix_of_skipBlanks hcomma).trans hafter)
    exact (ih.items depth _ _).of_suffix hnext
  · exact .malformed

end Values

/-- **The three readers of values**, which call each other. Induction on the fuel. -/
theorem readsValues (fuel : Nat) : ReadsValues fuel := by
  induction fuel with
  | zero =>
    refine ⟨fun depth t => ?_, fun depth table t => ?_, fun depth before t => ?_⟩
    · unfold readValue
      exact .malformed
    · unfold readMembers
      exact .malformed
    · unfold readItems
      exact .malformed
  | succ fuel ih => exact ⟨reads_value ih, reads_members ih, reads_items ih⟩

/-- **A whole text** that stops the reader goes beyond the limit at which it stops. -/
theorem exceeds_of_readDocument [Room] {t : Text} {l : Limit}
    (h : readDocument t = .error (.limit l)) : Exceeds Room.depth t l := by
  have hblanks := skipBlanks_suffix t
  have hreads := (readsValues (2 * t.length + 2)).value Room.depth (skipBlanks t)
  have hvalue := hreads.of_suffix hblanks
  unfold readDocument at h
  cases hread : readValue (2 * t.length + 2) Room.depth (skipBlanks t) with
  | error stop =>
    rw [hread] at h
    cases h
    exact hvalue.limit l hread
  | ok found =>
    obtain ⟨value, rest⟩ := found
    rw [hread] at h
    dsimp only [bind, Except.bind] at h
    -- what follows the value can only be extra data
    split at h
    · cases h
    · cases h

/-- Faults are located in the text, but limits stay as they are. -/
theorem limit_of_mapError {t : Text} {r : Except Stop Json} {l : Limit}
    (h : r.mapError (Stop.locate t) = .error (.limit l)) : r = .error (.limit l) := by
  cases r with
  | ok v => cases h
  | error stop =>
    cases stop with
    | malformed reason left => cases h
    | limit l' =>
      cases h
      rfl

theorem exceeds_of_ofText [Room] {t : Text} {l : Limit} (h : ofText t = .error (.limit l)) :
    Exceeds Room.depth t l := by
  unfold ofText at h
  split at h
  · cases h
  · exact exceeds_of_readDocument (limit_of_mapError h)

/-- The limits are those of the text, whatever its encoding. -/
theorem exceeds_of_ofBytes [Room] {bytes : Bytes} {l : Limit}
    (h : ofBytes bytes = .error (.limit l)) :
    ∃ t, (Encoding.detect bytes).decode bytes = .ok t ∧ Exceeds Room.depth t l := by
  unfold ofBytes at h
  split at h
  · cases h
  · next t hdecode => exact ⟨t, hdecode, exceeds_of_readDocument (limit_of_mapError h)⟩

end MentalPoker.Json
