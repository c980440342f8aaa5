import MentalPoker.Proofs.Hand.Layout

/-!
# Actions about one card

Four actions are about a single card: it is dealt, a share for it arrives, it can be read, its face
is revealed. Each of them leaves all other cards and the rest of the picture alone, but for the line
that says how the hand is getting on, and writes a part of its card that is its own. An action about
a card that does not lie on the table does nothing at all.

## The architecture

* **`Table.modify`**: one value of a table is worked on in its place. Work at two keys can be done
  in either order (`Table.modify_comm`).
* **`HandState.cards_step_of_target?`**: the cards after such an action, whether its card lies on the
  table or not. From this the order of two of them is seen not to matter.
* **`CardPart`**, **`CardProgress.SameBut`**: the parts of a card, and what stays when one is written.
-/

namespace MentalPoker

/-! ## One value of a table -/

namespace Table

variable {κ : Type u} {α : Type v} [DecidableEq κ]

/-- Works on the value at a key, if there is one. -/
def modify (k : κ) (f : α → α) : Table κ α → Table κ α
  | [] => []
  | (k', v) :: rest => if k = k' then (k', f v) :: rest else (k', v) :: modify k f rest

theorem modify_of_get?_eq_none {k : κ} {t : Table κ α} (h : get? k t = none) (f : α → α) :
    modify k f t = t := by
  induction t with
  | nil => rfl
  | cons entry rest ih =>
    obtain ⟨k', v⟩ := entry
    by_cases hk : k = k'
    · rw [get?, if_pos hk] at h
      cases h
    · rw [get?, if_neg hk] at h
      rw [modify, if_neg hk, ih h]

theorem insert_of_get?_eq_some {k : κ} {v : α} {t : Table κ α} (h : get? k t = some v)
    (f : α → α) : insert k (f v) t = modify k f t := by
  induction t with
  | nil => cases h
  | cons entry rest ih =>
    obtain ⟨k', v'⟩ := entry
    by_cases hk : k = k'
    · rw [get?, if_pos hk, Option.some.injEq] at h
      rw [insert, if_pos hk, modify, if_pos hk, h]
    · rw [get?, if_neg hk] at h
      rw [insert, if_neg hk, modify, if_neg hk, ih h]

/-- **Work at two keys** can be done in either order. -/
theorem modify_comm {k j : κ} (h : k ≠ j) (f g : α → α) (t : Table κ α) :
    modify k f (modify j g t) = modify j g (modify k f t) := by
  induction t with
  | nil => rfl
  | cons entry rest ih =>
    obtain ⟨k', v⟩ := entry
    by_cases hk : k = k'
    · -- the first value is that at `k`, so it is not that at `j`
      have hj : j ≠ k' := fun hj => h (hk.trans hj.symm)
      simp only [modify, if_neg hj, if_pos hk]
    · by_cases hj : j = k'
      · simp only [modify, if_pos hj, if_neg hk]
      · simp only [modify, if_neg hj, if_neg hk, ih]

end Table

/-! ## Parts of a card -/

/-- A part of what is known of a card: the shares of one kind, one flag, or what belongs to the
reveal of the face. -/
inductive CardPart where
  | dealt
  | shares (kind : ShareKind)
  | decryptable
  | reveal
  deriving DecidableEq

/-- The part that an action writes, if it is about one card. -/
def Action.part? : Action → Option CardPart
  | cardDealt _ => some .dealt
  | shareReceived kind _ => some (.shares kind)
  | cardDecryptable _ => some .decryptable
  | cardRevealed .. => some .reveal
  | _ => none

/-- All parts but one are the same. -/
def CardProgress.SameBut (part : CardPart) (card card' : CardProgress) : Prop :=
  match part with
  | .dealt => card' = { card with dealt := card'.dealt }
  | .shares .blinding => card' = { card with blinding := card'.blinding }
  | .shares .unblinding => card' = { card with unblinding := card'.unblinding }
  | .decryptable => card' = { card with decryptable := card'.decryptable }
  | .reveal => card' = { card with
      revealed := card'.revealed, face := card'.face, revealReceived := card'.revealReceived }

/-- An action about a card writes its part and nothing else. -/
theorem Action.exists_part {a : Action} {slot : Slot} (ha : a.target? = some slot) (viewer : Int)
    (card : CardProgress) :
    ∃ part, a.part? = some part ∧ card.SameBut part (a.mark viewer card) := by
  cases a with
  | cardDealt => exact ⟨.dealt, rfl, rfl⟩
  | cardDecryptable => exact ⟨.decryptable, rfl, rfl⟩
  | shareReceived kind r =>
    refine ⟨.shares kind, rfl, ?_⟩
    cases kind with
    | blinding => rfl
    | unblinding => rfl
  | cardRevealed k face =>
    refine ⟨.reveal, rfl, ?_⟩
    simp only [mark]
    split
    · rfl
    · rfl
  | _ => cases ha

namespace HandState

variable {s : HandState} {a b : Action} {slot slot' : Slot}

/-! ## The cards after the action -/

/-- **The cards after an action about one card**, which may lie on the table or not. -/
theorem cards_step_of_target? (ha : a.target? = some slot) :
    (s.step a).cards = Table.modify slot (fun card => a.mark s.viewerSeat card) s.cards := by
  cases hcard : Table.get? slot s.cards with
  | none =>
    rw [step, step?_of_absent ha hcard, Option.getD_none, Table.modify_of_get?_eq_none hcard]
  | some card =>
    obtain ⟨status, hs⟩ := step?_of_present ha hcard
    rw [step, hs, Option.getD_some]
    exact Table.insert_of_get?_eq_some hcard fun card => a.mark s.viewerSeat card

/-- Two actions about different cards can come in either order. -/
theorem cards_step_step (ha : a.target? = some slot) (hb : b.target? = some slot')
    (hne : slot ≠ slot') : ((s.step a).step b).cards = ((s.step b).step a).cards := by
  have hviewer {c : Action} {k : Slot} (hc : c.target? = some k) :
      (s.step c).viewerSeat = s.viewerSeat := by
    obtain ⟨_, _, hs⟩ := step_eq_of_target? (s := s) hc
    rw [hs]
  calc ((s.step a).step b).cards
      = Table.modify slot' (fun card => b.mark s.viewerSeat card)
          (Table.modify slot (fun card => a.mark s.viewerSeat card) s.cards) := by
        rw [cards_step_of_target? hb, hviewer ha, cards_step_of_target? ha]
    _ = Table.modify slot (fun card => a.mark s.viewerSeat card)
          (Table.modify slot' (fun card => b.mark s.viewerSeat card) s.cards) :=
        Table.modify_comm hne.symm _ _ _
    _ = ((s.step b).step a).cards := by
        rw [cards_step_of_target? ha, hviewer hb, cards_step_of_target? hb]

/-- **Actions about one card touch that card only.** In any picture, an action about a card that
does not lie on the table does not fit. About a card that lies there, it gives a picture that
differs from the one before at most in the cards and the status line: the cards have the same slots
in the same order, every other card is the same, and of its own card it has written just the part
that belongs to it. Two such actions about different cards leave the same cards in either order. -/
theorem card_actions_touch_one_card (s : HandState) :
    (∀ a slot, a.target? = some slot →
      (Table.get? slot s.cards = none → s.step? a = none)
      ∧ ∀ card, Table.get? slot s.cards = some card →
        ∃ t part, s.step? a = some t
          ∧ t = { s with cards := t.cards, status := t.status }
          ∧ Table.keys t.cards = Table.keys s.cards
          ∧ (∀ k, k ≠ slot → Table.get? k t.cards = Table.get? k s.cards)
          ∧ Table.get? slot t.cards = some (a.mark s.viewerSeat card)
          ∧ a.part? = some part
          ∧ card.SameBut part (a.mark s.viewerSeat card))
      ∧ ∀ a b slot slot', a.target? = some slot → b.target? = some slot' → slot ≠ slot' →
        ((s.step a).step b).cards = ((s.step b).step a).cards := by
  refine ⟨fun a slot ha => ⟨step?_of_absent ha, fun card hcard => ?_⟩,
    fun a b slot slot' ha hb hne => cards_step_step ha hb hne⟩
  obtain ⟨status, hs⟩ := step?_of_present ha hcard
  obtain ⟨part, hpart, hsame⟩ := Action.exists_part ha s.viewerSeat card
  have hthere : slot ∈ Table.keys s.cards :=
    List.mem_map_of_mem (Table.mem_of_get?_eq_some hcard)
  refine ⟨_, part, hs, rfl, ?_, fun k hk => ?_, ?_, hpart, hsame⟩
  · rw [Table.keys_insert, if_pos hthere]
  · exact Table.get?_insert_of_ne hk _ _
  · exact Table.get?_insert_self _ _ _

/-- The picture of a hand of two players whose cards were just dealt. -/
def dealtToTwo : HandState :=
  fresh.run [.initGame 1 7 2 (.str (text "0xbeef")), .startShuffle, .startDealing []]

/-- The viewer's second card is revealed, and a share arrives for the first card of the other
player, in either order. A card of a third player does not lie on the table. -/
theorem card_actions_touch_one_card_dealt :
    let reveal := Action.cardRevealed ⟨0, 1⟩ ⟨0, .hearts⟩
    let share := Action.shareReceived .blinding ⟨⟨1, 0⟩, 0, none, some (text "0xb1")⟩
    dealtToTwo.step? (.cardDecryptable ⟨2, 0⟩) = none
      ∧ (∃ card, Table.get? ⟨0, 1⟩ dealtToTwo.cards = some card
        ∧ ∃ t part, dealtToTwo.step? reveal = some t
          ∧ (∀ k, k ≠ ⟨0, 1⟩ → Table.get? k t.cards = Table.get? k dealtToTwo.cards)
          ∧ reveal.part? = some part
          ∧ card.SameBut part (reveal.mark dealtToTwo.viewerSeat card))
      ∧ ((dealtToTwo.step reveal).step share).cards
        = ((dealtToTwo.step share).step reveal).cards := by
  intro reveal share
  obtain ⟨hone, htwo⟩ := card_actions_touch_one_card dealtToTwo
  have habsent : Table.get? ⟨2, 0⟩ dealtToTwo.cards = none := by decide +kernel
  have hpresent : (Table.get? ⟨0, 1⟩ dealtToTwo.cards).isSome = true := by decide +kernel
  obtain ⟨card, hcard⟩ := Option.isSome_iff_exists.mp hpresent
  obtain ⟨t, part, ht, -, -, hother, -, hpart, hsame⟩ := (hone reveal ⟨0, 1⟩ rfl).2 card hcard
  exact ⟨(hone (.cardDecryptable ⟨2, 0⟩) ⟨2, 0⟩ rfl).1 habsent,
    ⟨card, hcard, t, part, ht, hother, hpart, hsame⟩,
    htwo reveal share ⟨0, 1⟩ ⟨1, 0⟩ rfl rfl (by decide)⟩

end HandState

end MentalPoker
