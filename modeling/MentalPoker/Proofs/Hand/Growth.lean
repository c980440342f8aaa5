import MentalPoker.Proofs.Hand.Outline

/-!
# What a hand never takes back

Until another hand begins, the picture of a hand only grows. Records of cards are rebuilt by several
actions and the deal may be called for again and again, but no action writes a flag down, takes a
contributor out of a table of shares, lowers the highest number or clears a card away. The phase
goes through its four stages in one direction, a stage at a time.

## The architecture

* **`HandPhase.Moves`**: the moves of the phase, a rule for each action that makes one.
* **`CardProgress.Grows`**, **`HandState.Grows`**: what one card, and one picture, keeps in another.
  Both are preorders.
* **`grows_mark`**: what an action writes on its card. The frame of all other cards is
  `HandState.get?_cards_step`.
* **`grows_step`**, **`grows_run`**: one action and, by induction, a series of them.
-/

namespace MentalPoker

/-- The action begins another hand. -/
def Action.beginsHand : Action → Bool
  | initGame .. => true
  | _ => false

/-! ## The phase -/

namespace HandPhase

/-- The place of a phase in the course of a hand. -/
def rank : HandPhase → Nat
  | idle => 0
  | shuffling => 1
  | dealing => 2
  | complete => 3

/-- How an action may move the phase within a hand. -/
inductive Moves : HandPhase → Action → HandPhase → Prop where
  | stays (phase : HandPhase) (a : Action) : Moves phase a phase
  | shuffle : Moves idle .startShuffle shuffling
  | shuffled : Moves shuffling .shuffleComplete dealing
  | deal (deck : List Card) : Moves shuffling (.startDealing deck) dealing
  | complete : Moves dealing .handComplete complete

theorem Moves.rank_le {p q : HandPhase} {a : Action} (h : p.Moves a q) :
    p.rank ≤ q.rank ∧ q.rank ≤ p.rank + 1 := by
  cases h with
  | stays => omega
  | shuffle | shuffled | deal | complete => decide

end HandPhase

theorem HandState.moves_step (s : HandState) {a : Action} (h : a.beginsHand = false) :
    s.phase.Moves a (s.step a).phase := by
  -- an action enters its phase from one other, or leaves the phase as it is
  have henters {a : Action} {next : HandPhase} {c : Prop} [Decidable c]
      (hmoves : c → s.phase.Moves a next) : s.phase.Moves a (if c then next else s.phase) := by
    split
    · next hc => exact hmoves hc
    · exact .stays s.phase a
  rw [step_phase]
  cases a with
  | initGame => cases h
  | startShuffle => exact henters fun hidle => hidle ▸ .shuffle
  | shuffleComplete => exact henters fun hshuffling => hshuffling ▸ .shuffled
  | startDealing deck => exact henters fun hdeal => hdeal.2 ▸ .deal deck
  | handComplete => exact henters fun hdealing => hdealing ▸ .complete
  | _ => exact .stays s.phase _

/-! ## Cards -/

/-- Nothing that is known of a card is taken back in `card'`. -/
structure CardProgress.Grows (card card' : CardProgress) : Prop where
  dealt : card.dealt = true → card'.dealt = true
  decryptable : card.decryptable = true → card'.decryptable = true
  revealed : card.revealed = true → card'.revealed = true
  revealReceived : card.revealReceived = true → card'.revealReceived = true
  contributors : ∀ kind, Table.keys (HandState.sharesOf kind card)
    ⊆ Table.keys (HandState.sharesOf kind card')

namespace CardProgress.Grows

theorem refl (card : CardProgress) : card.Grows card := ⟨id, id, id, id, fun _ _ h => h⟩

theorem trans {card card' card'' : CardProgress} (h : card.Grows card')
    (h' : card'.Grows card'') : card.Grows card'' where
  dealt hd := h'.dealt (h.dealt hd)
  decryptable hd := h'.decryptable (h.decryptable hd)
  revealed hr := h'.revealed (h.revealed hr)
  revealReceived hr := h'.revealReceived (h.revealReceived hr)
  contributors kind _ hk := h'.contributors kind (h.contributors kind hk)

end CardProgress.Grows

namespace Action

theorem grows_addShare (kind : ShareKind) (r : ShareReceipt) (card : CardProgress) :
    card.Grows (HandState.addShare kind r card) := by
  have hflags : (HandState.addShare kind r card).dealt = card.dealt
      ∧ (HandState.addShare kind r card).decryptable = card.decryptable
      ∧ (HandState.addShare kind r card).revealed = card.revealed
      ∧ (HandState.addShare kind r card).revealReceived = card.revealReceived := by
    cases kind <;> exact ⟨rfl, rfl, rfl, rfl⟩
  obtain ⟨hdealt, hdecryptable, hrevealed, hreceived⟩ := hflags
  refine ⟨hdealt.trans, hdecryptable.trans, hrevealed.trans, hreceived.trans, fun other => ?_⟩
  -- the shares of its own kind get one entry more or a new value, the others stay
  cases kind <;> cases other
  case blinding.blinding => exact Table.keys_subset_insert _ _ card.blinding
  case unblinding.unblinding => exact Table.keys_subset_insert _ _ card.unblinding
  case blinding.unblinding | unblinding.blinding => exact fun _ h => h

theorem grows_mark (viewer : Int) (card : CardProgress) (a : Action) :
    card.Grows (a.mark viewer card) := by
  cases a with
  | shareReceived kind r => exact grows_addShare kind r card
  | cardDealt slot => exact { CardProgress.Grows.refl card with dealt := fun _ => rfl }
  | cardDecryptable slot =>
    exact { CardProgress.Grows.refl card with decryptable := fun _ => rfl }
  | cardRevealed slot face =>
    simp only [mark]
    split
    · exact { CardProgress.Grows.refl card with
        revealed := fun _ => rfl, revealReceived := fun _ => rfl }
    · exact { CardProgress.Grows.refl card with revealReceived := fun _ => rfl }
  | _ => exact .refl card

theorem grows_onCard (viewer : Int) (slot : Slot) (card : CardProgress) (a : Action) :
    card.Grows (a.onCard viewer slot card) := by
  unfold onCard
  split
  · exact grows_mark viewer card a
  · exact .refl card

end Action

/-! ## Pictures -/

namespace HandState

/-- Nothing that `s` shows is taken back in `t`. -/
structure Grows (s t : HandState) : Prop where
  phase : s.phase.rank ≤ t.phase.rank
  lastSeqId : s.lastSeqId ≤ t.lastSeqId
  cards : ∀ slot card, Table.get? slot s.cards = some card →
    ∃ card', Table.get? slot t.cards = some card' ∧ card.Grows card'

theorem Grows.refl (s : HandState) : s.Grows s :=
  ⟨Nat.le_refl _, Int.le_refl _, fun _ card h => ⟨card, h, .refl card⟩⟩

theorem Grows.trans {s t u : HandState} (h : s.Grows t) (h' : t.Grows u) : s.Grows u where
  phase := Nat.le_trans h.phase h'.phase
  lastSeqId := Int.le_trans h.lastSeqId h'.lastSeqId
  cards slot card hcard := by
    obtain ⟨card', hcard', hgrows⟩ := h.cards slot card hcard
    obtain ⟨card'', hcard'', hgrows'⟩ := h'.cards slot card' hcard'
    exact ⟨card'', hcard'', hgrows.trans hgrows'⟩

theorem lastSeqId_le_step (s : HandState) {a : Action} (h : a.beginsHand = false) :
    s.lastSeqId ≤ (s.step a).lastSeqId := by
  rw [step_lastSeqId]
  cases a with
  | initGame => cases h
  | eventProcessed seqId => exact Int.le_max_left _ _
  | _ => exact Int.le_refl _

/-- A card on the table stays there. The deal that fills the table finds none on it. -/
theorem grows_cards_step (s : HandState) {a : Action} (h : a.beginsHand = false) {slot : Slot}
    {card : CardProgress} (hcard : Table.get? slot s.cards = some card) :
    ∃ card', Table.get? slot (s.step a).cards = some card' ∧ card.Grows card' := by
  rw [get?_cards_step]
  cases a with
  | initGame => cases h
  | startDealing deck =>
    have hthere : ¬ (s.cards.isEmpty ∧ s.phase ≠ .complete) := by
      rintro ⟨hempty, _⟩
      rw [List.isEmpty_iff.mp hempty] at hcard
      cases hcard
    exact ⟨card, by rw [if_neg hthere, hcard], .refl card⟩
  | _ =>
    exact ⟨_, Option.map_eq_some_iff.mpr ⟨card, hcard, rfl⟩,
      Action.grows_onCard s.viewerSeat slot card _⟩

theorem grows_step (s : HandState) {a : Action} (h : a.beginsHand = false) :
    s.Grows (s.step a) where
  phase := (s.moves_step h).rank_le.1
  lastSeqId := s.lastSeqId_le_step h
  cards _ _ hcard := s.grows_cards_step h hcard

theorem grows_run {actions : List Action} (h : ∀ a ∈ actions, a.beginsHand = false)
    (s : HandState) : s.Grows (s.run actions) := by
  induction actions generalizing s with
  | nil => exact .refl s
  | cons a actions ih =>
    obtain ⟨ha, hrest⟩ := List.forall_mem_cons.mp h
    exact (s.grows_step ha).trans (ih hrest (s.step a))

/-- **Nothing is taken back within a hand.** Whatever led to a picture, and whatever comes then but
no other hand: in the later picture the phase is the same or a later one, the highest number is no
lower, every card that lay on the table lies there still, with every flag that was up and every
contributor of a share. And each action on the way leaves the phase or moves it one stage on, by the
rule for that stage. -/
theorem nothing_is_taken_back (before after : List Action)
    (h : ∀ a ∈ after, a.beginsHand = false) :
    let s := fresh.run before
    s.Grows (s.run after)
      ∧ ∀ first a rest, after = first ++ a :: rest →
        let p := (s.run first).phase
        let q := (s.run (first ++ [a])).phase
        p.Moves a q ∧ p.rank ≤ q.rank ∧ q.rank ≤ p.rank + 1 := by
  intro s
  refine ⟨s.grows_run h, ?_⟩
  rintro first a rest rfl
  have ha : a.beginsHand = false := h a (by simp)
  have hmoves : (s.run first).phase.Moves a (s.run (first ++ [a])).phase := by
    rw [run_concat]
    exact moves_step _ ha
  exact ⟨hmoves, hmoves.rank_le⟩

/-- A deal of two seats, seen from the shuffle on. -/
def dealOfTwo : List Action :=
  [.initGame 1 7 2 .null, .startShuffle, .startDealing [], .cardDealt ⟨0, 0⟩,
    .shareReceived .blinding ⟨⟨0, 0⟩, 1, none, none⟩]

/-- Actions that come again, and a reveal. -/
def dealtAgain : List Action :=
  [.startDealing [], .shuffleComplete, .eventProcessed 4,
    .shareReceived .blinding ⟨⟨0, 0⟩, 1, none, some (text "0x5")⟩, .cardRevealed ⟨1, 0⟩ default,
    .handComplete, .startShuffle, .eventProcessed 2]

theorem nothing_is_taken_back_again :
    (∀ a ∈ dealtAgain, a.beginsHand = false)
      ∧ (fresh.run dealOfTwo).Grows ((fresh.run dealOfTwo).run dealtAgain) := by
  have hsame : ∀ a ∈ dealtAgain, a.beginsHand = false := by decide
  exact ⟨hsame, (nothing_is_taken_back dealOfTwo dealtAgain hsame).1⟩

end HandState

end MentalPoker
