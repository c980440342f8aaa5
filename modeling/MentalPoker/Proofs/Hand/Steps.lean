import MentalPoker.Hand.Transition

/-!
# What one action does

The steps of a hand, said once. An action that is about one card replaces the cards and the status
line and nothing else (`step_eq_of_target?`); through `Table.get?` the cards after any action are
those of `get?_cards_step`, where `Action.onCard` is what happens to a card that lies on the table.
What later modules need of a single field is read off these.
-/

namespace MentalPoker

namespace Action

/-- The slot that an action is about, if it is about one card. -/
def target? : Action → Option Slot
  | cardDealt slot | cardDecryptable slot | cardRevealed slot _ => some slot
  | shareReceived _ r => some r.slot
  | _ => none

/-- Actions that move the shuffle or the phase on and are about no card. -/
def isProgress : Action → Bool
  | startShuffle | shuffleProgress .. | shuffleComplete | handComplete => true
  | _ => false

/-- What an action does to the card that it is about, with the viewer at the seat `viewer`. -/
def mark (viewer : Int) (card : CardProgress) : Action → CardProgress
  | cardDealt _ => { card with dealt := true }
  | shareReceived kind r => HandState.addShare kind r card
  | cardDecryptable _ => { card with decryptable := true }
  | cardRevealed slot face =>
    if slot.seat = viewer then
      { card with revealed := true, face := some face, revealReceived := true }
    else { card with revealReceived := true }
  | _ => card

/-- What an action does to the card at a slot. -/
def onCard (viewer : Int) (slot : Slot) (card : CardProgress) (a : Action) : CardProgress :=
  if a.target? = some slot then a.mark viewer card else card

theorem onCard_of_target?_eq {viewer : Int} {slot : Slot} {card : CardProgress} {a : Action}
    (h : a.target? = some slot) : a.onCard viewer slot card = a.mark viewer card :=
  if_pos h

theorem onCard_of_target?_ne {viewer : Int} {slot : Slot} {card : CardProgress} {a : Action}
    (h : a.target? ≠ some slot) : a.onCard viewer slot card = card :=
  if_neg h

end Action

namespace HandState

/-! ## One card -/

theorem updateCard?_none {s : HandState} {slot : Slot} (h : Table.get? slot s.cards = none)
    (f : CardProgress → CardProgress) : s.updateCard? slot f = none := by
  rw [updateCard?, h, Option.map_none]

theorem updateCard?_some {s : HandState} {slot : Slot} {card : CardProgress}
    (h : Table.get? slot s.cards = some card) (f : CardProgress → CardProgress) :
    s.updateCard? slot f = some { s with cards := Table.insert slot (f card) s.cards } := by
  rw [updateCard?, h, Option.map_some]

/-- The action about a card that is not on the table does not fit. -/
theorem step?_of_absent {s : HandState} {a : Action} {slot : Slot} (ha : a.target? = some slot)
    (h : Table.get? slot s.cards = none) : s.step? a = none := by
  cases a <;> simp only [Action.target?, Option.some.injEq, reduceCtorEq] at ha <;> subst ha
  case cardDealt => simp only [step?, cardDealt?, updateCard?_none h, Option.map_none]
  case shareReceived => simp only [step?, shareReceived?, h, Option.map_none]
  case cardDecryptable => simp only [step?, cardDecryptable?, updateCard?_none h, Option.map_none]
  case cardRevealed =>
    simp only [step?, cardRevealed?, updateCard?_none h, Option.map_none, ite_self]

/-- **An action about a card on the table** writes that card and a status line. -/
theorem step?_of_present {s : HandState} {a : Action} {slot : Slot} {card : CardProgress}
    (ha : a.target? = some slot) (h : Table.get? slot s.cards = some card) :
    ∃ status, s.step? a = some { s with
      cards := Table.insert slot (a.mark s.viewerSeat card) s.cards
      status := status } := by
  cases a <;> simp only [Action.target?, Option.some.injEq, reduceCtorEq] at ha <;> subst ha
  case cardDealt =>
    simp only [step?, cardDealt?, updateCard?_some h, Option.map_some, Action.mark]
    exact ⟨_, rfl⟩
  case shareReceived kind r =>
    simp only [step?, shareReceived?, h, Option.map_some, Action.mark]
    split
    · exact ⟨_, rfl⟩
    · exact ⟨s.status, rfl⟩
  case cardDecryptable slot =>
    simp only [step?, cardDecryptable?, updateCard?_some h, Option.map_some, Action.mark]
    split
    · exact ⟨_, rfl⟩
    · exact ⟨s.status, rfl⟩
  case cardRevealed slot face =>
    simp only [step?, cardRevealed?, updateCard?_some h, Option.map_some, Action.mark]
    split
    · exact ⟨_, rfl⟩
    · exact ⟨s.status, rfl⟩

/-- The frame of an action about one card: only the cards and the status line are replaced. -/
theorem step_eq_of_target? {s : HandState} {a : Action} {slot : Slot} (ha : a.target? = some slot) :
    ∃ cards status, s.step a = { s with cards := cards, status := status } := by
  cases h : Table.get? slot s.cards with
  | none => exact ⟨s.cards, s.status, by rw [step, step?_of_absent ha h, Option.getD_none]⟩
  | some card =>
    obtain ⟨status, hs⟩ := step?_of_present ha h
    exact ⟨_, status, by rw [step, hs, Option.getD_some]⟩

/-- The frame of an action that moves the hand on. -/
theorem step_eq_of_isProgress {s : HandState} {a : Action} (ha : a.isProgress = true) :
    ∃ phase total current status, s.step a = { s with
      phase := phase, totalSteps := total, currentStep := current, status := status } := by
  cases a <;> simp only [Action.isProgress, Bool.false_eq_true] at ha
  case startShuffle =>
    simp only [step, step?, enter?]
    split
    · exact ⟨.shuffling, s.totalSteps, 0, _, rfl⟩
    · exact ⟨s.phase, s.totalSteps, s.currentStep, s.status, rfl⟩
  case shuffleProgress current total =>
    simp only [step, step?, shuffleProgress?]
    split
    · exact ⟨s.phase, total, current, _, rfl⟩
    · exact ⟨s.phase, s.totalSteps, s.currentStep, s.status, rfl⟩
  case shuffleComplete =>
    simp only [step, step?, enter?]
    split
    · exact ⟨.dealing, s.totalSteps, s.currentStep, _, rfl⟩
    · exact ⟨s.phase, s.totalSteps, s.currentStep, s.status, rfl⟩
  case handComplete =>
    simp only [step, step?, enter?]
    split
    · exact ⟨.complete, s.totalSteps, s.currentStep, _, rfl⟩
    · exact ⟨s.phase, s.totalSteps, s.currentStep, s.status, rfl⟩

/-- The deal replaces the deck for the show, the cards and their queue, the status line and the
phase, once in a hand. -/
theorem step_startDealing (s : HandState) (deck : List Card) :
    s.step (.startDealing deck) =
      if s.cards.isEmpty ∧ s.phase ≠ .complete then
        { s with
          displayDeck := deck
          cards := s.seededCards
          dealQueue := dealOrder s.playerCount
          status := text "Dealing hole cards..."
          phase := if s.phase = .shuffling then .dealing else s.phase }
      else s := by
  simp only [step, step?, startDealing?]
  by_cases h : s.cards.isEmpty ∧ s.phase ≠ .complete
  · rw [if_pos h, if_neg (by simpa using h), Option.getD_some]
  · rw [if_neg h, if_pos (by simpa using Decidable.not_and_iff_or_not.mp h), Option.getD_none]

/-! ## The cards after an action -/

theorem get?_seededCards (s : HandState) (slot : Slot) :
    Table.get? slot s.seededCards =
      if slot ∈ dealOrder s.playerCount then
        some (.seeded slot (if slot.seat = s.viewerSeat then s.viewerKey else .null) s.playerCount)
      else none :=
  Table.get?_map_mk _ slot _

/-- The cards after an action about one card. -/
theorem get?_cards_step_of_target? {s : HandState} {a : Action} {slot : Slot}
    (ha : a.target? = some slot) (k : Slot) :
    Table.get? k (s.step a).cards =
      (Table.get? k s.cards).map fun card => a.onCard s.viewerSeat k card := by
  -- the table leaves every other card alone, and so does `onCard`
  have hother (hk : k ≠ slot) : (fun card => a.onCard s.viewerSeat k card) = id := by
    funext card
    exact Action.onCard_of_target?_ne (by rw [ha]; simpa using fun he : slot = k => hk he.symm)
  cases h : Table.get? slot s.cards with
  | none =>
    rw [step, step?_of_absent ha h, Option.getD_none]
    by_cases hk : k = slot
    · rw [hk, h, Option.map_none]
    · rw [hother hk, Option.map_id, id]
  | some card =>
    obtain ⟨status, hs⟩ := step?_of_present ha h
    rw [step, hs, Option.getD_some, Table.get?_insert]
    by_cases hk : k = slot
    · rw [if_pos hk, hk, h, Option.map_some, Action.onCard_of_target?_eq ha]
    · rw [if_neg hk, hother hk, Option.map_id, id]

/-- **The cards after any action.** A new hand clears the table, and the deal fills it once; any
other action works on the cards that lie there. -/
theorem get?_cards_step (s : HandState) (a : Action) (k : Slot) :
    Table.get? k (s.step a).cards =
      match a with
      | .initGame .. => none
      | .startDealing _ =>
        if s.cards.isEmpty ∧ s.phase ≠ .complete then Table.get? k s.seededCards
        else Table.get? k s.cards
      | a => (Table.get? k s.cards).map fun card => a.onCard s.viewerSeat k card := by
  have hkeep {a : Action} (ha : a.target? = none) :
      (Table.get? k s.cards).map (fun card => a.onCard s.viewerSeat k card)
        = Table.get? k s.cards := by
    have hid : (fun card => a.onCard s.viewerSeat k card) = id := by
      funext card
      exact Action.onCard_of_target?_ne (by rw [ha]; simp)
    rw [hid, Option.map_id, id]
  have hprogress {a : Action} (ha : a.isProgress = true) : (s.step a).cards = s.cards := by
    obtain ⟨_, _, _, _, hs⟩ := step_eq_of_isProgress (s := s) ha
    rw [hs]
  cases a with
  | initGame => rfl
  | startDealing deck =>
    rw [step_startDealing]
    split <;> rfl
  -- four actions are about one card, all others leave every card as it is
  | cardDealt slot => exact get?_cards_step_of_target? rfl k
  | shareReceived kind r => exact get?_cards_step_of_target? rfl k
  | cardDecryptable slot => exact get?_cards_step_of_target? rfl k
  | cardRevealed slot face => exact get?_cards_step_of_target? rfl k
  | setViewerKey key => exact (hkeep rfl).symm
  | startShuffle => rw [hprogress rfl]; exact (hkeep rfl).symm
  | shuffleProgress current total => rw [hprogress rfl]; exact (hkeep rfl).symm
  | shuffleComplete => rw [hprogress rfl]; exact (hkeep rfl).symm
  | handComplete => rw [hprogress rfl]; exact (hkeep rfl).symm
  | updateStatus message => exact (hkeep rfl).symm
  | setError error => exact (hkeep rfl).symm
  | eventProcessed seqId => exact (hkeep rfl).symm

/-! ## Single fields -/

/-- What neither the cards nor the progress of the hand show in is left alone by the actions that
are about them. -/
theorem step_frame {β : Type} (p : HandState → β)
    (hp : ∀ (s : HandState) cards phase total current status,
      p { s with
        cards := cards, phase := phase, totalSteps := total, currentStep := current
        status := status } = p s)
    (s : HandState) {a : Action} (ha : a.target?.isSome = true ∨ a.isProgress = true) :
    p (s.step a) = p s := by
  rcases ha with ha | ha
  · obtain ⟨slot, hslot⟩ := Option.isSome_iff_exists.mp ha
    obtain ⟨cards, status, hs⟩ := step_eq_of_target? (s := s) hslot
    rw [hs]
    exact hp s cards s.phase s.totalSteps s.currentStep status
  · obtain ⟨phase, total, current, status, hs⟩ := step_eq_of_isProgress (s := s) ha
    rw [hs]
    exact hp s s.cards phase total current status

/-- The viewer never changes seats. -/
theorem step_viewerSeat {s : HandState} (h : s.viewerSeat = MentalPoker.viewerSeat) (a : Action) :
    (s.step a).viewerSeat = MentalPoker.viewerSeat := by
  cases a
  case initGame => rfl
  case startDealing deck =>
    rw [step_startDealing]
    split <;> exact h
  case setViewerKey | updateStatus | setError | eventProcessed => exact h
  all_goals
    rw [step_frame HandState.viewerSeat (fun _ _ _ _ _ _ => rfl) s
      (by simp [Action.target?, Action.isProgress])]
    exact h

/-- The highest number is set back by a new hand, raised by an envelope, and left alone by all
else. -/
theorem step_lastSeqId (s : HandState) (a : Action) :
    (s.step a).lastSeqId =
      match a with
      | .initGame .. => -1
      | .eventProcessed seqId => max s.lastSeqId seqId
      | _ => s.lastSeqId := by
  cases a
  case startDealing deck =>
    rw [step_startDealing]
    split <;> rfl
  case initGame | setViewerKey | updateStatus | setError | eventProcessed => rfl
  all_goals
    exact step_frame HandState.lastSeqId (fun _ _ _ _ _ _ => rfl) s
      (by simp [Action.target?, Action.isProgress])

/-! ## Runs -/

@[simp] theorem run_nil (s : HandState) : s.run [] = s := rfl

theorem run_cons (s : HandState) (a : Action) (actions : List Action) :
    s.run (a :: actions) = (s.step a).run actions := rfl

theorem run_concat (s : HandState) (actions : List Action) (a : Action) :
    s.run (actions ++ [a]) = (s.run actions).step a := by
  rw [run_append, run_cons, run_nil]

/-- What every step keeps, a run keeps. -/
theorem run_keeps {P : HandState → Prop} (hstep : ∀ s a, P s → P (s.step a)) {s : HandState}
    (h : P s) (actions : List Action) : P (s.run actions) := by
  induction actions generalizing s with
  | nil => exact h
  | cons a actions ih => exact ih (hstep s a h)

theorem run_fresh_viewerSeat (actions : List Action) :
    (fresh.run actions).viewerSeat = MentalPoker.viewerSeat :=
  run_keeps (P := fun s => s.viewerSeat = MentalPoker.viewerSeat)
    (fun _ a h => step_viewerSeat h a) rfl actions

end HandState

end MentalPoker
