import MentalPoker.Proofs.Hand.Reveal

/-!
# The outline of a picture

Of a whole picture the notices of a feed change little: the phase, and for each card on the table
whether it can be read and which face it shows. That is the outline. Most actions leave it alone;
the others are the end of the shuffle, the deal, the end of the hand, and notices of single cards,
and each of these has one rule here.

## The architecture

* **`CardMarks`**, **`HandState.marksAt`**: what notices leave on a card.
* **`HandState.Outlines`**: two pictures with one outline.
* **`outlines_run`**: inert actions keep the outline.
* **`step_phase`**, **`marksAt_step`**: the phase and the marks after any action.
-/

namespace MentalPoker

/-- What notices leave on a card. -/
structure CardMarks where
  decryptable : Bool
  revealed : Bool
  face : Option Card
  deriving DecidableEq

namespace CardMarks

/-- A card of which no notice came. -/
def none : CardMarks := ⟨false, false, .none⟩

/-- What an action leaves on the card at a slot, with the viewer at the seat `viewer`. -/
def after (viewer : Int) (slot : Slot) (m : CardMarks) : Action → CardMarks
  | .cardDecryptable k => if k = slot then { m with decryptable := true } else m
  | .cardRevealed k face =>
    if k = slot ∧ slot.seat = viewer then { m with revealed := true, face := some face } else m
  | _ => m

end CardMarks

def CardProgress.marks (card : CardProgress) : CardMarks :=
  ⟨card.decryptable, card.revealed, card.face⟩

/-- Shares and the deal itself leave no marks. -/
theorem Action.marks_onCard (viewer : Int) (slot : Slot) (card : CardProgress) (a : Action) :
    (a.onCard viewer slot card).marks = card.marks.after viewer slot a := by
  by_cases ha : a.target? = some slot
  · rw [onCard_of_target?_eq ha]
    cases a <;> simp only [target?, Option.some.injEq, reduceCtorEq] at ha <;> subst ha
    case cardDealt => rfl
    case shareReceived kind r => cases kind <;> rfl
    case cardDecryptable slot => rw [CardMarks.after, if_pos rfl]; rfl
    case cardRevealed slot face =>
      by_cases hseat : slot.seat = viewer
      · rw [mark, if_pos hseat, CardMarks.after, if_pos ⟨rfl, hseat⟩]
        rfl
      · rw [mark, if_neg hseat, CardMarks.after, if_neg fun h => hseat h.2]
        rfl
  · rw [onCard_of_target?_ne ha]
    cases a with
    | cardDecryptable k =>
      rw [CardMarks.after, if_neg fun h => ha (by rw [h, target?])]
    | cardRevealed k face =>
      rw [CardMarks.after, if_neg fun h => ha (by rw [h.1, target?])]
    | _ => rfl

namespace HandState

/-- The marks of the card at a slot, if it lies on the table. -/
def marksAt (s : HandState) (slot : Slot) : Option CardMarks :=
  (Table.get? slot s.cards).map CardProgress.marks

/-- A table without marks is empty. -/
theorem cards_isEmpty_iff {s : HandState} : s.cards.isEmpty ↔ ∀ slot, s.marksAt slot = none := by
  rw [List.isEmpty_iff]
  constructor
  · intro h slot
    rw [marksAt, h]
    rfl
  · intro h
    cases hcards : s.cards with
    | nil => rfl
    | cons entry rest =>
      have hhead := h entry.1
      rw [marksAt, hcards, Table.get?, if_pos rfl] at hhead
      cases hhead

/-! ## One action -/

/-- The phase after any action. -/
theorem step_phase (s : HandState) (a : Action) :
    (s.step a).phase =
      match a with
      | .initGame .. => .idle
      | .startShuffle => if s.phase = .idle then .shuffling else s.phase
      | .shuffleComplete => if s.phase = .shuffling then .dealing else s.phase
      | .startDealing _ =>
        if s.cards.isEmpty ∧ s.phase = .shuffling then .dealing else s.phase
      | .handComplete => if s.phase = .dealing then .complete else s.phase
      | _ => s.phase := by
  have hcard {a : Action} {slot : Slot} (ha : a.target? = some slot) :
      (s.step a).phase = s.phase := by
    obtain ⟨_, _, hs⟩ := step_eq_of_target? (s := s) ha
    rw [hs]
  cases a with
  | initGame | setViewerKey | updateStatus | setError | eventProcessed => rfl
  | cardDealt | shareReceived | cardDecryptable | cardRevealed => exact hcard rfl
  | shuffleProgress current total =>
    simp only [step, step?, shuffleProgress?]
    split <;> rfl
  | startDealing deck =>
    rw [step_startDealing]
    cases hphase : s.phase <;> cases s.cards.isEmpty <;> simp [hphase]
  | startShuffle | shuffleComplete | handComplete =>
    cases hphase : s.phase <;> simp [step, step?, enter?, HandPhase.predecessor?, say, hphase]

/-- The marks after any action: a new hand clears the table, the deal fills it once, and all else
works on the cards that lie there. -/
theorem marksAt_step (s : HandState) (a : Action) (slot : Slot) :
    (s.step a).marksAt slot =
      match a with
      | .initGame .. => none
      | .startDealing _ =>
        if s.cards.isEmpty ∧ s.phase ≠ .complete then
          if slot ∈ dealOrder s.playerCount then some .none else none
        else s.marksAt slot
      | a => (s.marksAt slot).map fun m => m.after s.viewerSeat slot a := by
  rw [marksAt, get?_cards_step]
  -- the marks of a card that stays follow those it had
  have hmarks (a : Action) : ((Table.get? slot s.cards).map fun card =>
        a.onCard s.viewerSeat slot card).map CardProgress.marks
      = (s.marksAt slot).map fun m => m.after s.viewerSeat slot a := by
    rw [marksAt, Option.map_map, Option.map_map]
    exact congrArg (Option.map · _) (funext fun card => a.marks_onCard s.viewerSeat slot card)
  cases a with
  | initGame => rfl
  | startDealing deck =>
    rw [apply_ite (Option.map CardProgress.marks), get?_seededCards,
      apply_ite (Option.map CardProgress.marks)]
    rfl
  | _ => exact hmarks _

/-- The count of players and the viewer's seat change with the hand only. -/
theorem step_table (s : HandState) (a : Action) :
    ((s.step a).playerCount, (s.step a).viewerSeat) =
      match a with
      | .initGame _ _ players _ => (players, MentalPoker.viewerSeat)
      | _ => (s.playerCount, s.viewerSeat) := by
  cases a
  case initGame | setViewerKey | updateStatus | setError | eventProcessed => rfl
  case startDealing deck =>
    rw [step_startDealing]
    split <;> rfl
  all_goals
    exact step_frame (fun s => (s.playerCount, s.viewerSeat)) (fun _ _ _ _ _ _ => rfl) s
      (by simp [Action.target?, Action.isProgress])

/-! ## Pictures with one outline -/

/-- Two pictures with one outline. -/
structure Outlines (s t : HandState) : Prop where
  phase : t.phase = s.phase
  playerCount : t.playerCount = s.playerCount
  viewerSeat : t.viewerSeat = s.viewerSeat
  marksAt : ∀ slot, t.marksAt slot = s.marksAt slot

theorem Outlines.refl (s : HandState) : Outlines s s := ⟨rfl, rfl, rfl, fun _ => rfl⟩

theorem Outlines.trans {s t u : HandState} (h : Outlines s t) (h' : Outlines t u) :
    Outlines s u where
  phase := h'.phase.trans h.phase
  playerCount := h'.playerCount.trans h.playerCount
  viewerSeat := h'.viewerSeat.trans h.viewerSeat
  marksAt slot := (h'.marksAt slot).trans (h.marksAt slot)

/-- What an action does to the outline depends on the outline only. -/
theorem Outlines.step {s t : HandState} (h : Outlines s t) (a : Action) :
    Outlines (s.step a) (t.step a) := by
  have hempty : t.cards.isEmpty = s.cards.isEmpty := by
    rw [Bool.eq_iff_iff, cards_isEmpty_iff, cards_isEmpty_iff]
    simp only [h.marksAt]
  have htable : ((t.step a).playerCount, (t.step a).viewerSeat)
      = ((s.step a).playerCount, (s.step a).viewerSeat) := by
    rw [step_table, step_table, h.playerCount, h.viewerSeat]
  refine ⟨?_, congrArg Prod.fst htable, congrArg Prod.snd htable, fun slot => ?_⟩
  · rw [step_phase, step_phase, hempty, h.phase]
  · rw [marksAt_step, marksAt_step, hempty, h.phase, h.playerCount, h.viewerSeat, h.marksAt]

end HandState

/-- The action leaves the outline of every picture alone. -/
def Action.isInert : Action → Bool
  | setViewerKey _ | shuffleProgress .. | cardDealt _ | shareReceived .. | updateStatus _
  | setError _ | eventProcessed _ => true
  | _ => false

namespace HandState

theorem outlines_step {s : HandState} {a : Action} (h : a.isInert = true) :
    Outlines s (s.step a) := by
  have htable : ((s.step a).playerCount, (s.step a).viewerSeat)
      = (s.playerCount, s.viewerSeat) := by
    rw [step_table]
    cases a <;> first | rfl | cases h
  have hsame {a : Action} (hafter : ∀ slot (m : CardMarks), m.after s.viewerSeat slot a = m)
      (slot : Slot) : ((s.marksAt slot).map fun m => m.after s.viewerSeat slot a)
        = s.marksAt slot := by
    simp only [hafter, Option.map_id_fun', id]
  refine ⟨?_, congrArg Prod.fst htable, congrArg Prod.snd htable, fun slot => ?_⟩
  · rw [step_phase]
    cases a <;> first | rfl | cases h
  · rw [marksAt_step]
    cases a <;> first | exact hsame (fun _ _ => rfl) slot | cases h

/-- The actions that an outline depends on. -/
def telling (actions : List Action) : List Action := actions.filter fun a => !a.isInert

/-- **The outline after some actions** is that after the telling ones among them. Induction along
the actions, over any two pictures with one outline. -/
theorem outlines_run {s t : HandState} (h : Outlines s t) (actions : List Action) :
    Outlines (s.run (telling actions)) (t.run actions) := by
  induction actions generalizing s t with
  | nil => exact h
  | cons a actions ih =>
    rw [run_cons, telling, List.filter_cons]
    cases ha : a.isInert with
    | true =>
      -- only the second picture moves, and its outline stays
      exact ih (h.trans (outlines_step ha))
    | false => exact ih (h.step a)

end HandState

end MentalPoker
