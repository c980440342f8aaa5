import MentalPoker.Proofs.Session.Intake

/-!
# The error line

Three parts of a session write into the error line of its picture: the feed when it fails, the end
of a round that finds a stall, and the narrator, who says once in a hand that the count of shuffles
is unknown. All the others leave the line as it is or clear it. So what is said of a stall can come
from the end of a round alone.

## The architecture

* **`Calms`**: what becomes of an error line where neither a feed fails nor a stall is found.
* **`calms_run`**: the actions of the narrator, which are mild (`Narrator.isMild_effects`).
* **`CalmsError`**: the parts of a session; **`react_calms`**: the inputs that are neither failures
  of the feed nor ends of rounds. One case for each.
-/

namespace MentalPoker

/-! ## The line after some actions -/

/-- The new line is the old one, or empty, or says no more than that a count is unknown. -/
def Calms (old new : Option Text) : Prop :=
  new = old ∨ new = none ∨ new = some Narrator.shufflesUnknown

namespace Calms

theorem refl (line : Option Text) : Calms line line := .inl rfl

theorem trans {first second third : Option Text} (h : Calms first second)
    (h' : Calms second third) : Calms first third := by
  rcases h' with rfl | hmild
  · exact h
  · exact .inr hmild

end Calms

namespace HandState

theorem step_error (s : HandState) (a : Action) :
    (s.step a).error =
      match a with
      | .initGame .. => none
      | .setError error => error
      | _ => s.error := by
  cases a
  case startDealing deck =>
    rw [step_startDealing]
    split <;> rfl
  case initGame | setViewerKey | updateStatus | setError | eventProcessed => rfl
  all_goals
    exact step_frame HandState.error (fun _ _ _ _ _ _ => rfl) s
      (by simp [Action.target?, Action.isProgress])

theorem calms_step {a : Action} (ha : a.IsMild) (s : HandState) :
    Calms s.error (s.step a).error := by
  rw [step_error]
  cases a with
  | initGame => exact .inr (.inl rfl)
  | setError error => exact .inr ha
  | _ => exact .refl _

theorem calms_run {actions : List Action} (h : ∀ a ∈ actions, a.IsMild) (s : HandState) :
    Calms s.error (s.run actions).error := by
  induction actions generalizing s with
  | nil => exact .refl _
  | cons a actions ih =>
    obtain ⟨ha, hrest⟩ := List.forall_mem_cons.mp h
    exact (calms_step ha s).trans (ih hrest (s.step a))

end HandState

namespace Session

/-! ## Parts of a session -/

/-- A part that writes nothing into the error line but that a count is unknown. -/
def CalmsError (f : Step) : Prop := ∀ s, Calms s.state.error (f s).1.state.error

namespace CalmsError

theorem of_state {f : Step} (h : ∀ s, (f s).1.state = s.state) : CalmsError f :=
  fun s => .inl (congrArg HandState.error (h s))

theorem thenDo {f g : Step} (hf : CalmsError f) (hg : CalmsError g) : CalmsError (thenDo f g) :=
  fun s => (hf s).trans (hg _)

theorem dispatch {a : Action} (ha : a.IsMild) : CalmsError (dispatch a) := by
  intro s
  rw [dispatch_fst]
  exact HandState.calms_step ha s.state

theorem followAll {effects : List Narrator.Effect} (h : Narrator.IsMild effects) :
    CalmsError (followAll effects) := by
  intro s
  rw [followAll_fst]
  exact HandState.calms_run h s.state

theorem applyReady (deck : List Card) (ready : List (Int × Finalized)) :
    CalmsError (applyReady deck ready) := by
  induction ready with
  | nil => exact of_state fun _ => rfl
  | cons entry ready ih =>
    intro s
    rw [applyReady_cons]
    exact thenDo (fun s => followAll (Narrator.isMild_envelope deck _ _) s) ih s

theorem clearStall : CalmsError clearStall := by
  intro s
  simp only [Session.clearStall]
  split
  · exact dispatch (a := .setError none) (Or.inl rfl) _
  · exact .refl _

theorem afterArrival (f : Finalized) (arrival : GapBuffer.Arrival Finalized) :
    CalmsError (afterArrival f arrival) := by
  unfold Session.afterArrival
  split
  · refine of_state fun s => ?_
    unfold requestRecovery
    split <;> rfl
  · intro s
    rw [depending_apply]
    split
    · exact .refl _
    · exact clearStall s

theorem envelope (deck : List Card) (f : Finalized) : CalmsError (envelope deck f) := by
  intro s
  rw [envelope_apply]
  exact (applyReady deck _).thenDo (afterArrival f _) _

theorem prepareHand : CalmsError prepareHand := by
  rw [Session.prepareHand, inOrder_three]
  exact (of_state fun _ => rfl).thenDo ((of_state fun _ => rfl).thenDo clearStall)

theorem event (deck : List Card) (e : FeedEvent) : CalmsError (event deck e) := by
  have hnarrated : CalmsError
      (depending fun s => Session.followAll (Narrator.effects deck s.context e)) :=
    fun s => followAll (Narrator.isMild_effects deck s.context e) s
  cases e with
  | gameEvent f => exact envelope deck f
  | handCreated hand => exact prepareHand.thenDo hnarrated
  | _ => exact hnarrated

theorem kindOnly (kind : FeedEvent.Kind) : CalmsError (kindOnly kind) := by
  cases kind with
  | handCreated => exact prepareHand
  | _ => exact fun s => followAll (Narrator.isAside_effectsOfKind s.context _).isMild s

/-- What the end of a round brings, before the round is counted. -/
theorem brought (settings : SessionSettings) (result : Except Failure RecoveryResult) :
    CalmsError (brought settings result) := by
  refine (of_state fun _ => rfl).thenDo ?_
  cases result with
  | ok r => exact fun s => applyReady settings.deck _ _
  | error failure => exact of_state fun _ => rfl

end CalmsError

/-! ## Inputs -/

/-- **Inputs that are neither failures of the feed nor ends of rounds** calm the error line. -/
theorem react_calms (settings : SessionSettings) {i : SessionInput} (hround : i.endsRound = false)
    (hfeed : ∀ message, i ≠ .failed message) : CalmsError (react settings i) := by
  intro s
  cases i with
  | event e => exact CalmsError.event settings.deck e s
  | beginHand e key =>
    obtain ⟨context, hevent⟩ := beginHand_eq_event settings.deck e key s
    rw [react, hevent]
    exact CalmsError.event settings.deck e { s with context := context }
  | kindOnly kind => exact CalmsError.kindOnly kind s
  | recovered result => cases hround
  | failed message => exact absurd rfl (hfeed message)
  | start =>
    rw [react, start]
    split <;> exact .refl _
  | opened => exact .inr (.inl rfl)
  | completed | listen | unlisten => exact .refl _
  | reset => exact .inr (.inl rfl)
  | close =>
    rw [react, thenDo_fst]
    split <;> exact .inr (.inl rfl)

end Session

end MentalPoker
