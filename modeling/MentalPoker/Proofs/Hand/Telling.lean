import MentalPoker.Proofs.Hand.Narration

/-!
# Where the narrator stands

An event of the feed moves two things: what the narrator remembers, and the picture that it draws.
The two together are a tale, and a tale is told event by event. The error line of the picture is
left out of it: other parts of a session write there too, and nothing that the narrator says
depends on it (`HandState.run_withoutError`).

## The architecture

* **`HandState.withoutError`**: the picture but for its error line; `step?_withoutError` says that
  an action fits, and does what it does, whatever stands on that line.
* **`Tale`**, **`Tale.tell`**, **`Tale.tellAll`**: where the narrator stands after some events.
-/

namespace MentalPoker

namespace HandState

/-! ## The error line -/

/-- The picture with nothing on its error line. -/
def withoutError (s : HandState) : HandState := { s with error := none }

theorem enter?_withoutError (s : HandState) (phase : HandPhase) :
    s.withoutError.enter? phase = (s.enter? phase).map withoutError := by
  rw [enter?, enter?, apply_ite (Option.map withoutError)]
  rfl

theorem updateCard?_withoutError (s : HandState) (slot : Slot) (f : CardProgress → CardProgress) :
    s.withoutError.updateCard? slot f = (s.updateCard? slot f).map withoutError := by
  rw [updateCard?, updateCard?, Option.map_map]
  rfl

/-- Whether an action fits does not depend on the error line, nor does the rest of what it does. -/
theorem step?_withoutError (s : HandState) (a : Action) :
    (s.withoutError.step? a).map withoutError = (s.step? a).map withoutError := by
  cases a
  case initGame | setViewerKey | updateStatus | setError | eventProcessed => rfl
  case startShuffle | shuffleComplete | handComplete =>
    simp only [step?, enter?_withoutError, Option.map_map]
    rfl
  case shuffleProgress current total =>
    simp only [step?, shuffleProgress?, apply_ite (Option.map withoutError)]
    rfl
  case startDealing deck =>
    simp only [step?, startDealing?, apply_ite (Option.map withoutError)]
    rfl
  case cardDealt slot =>
    simp only [step?, cardDealt?, updateCard?_withoutError, Option.map_map]
    rfl
  case shareReceived kind r =>
    simp only [step?, shareReceived?, Option.map_map]
    refine congrArg (Option.map · _) (funext fun card => ?_)
    simp only [Function.comp_apply, apply_ite withoutError]
    rfl
  case cardDecryptable slot =>
    simp only [step?, cardDecryptable?, updateCard?_withoutError, Option.map_map]
    refine congrArg (Option.map · _) (funext fun t => ?_)
    simp only [Function.comp_apply, apply_ite withoutError]
    rfl
  case cardRevealed slot face =>
    simp only [step?, cardRevealed?, updateCard?_withoutError, apply_ite (Option.map withoutError),
      Option.map_map]
    rfl

theorem step_withoutError (s : HandState) (a : Action) :
    (s.withoutError.step a).withoutError = (s.step a).withoutError := by
  have h := step?_withoutError s a
  unfold step
  cases h' : s.step? a with
  | none =>
    rw [h', Option.map_none, Option.map_eq_none_iff] at h
    rw [h]
    rfl
  | some t =>
    rw [h', Option.map_some, Option.map_eq_some_iff] at h
    obtain ⟨u, hu, hut⟩ := h
    rw [hu]
    exact hut

/-- Nothing that some actions do elsewhere depends on the error line. Induction along the actions,
the error line being wiped before each. -/
theorem run_withoutError (s : HandState) (actions : List Action) :
    (s.withoutError.run actions).withoutError = (s.run actions).withoutError := by
  induction actions generalizing s with
  | nil => rfl
  | cons a actions ih =>
    rw [run_cons, run_cons, ← ih (s.withoutError.step a), ← ih (s.step a), step_withoutError]

end HandState

/-! ## Tales -/

/-- Where the narrator stands: what it remembers, and the picture but for its error line. -/
structure Tale where
  context : HandContext
  picture : HandState
  deriving DecidableEq

namespace Tale

/-- The narrator tells an event. -/
def tell (deck : List Card) (t : Tale) (e : FeedEvent) : Tale where
  context := Narrator.contextAfter t.context (Narrator.effects deck t.context e)
  picture :=
    (t.picture.run (Narrator.actionsOf (Narrator.effects deck t.context e))).withoutError

/-- The narrator tells events one after another. -/
def tellAll (deck : List Card) (t : Tale) (events : List FeedEvent) : Tale :=
  events.foldl (tell deck) t

@[simp] theorem tellAll_cons (deck : List Card) (t : Tale) (e : FeedEvent)
    (events : List FeedEvent) :
    t.tellAll deck (e :: events) = (t.tell deck e).tellAll deck events := rfl

theorem tellAll_append (deck : List Card) (t : Tale) (xs ys : List FeedEvent) :
    t.tellAll deck (xs ++ ys) = (t.tellAll deck xs).tellAll deck ys :=
  List.foldl_append

end Tale

end MentalPoker
