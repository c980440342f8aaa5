import MentalPoker.Hand.Narrator
import MentalPoker.Proofs.Hand.Steps

/-!
# What the narrator says aside

The highest number of an envelope in the picture of a hand is moved by two actions only: a new hand
sets it back, and an envelope raises it. The narrator says the first when a hand is created and the
second as the first thing of every envelope, and neither at any other time. All else is said aside
(`Action.IsAside`). Of errors the narrator says no more than that the count of shuffles is unknown.
-/

namespace MentalPoker

/-- Actions that move the highest number of an envelope. -/
def Action.isNumbering : Action → Bool
  | initGame .. | eventProcessed _ => true
  | _ => false

/-- What is said when shuffles come that were never announced. -/
def Narrator.shufflesUnknown : Text :=
  text "Shuffle progress unavailable: shuffler count unknown"

/-- Actions that write nothing into the error line but that a count is unknown. -/
def Action.IsMild : Action → Prop
  | setError error => error = none ∨ error = some Narrator.shufflesUnknown
  | _ => True

/-- Actions that leave the highest number alone, and write no other error. -/
def Action.IsAside (a : Action) : Prop := a.isNumbering = false ∧ a.IsMild

namespace HandState

theorem step_lastSeqId_of_not_isNumbering {a : Action} (h : a.isNumbering = false)
    (s : HandState) : (s.step a).lastSeqId = s.lastSeqId := by
  rw [step_lastSeqId]
  cases a
  case initGame | eventProcessed => cases h
  all_goals rfl

theorem run_lastSeqId_of_not_isNumbering {actions : List Action}
    (h : ∀ a ∈ actions, a.isNumbering = false) (s : HandState) :
    (s.run actions).lastSeqId = s.lastSeqId := by
  induction actions generalizing s with
  | nil => rfl
  | cons a actions ih =>
    obtain ⟨ha, hrest⟩ := List.forall_mem_cons.mp h
    rw [run_cons, ih hrest, step_lastSeqId_of_not_isNumbering ha]

end HandState

namespace Narrator

/-! ## The actions among the effects -/

def Effect.action? : Effect → Option Action
  | dispatch a => some a
  | _ => none

/-- What the effects do to the picture of the hand. -/
def actionsOf (effects : List Effect) : List Action := effects.filterMap Effect.action?

@[simp] theorem actionsOf_nil : actionsOf [] = [] := rfl

@[simp] theorem actionsOf_remember (c : HandContext) (effects : List Effect) :
    actionsOf (.remember c :: effects) = actionsOf effects := rfl

@[simp] theorem actionsOf_dispatch (a : Action) (effects : List Effect) :
    actionsOf (.dispatch a :: effects) = a :: actionsOf effects := rfl

@[simp] theorem actionsOf_cue (c : Cue) (effects : List Effect) :
    actionsOf (.cue c :: effects) = actionsOf effects := rfl

/-- What is remembered after the effects: the last context among them, if any. -/
def contextAfter (c : HandContext) (effects : List Effect) : HandContext :=
  effects.foldl (fun c e => match e with | .remember c' => c' | _ => c) c

/-- Effects that leave the highest number alone. -/
def LeavesNumber (effects : List Effect) : Prop :=
  ∀ a ∈ actionsOf effects, a.isNumbering = false

theorem LeavesNumber.run {effects : List Effect} (h : LeavesNumber effects) (s : HandState) :
    (s.run (actionsOf effects)).lastSeqId = s.lastSeqId :=
  HandState.run_lastSeqId_of_not_isNumbering h s

/-- Effects that write nothing into the error line but that a count is unknown. -/
def IsMild (effects : List Effect) : Prop := ∀ a ∈ actionsOf effects, a.IsMild

/-- Effects that are said aside. -/
def IsAside (effects : List Effect) : Prop := ∀ a ∈ actionsOf effects, a.IsAside

theorem isAside_append {xs ys : List Effect} : IsAside (xs ++ ys) ↔ IsAside xs ∧ IsAside ys := by
  simp only [IsAside, actionsOf, List.filterMap_append, List.forall_mem_append]

theorem IsAside.leavesNumber {effects : List Effect} (h : IsAside effects) :
    LeavesNumber effects := fun a ha => (h a ha).1

theorem IsAside.isMild {effects : List Effect} (h : IsAside effects) : IsMild effects :=
  fun a ha => (h a ha).2

/-! ## Notices -/

theorem isAside_shuffled (c : HandContext) : IsAside (shuffled c) := by
  simp only [shuffled]
  cases c.shuffleTotal with
  | none =>
    simp only
    split <;> simp [IsAside, Action.IsAside, Action.isNumbering, Action.IsMild, shufflesUnknown]
  | some total =>
    refine isAside_append.mpr ⟨?_, ?_⟩
    · simp [IsAside, Action.IsAside, Action.isNumbering, Action.IsMild]
    · split <;> simp [IsAside, Action.IsAside, Action.isNumbering, Action.IsMild]

theorem isAside_dealt (players : Nat) : IsAside (dealt players) := by
  intro a ha
  simp only [actionsOf, dealt, List.mem_filterMap, List.mem_flatMap] at ha
  obtain ⟨e, ⟨slot, _, he⟩, hea⟩ := ha
  simp only [List.mem_cons, List.not_mem_nil, or_false] at he
  rcases he with rfl | rfl
  · cases hea
    exact ⟨rfl, trivial⟩
  · cases hea

theorem isAside_dealingStarted (deck : List Card) (c : HandContext) :
    IsAside (dealingStarted deck c) := by
  simp only [dealingStarted]
  refine isAside_append.mpr
    ⟨isAside_append.mpr ⟨isAside_append.mpr ⟨?_, ?_⟩, ?_⟩, isAside_dealt _⟩
  · simp [IsAside]
  · split <;> simp [IsAside, Action.IsAside, Action.isNumbering, Action.IsMild]
  · simp [IsAside, Action.IsAside, Action.isNumbering, Action.IsMild]

theorem isAside_shareReceived (c : HandContext) (kind : ShareKind) (actor : Actor)
    (s : Share) : IsAside (shareReceived c kind actor s) := by
  unfold shareReceived
  cases shareTarget? c s.position <;>
    simp [IsAside, Action.IsAside, Action.isNumbering, Action.IsMild]

/-- All that is neither a hand nor an envelope is told aside. -/
theorem isAside_effects (deck : List Card) (c : HandContext) {e : FeedEvent}
    (hhand : e.kind ≠ .handCreated) (hgame : e.kind ≠ .gameEvent) :
    IsAside (effects deck c e) := by
  cases e with
  | handCreated => exact absurd rfl hhand
  | gameEvent => exact absurd rfl hgame
  | playerCreated gameId seat displayName publicKey =>
    simp only [effects, playerCreated]
    split <;> simp [IsAside, Action.IsAside, Action.isNumbering, Action.IsMild, say]
  | communityDecrypted | cardDecryptable | holeCardDecrypted | handCompleted =>
    simp [IsAside, Action.IsAside, effects, communityDecrypted, cardDecryptable, holeCardDecrypted,
      handCompleted, say, Action.isNumbering, Action.IsMild]

theorem isAside_effectsOfKind (c : HandContext) (kind : FeedEvent.Kind) :
    IsAside (effectsOfKind c kind) := by
  cases kind <;>
    simp [IsAside, Action.IsAside, effectsOfKind, handCompleted, say, Action.isNumbering,
      Action.IsMild]

/-! ## Hands and envelopes -/

/-- An envelope raises the highest number first, and all else of it is said aside. -/
theorem envelope_eq (deck : List Card) (c : HandContext) (f : Finalized) :
    ∃ rest, envelope deck c f = .dispatch (.eventProcessed f.seqId) :: rest ∧ IsAside rest := by
  refine ⟨_, rfl, ?_⟩
  cases f.message with
  | shuffle => exact isAside_shuffled c
  | blinding share =>
    refine isAside_append.mpr ⟨?_, isAside_shareReceived _ _ _ _⟩
    split
    · simp [IsAside]
    · exact isAside_dealingStarted deck c
  | partialUnblinding share => exact isAside_shareReceived _ _ _ _
  | bet | showdown => simp [IsAside]

/-- A new hand sets the highest number back, and all else of it is said aside. -/
theorem handCreated_eq (c : HandContext) (hand : HandCreated) :
    ∃ players key rest, handCreated c hand
      = .remember (contextOfHand c hand)
        :: .dispatch (.initGame hand.gameId hand.handId players key) :: rest ∧ IsAside rest := by
  refine ⟨_, _, _, rfl, ?_⟩
  cases htotal : hand.shufflerCount <;>
    simp [contextOfHand, htotal, IsAside, Action.IsAside, Action.isNumbering, Action.IsMild, say]

/-- The highest number after an envelope. -/
theorem run_envelope_lastSeqId (deck : List Card) (c : HandContext) (f : Finalized)
    (s : HandState) :
    (s.run (actionsOf (envelope deck c f))).lastSeqId = max s.lastSeqId f.seqId := by
  obtain ⟨rest, heq, hrest⟩ := envelope_eq deck c f
  rw [heq, actionsOf_dispatch, HandState.run_cons, hrest.leavesNumber.run,
    HandState.step_lastSeqId]

/-- A new hand sets the highest number back. -/
theorem run_handCreated_lastSeqId (c : HandContext) (hand : HandCreated) (s : HandState) :
    (s.run (actionsOf (handCreated c hand))).lastSeqId = -1 := by
  obtain ⟨players, key, rest, heq, hrest⟩ := handCreated_eq c hand
  rw [heq, actionsOf_remember, actionsOf_dispatch, HandState.run_cons, hrest.leavesNumber.run,
    HandState.step_lastSeqId]

theorem isMild_envelope (deck : List Card) (c : HandContext) (f : Finalized) :
    IsMild (envelope deck c f) := by
  obtain ⟨rest, heq, hrest⟩ := envelope_eq deck c f
  rw [heq]
  exact List.forall_mem_cons.mpr ⟨trivial, hrest.isMild⟩

/-- **The narrator** says of errors only that the count of shuffles is unknown. -/
theorem isMild_effects (deck : List Card) (c : HandContext) (e : FeedEvent) :
    IsMild (effects deck c e) := by
  cases e with
  | gameEvent f => exact isMild_envelope deck c f
  | handCreated hand =>
    obtain ⟨players, key, rest, heq, hrest⟩ := handCreated_eq c hand
    rw [effects, heq]
    exact List.forall_mem_cons.mpr ⟨trivial, hrest.isMild⟩
  | _ => exact (isAside_effects deck c (fun h => by cases h) (fun h => by cases h)).isMild

end Narrator

end MentalPoker
