import MentalPoker.Proofs.Hand.Narration
import MentalPoker.Session.Reaction

/-!
# Parts of a session's reactions

A reaction is put together from parts, and most parts touch little of the session. The parts that
carry the narrator's words touch the picture and the context only, and what they make of the two
can be said in one line.

## The architecture

* **`inOrder_append`**, **`run_append`**: how series of parts and of inputs join.
* **`run_eq_runShuffled`**: runs with one deck, among those in which every deal has its own.
* **`followAll_fst`**: all that the narrator says, as a run of actions on the picture.
* **`applyReady_frame`**: released envelopes touch the picture and the context, and are applied in
  the order of their release.
-/

namespace MentalPoker

/-- The envelope that an effect applies. -/
def SessionEffect.applied? : SessionEffect → Option Finalized
  | applied f => some f
  | _ => none

/-- The envelopes that some effects apply, in order. -/
def SessionEffect.appliedIn (effects : List SessionEffect) : List Finalized :=
  effects.filterMap applied?

namespace SessionEffect

@[simp] theorem appliedIn_nil : appliedIn [] = [] := rfl

@[simp] theorem appliedIn_append (xs ys : List SessionEffect) :
    appliedIn (xs ++ ys) = appliedIn xs ++ appliedIn ys :=
  List.filterMap_append

end SessionEffect

namespace Session

open SessionEffect (appliedIn)

/-! ## Joining parts -/

@[simp] theorem skip_apply (s : Session) : skip s = (s, []) := rfl

@[simp] theorem modify_apply (f : Session → Session) (s : Session) : modify f s = (f s, []) := rfl

@[simp] theorem emit_apply (e : SessionEffect) (s : Session) : emit e s = (s, [e]) := rfl

@[simp] theorem depending_apply (f : Session → Step) (s : Session) : depending f s = f s s := rfl

@[simp] theorem thenDo_fst (f g : Step) (s : Session) : (thenDo f g s).1 = (g (f s).1).1 := rfl

@[simp] theorem thenDo_snd (f g : Step) (s : Session) :
    (thenDo f g s).2 = (f s).2 ++ (g (f s).1).2 := rfl

theorem inOrder_append (fs gs : List Step) (s : Session) :
    inOrder (fs ++ gs) s = thenDo (inOrder fs) (inOrder gs) s := by
  induction fs generalizing s with
  | nil => rfl
  | cons f fs ih =>
    simp only [List.cons_append, inOrder_cons, thenDo, ih, List.append_assoc]

theorem thenDo_assoc (f g h : Step) : thenDo (thenDo f g) h = thenDo f (thenDo g h) := by
  funext s
  simp only [thenDo, List.append_assoc]

/-- Three parts, as most reactions have. -/
theorem inOrder_three (f g h : Step) : inOrder [f, g, h] = thenDo f (thenDo g h) := by
  funext s
  simp only [inOrder_cons, inOrder_nil, thenDo, skip_apply, List.append_nil]

theorem run_append (settings : SessionSettings) (xs ys : List SessionInput) (s : Session) :
    run settings (xs ++ ys) s = thenDo (run settings xs) (run settings ys) s := by
  simp only [run, List.map_append, inOrder_append]

theorem run_cons (settings : SessionSettings) (x : SessionInput) (xs : List SessionInput)
    (s : Session) :
    run settings (x :: xs) s = thenDo (react settings x) (run settings xs) s := rfl

theorem runShuffled_cons (settings : SessionSettings) (x : ShuffledInput)
    (xs : List ShuffledInput) (s : Session) :
    runShuffled settings (x :: xs) s
      = thenDo (react { settings with deck := x.deck } x.input) (runShuffled settings xs) s := rfl

/-- A run with one deck for every deal is a run in which all inputs bring that deck. -/
theorem run_eq_runShuffled (settings : SessionSettings) (inputs : List SessionInput) :
    run settings inputs = runShuffled settings (ShuffledInput.ofDeck settings.deck inputs) := by
  simp only [run, runShuffled, ShuffledInput.ofDeck, List.map_map, Function.comp_def]

/-! ## What the narrator says -/

theorem appliedIn_assign (state : HandState) (s : Session) :
    appliedIn (assign state s).2 = [] := by
  simp only [assign, appliedIn, List.filterMap_cons, SessionEffect.applied?,
    List.filterMap_map, List.filterMap_eq_nil_iff]
  intro l _
  rfl

/-- An action that does not fit leaves the session as it is. -/
theorem dispatch_fst (a : Action) (s : Session) :
    (dispatch a s).1 = { s with state := s.state.step a } := by
  unfold dispatch HandState.step
  cases s.state.step? a with
  | none => rfl
  | some state => rfl

theorem appliedIn_dispatch (a : Action) (s : Session) : appliedIn (dispatch a s).2 = [] := by
  unfold dispatch
  cases s.state.step? a with
  | none => rfl
  | some state => exact appliedIn_assign state s

/-- **All that the narrator says**: the actions run on the picture, and the last context stays. -/
theorem followAll_fst (effects : List Narrator.Effect) (s : Session) :
    (followAll effects s).1 = { s with
      state := s.state.run (Narrator.actionsOf effects)
      context := Narrator.contextAfter s.context effects } := by
  induction effects generalizing s with
  | nil => rfl
  | cons e effects ih =>
    show (followAll effects (follow e s).1).1 = _
    rw [ih]
    cases e with
    | remember c => rfl
    | cue c => rfl
    | dispatch a =>
      simp only [follow, dispatch_fst]
      rfl

theorem appliedIn_followAll (effects : List Narrator.Effect) (s : Session) :
    appliedIn (followAll effects s).2 = [] := by
  induction effects generalizing s with
  | nil => rfl
  | cons e effects ih =>
    show appliedIn ((follow e s).2 ++ (followAll effects (follow e s).1).2) = []
    rw [SessionEffect.appliedIn_append, ih, List.append_nil]
    cases e with
    | remember c => rfl
    | cue c => rfl
    | dispatch a => exact appliedIn_dispatch a s

/-! ## Envelopes that are applied -/

theorem applyOne_fst (deck : List Card) (f : Finalized) (s : Session) :
    (applyOne deck f s).1 = { s with
      state := s.state.run (Narrator.actionsOf (Narrator.envelope deck s.context f))
      context := Narrator.contextAfter s.context (Narrator.envelope deck s.context f) } :=
  followAll_fst (Narrator.envelope deck s.context f) s

theorem appliedIn_applyOne (deck : List Card) (f : Finalized) (s : Session) :
    appliedIn (applyOne deck f s).2 = [f] := by
  show appliedIn ([.applied f] ++ (followAll (Narrator.envelope deck s.context f) s).2) = [f]
  rw [SessionEffect.appliedIn_append, appliedIn_followAll, List.append_nil]
  rfl

theorem applyReady_cons (deck : List Card) (entry : Int × Finalized)
    (ready : List (Int × Finalized)) (s : Session) :
    applyReady deck (entry :: ready) s
      = thenDo (applyOne deck entry.2) (applyReady deck ready) s := rfl

/-- Released envelopes touch the picture and the context only. -/
theorem applyReady_frame (deck : List Card) (ready : List (Int × Finalized)) (s : Session) :
    ∃ state context,
      (applyReady deck ready s).1 = { s with state := state, context := context } := by
  induction ready generalizing s with
  | nil => exact ⟨s.state, s.context, rfl⟩
  | cons entry ready ih =>
    obtain ⟨state, context, h⟩ := ih (applyOne deck entry.2 s).1
    refine ⟨state, context, ?_⟩
    rw [applyReady_cons, thenDo_fst, h, applyOne_fst]

/-- Released envelopes are applied in the order of their release. -/
theorem appliedIn_applyReady (deck : List Card) (ready : List (Int × Finalized)) (s : Session) :
    appliedIn (applyReady deck ready s).2 = ready.map Prod.snd := by
  induction ready generalizing s with
  | nil => rfl
  | cons entry ready ih =>
    rw [applyReady_cons, thenDo_snd, SessionEffect.appliedIn_append, appliedIn_applyOne, ih]
    rfl

end Session

/-! ## A hand to look at

A hand of two players, and envelopes of it, for statements about single runs. -/

/-- Numerals stand for seats and positions. The zero is the one that numerals are read with. -/
@[instance] theorem neZero_byte : @NeZero Nat (@Zero.ofOfNat0 Nat (instOfNatNat 0)) 256 :=
  ⟨by decide⟩

/-- Numerals stand for the two cards of a seat. -/
@[instance] theorem neZero_pair : @NeZero Nat (@Zero.ofOfNat0 Nat (instOfNatNat 0)) 2 :=
  ⟨by decide⟩

/-- The announcement of a hand of two players with one shuffle. -/
def HandCreated.ofTwo : HandCreated where
  gameId := 1
  handId := 7
  playerCount := 2
  shufflerCount := some 1
  snapshot := none
  players_pos := by decide
  players_le := by decide
  shufflers_pos := by simp

/-- An envelope of that hand, made by nobody in particular. -/
def Finalized.ofTwo (seqId : Nat) (message : Message) : Finalized where
  envelope := {
    handId := 7
    gameId := 1
    actor := ⟨.none, none, none, none, rfl⟩
    nonce := 0
    publicKey := ⟨[0x30], by decide⟩
    message := ⟨message, ⟨[0x30], by decide⟩, []⟩ }
  status := ⟨true, none, rfl⟩
  phase := .dealing
  seqId := seqId
  createdAt := none

/-- A blinding share for the card at a deck position. -/
def Message.shareAt (position : Fin 256) : Message :=
  .blinding ⟨position, ⟨[0x30], by decide⟩, ⟨[0x30], by decide⟩⟩

/-- Settings with a transport, in which three rounds are a stall. -/
def SessionSettings.usual : SessionSettings := ⟨true, 3, Card.ordered⟩

end MentalPoker
