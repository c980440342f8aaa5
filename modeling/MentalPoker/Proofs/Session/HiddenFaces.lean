import Mathlib.Data.List.Forall2
import MentalPoker.Proofs.Session.Picture

/-!
# Faces that stay hidden

The feed tells the faces of all hole cards that are decrypted, those of other players too. Nothing
of a face of another player ever shows: two sessions that are given the same inputs up to such
faces, and for every deal the same deck, go through the same states and do the same things, so
neither the picture, nor a status line, nor a cue, nor anything told to a listener depends on them.

## The crux

The face goes into the action that the narrator dispatches; it is dropped only by the picture, by a
test on the seat that the picture holds. So the statement for one input needs the viewer at the
seat at which the narrator expects them, and every reaction keeps them there
(`KeepsPicture.react`).
-/

namespace MentalPoker

/-! ## Inputs that differ in hidden faces -/

/-- Events that are the same, up to the face of a card of another player. -/
inductive FeedEvent.SameButHidden : FeedEvent → FeedEvent → Prop where
  | refl (e : FeedEvent) : SameButHidden e e
  | hidden (gameId handId : Nat) {seat : Fin 256} (index : Fin 2) (card card' : Card)
      (hseat : (seat.val : Int) ≠ viewerSeat) :
      SameButHidden (.holeCardDecrypted gameId handId seat index card)
        (.holeCardDecrypted gameId handId seat index card')

/-- Inputs that are the same, up to the face of a card of another player. -/
inductive SessionInput.SameButHidden : SessionInput → SessionInput → Prop where
  | refl (i : SessionInput) : SameButHidden i i
  | event {e e' : FeedEvent} (h : e.SameButHidden e') : SameButHidden (.event e) (.event e')
  | beginHand {e e' : FeedEvent} (key : Option Text) (h : e.SameButHidden e') :
      SameButHidden (.beginHand e key) (.beginHand e' key)

/-- Inputs that are the same, up to the face of a card of another player, with the same deck. -/
structure ShuffledInput.SameButHidden (i i' : ShuffledInput) : Prop where
  input : i.input.SameButHidden i'.input
  deck : i.deck = i'.deck

/-! ## One input -/

/-- The picture drops the face of a card of another seat. -/
theorem HandState.step?_cardRevealed_hidden {s : HandState} {slot : Slot}
    (h : slot.seat ≠ s.viewerSeat) (card card' : Card) :
    s.step? (.cardRevealed slot card) = s.step? (.cardRevealed slot card') := by
  simp only [step?, cardRevealed?, if_neg h]

namespace Session

theorem dispatch_hidden {s : Session} (hs : s.state.viewerSeat = viewerSeat) {slot : Slot}
    (h : slot.seat ≠ viewerSeat) (card card' : Card) :
    dispatch (.cardRevealed slot card) s = dispatch (.cardRevealed slot card') s := by
  have hseat : slot.seat ≠ s.state.viewerSeat := by rwa [hs]
  unfold dispatch
  rw [HandState.step?_cardRevealed_hidden hseat card card']

theorem event_sameButHidden {s : Session} (hs : s.state.viewerSeat = viewerSeat)
    (deck : List Card) {e e' : FeedEvent} (h : e.SameButHidden e') :
    event deck e s = event deck e' s := by
  cases h with
  | refl => rfl
  | @hidden gameId handId seat index card card' hseat =>
    -- the cue and the status line say the same, so only the action has to be compared
    have haction : dispatch (.cardRevealed ⟨seat.val, index.val⟩ card) s
        = dispatch (.cardRevealed ⟨seat.val, index.val⟩ card') s :=
      dispatch_hidden hs hseat card card'
    simp only [event, depending_apply, Narrator.effects, Narrator.holeCardDecrypted, if_neg hseat]
    simp only [followAll, List.map_cons, inOrder_cons, follow, thenDo, haction]

theorem react_sameButHidden {s : Session} (hs : s.state.viewerSeat = viewerSeat)
    (settings : SessionSettings) {i i' : SessionInput} (h : i.SameButHidden i') :
    react settings i s = react settings i' s := by
  cases h with
  | refl => rfl
  | event h => exact event_sameButHidden hs settings.deck h
  | beginHand key h =>
    simp only [react, beginHand]
    split
    · -- the key goes into the context, so the picture that decides is the same
      simp only [thenDo, modify_apply]
      rw [event_sameButHidden (by exact hs) settings.deck h]
    · exact event_sameButHidden hs settings.deck h

/-! ## Runs -/

/-- From a session with the viewer at their seat, runs over inputs that differ in hidden faces are
equal. Induction along the inputs; the viewer keeps the seat. -/
theorem runShuffled_sameButHidden (settings : SessionSettings)
    {inputs inputs' : List ShuffledInput}
    (h : List.Forall₂ ShuffledInput.SameButHidden inputs inputs') {s : Session}
    (hs : s.state.viewerSeat = viewerSeat) :
    runShuffled settings inputs s = runShuffled settings inputs' s := by
  induction h generalizing s with
  | nil => rfl
  | @cons i i' rest rest' hi _ ih =>
    have hreact : react { settings with deck := i.deck } i.input s
        = react { settings with deck := i'.deck } i'.input s := by
      rw [hi.deck]
      exact react_sameButHidden hs _ hi.input
    have hnext : (react { settings with deck := i'.deck } i'.input s).1.state.viewerSeat
        = viewerSeat :=
      KeepsPicture.react (P := fun state => state.viewerSeat = viewerSeat) rfl
        (fun _ a h => HandState.step_viewerSeat h a) _ i'.input s hs
    rw [runShuffled_cons, runShuffled_cons]
    simp only [thenDo, hreact, ih hnext]

/-- **Hidden faces do not leak.** Two sessions that are given inputs which differ only in the faces
of other players' cards are equal after every input, with picture and context, and have done the
same things outside themselves: the same cues with the same arguments, and the same pictures told
to the same listeners. Every deal has a deck of its own, the same in both sessions. -/
theorem hidden_faces_do_not_leak (settings : SessionSettings)
    {inputs inputs' : List ShuffledInput}
    (h : List.Forall₂ ShuffledInput.SameButHidden inputs inputs') (n : Nat) :
    runShuffled settings (inputs.take n) fresh = runShuffled settings (inputs'.take n) fresh :=
  runShuffled_sameButHidden settings (List.forall₂_take n h) rfl

/-- A hand in which a card of the other player is dealt and then decrypted. -/
def revealedRun (card : Card) : List ShuffledInput :=
  ShuffledInput.ofDeck Card.ordered
    [.event (.handCreated .ofTwo), .event (.gameEvent (.ofTwo 0 (.shareAt 2))),
      .event (.holeCardDecrypted 1 7 1 0 card)]

theorem hidden_faces_do_not_leak_dealt :
    List.Forall₂ ShuffledInput.SameButHidden
        (revealedRun ⟨12, .spades⟩) (revealedRun ⟨0, .hearts⟩)
      ∧ runShuffled .usual ((revealedRun ⟨12, .spades⟩).take 3) fresh
        = runShuffled .usual ((revealedRun ⟨0, .hearts⟩).take 3) fresh :=
  have hsame : List.Forall₂ ShuffledInput.SameButHidden
      (revealedRun ⟨12, .spades⟩) (revealedRun ⟨0, .hearts⟩) :=
    .cons ⟨.refl _, rfl⟩ (.cons ⟨.refl _, rfl⟩
      (.cons ⟨.event (.hidden 1 7 0 _ _ (by decide)), rfl⟩ .nil))
  ⟨hsame, hidden_faces_do_not_leak .usual hsame 3⟩

end Session

end MentalPoker
