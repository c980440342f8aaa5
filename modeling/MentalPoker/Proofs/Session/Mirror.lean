import MentalPoker.Proofs.Hand.Mirror
import MentalPoker.Proofs.Number.Bounds
import MentalPoker.Proofs.Session.Forgetting

/-!
# Picture and context of a session

A session never lets its picture and its context drift apart, whatever happens to it and in
whatever order: after each input the two agree on all that is kept twice, and what the picture
shows of the shuffle is a part of the whole.

## The architecture

* **`Agrees`**: picture and context of a session agree. The error line is left out of account, since
  the session writes it on its own.
* **`Agrees.told`**: what tells some events. All inputs of a hand that goes on do that.
* **`Agrees.react`**: one input; `Agrees.run` is the induction.
-/

namespace MentalPoker

/-- The viewer's key is given, outside the feed, with nothing but a new hand. -/
def SessionInput.keyComesWithHand : SessionInput → Bool
  | .beginHand e (some (_ :: _)) => e.kind = .handCreated
  | _ => true

namespace Session

def Agrees (s : Session) : Prop := s.state.Mirrors s.context

variable {s : Session}

theorem agrees_iff : s.Agrees ↔ s.tale.Mirrors := HandState.mirrors_withoutError.symm

theorem agrees_fresh : fresh.Agrees := HandState.mirrors_fresh

/-- What tells some events keeps picture and context in agreement. -/
theorem Agrees.told (h : s.Agrees) {t : Session} (deck : List Card) (events : List FeedEvent)
    (ht : t.tale = s.tale.tellAll deck events) : t.Agrees := by
  rw [agrees_iff] at h ⊢
  rw [ht]
  exact h.tellAll deck events

theorem Agrees.aside (h : s.Agrees) {f : Step} (hf : Aside f) : (f s).1.Agrees :=
  h.told [] [] (hf s)

theorem Agrees.continue (h : s.Agrees) (settings : SessionSettings) {i : SessionInput}
    (hi : i.continues s = true) : (react settings i s).1.Agrees :=
  h.told settings.deck _ (react_follows settings hi).tale

theorem Agrees.event (h : s.Agrees) (settings : SessionSettings) (e : FeedEvent) :
    (react settings (.event e) s).1.Agrees := by
  cases e with
  | handCreated hand => exact h.told settings.deck [.handCreated hand] (begun_tale settings hand s)
  | _ => exact h.continue settings rfl

/-- An event of which only the kind can be read: the end of a hand is told all the same. -/
theorem Agrees.kindOnly (h : s.Agrees) (settings : SessionSettings) (kind : FeedEvent.Kind) :
    (react settings (.kindOnly kind) s).1.Agrees := by
  cases kind with
  | handCreated => exact h.aside .prepareHand
  | handCompleted =>
    exact h.told settings.deck [.handCompleted 0 0]
      (tale_followAll settings.deck (.handCompleted 0 0) s)
  | _ => exact h

/-- A hand that is announced outside the feed. The viewer's key that comes with it is put into the
context alone; only the hand brings it into the picture. -/
theorem Agrees.beginHand (h : s.Agrees) (settings : SessionSettings) {e : FeedEvent}
    {key : Option Text} (hkey : (SessionInput.beginHand e key).keyComesWithHand = true) :
    (react settings (.beginHand e key) s).1.Agrees := by
  match key with
  | none => exact h.event settings e
  | some [] => exact h.event settings e
  | some (first :: rest) =>
    have hkind : e.kind = .handCreated := by
      simpa only [SessionInput.keyComesWithHand, decide_eq_true_eq] using hkey
    cases e with
    | handCreated hand =>
      have hkeyed := begun_tale settings hand
        { s with context := { s.context with viewerKey := .str (first :: rest) } }
      rw [agrees_iff]
      show (begun settings hand _).tale.Mirrors
      rw [hkeyed]
      exact Tale.mirrors_tell_handCreated rfl settings.deck hand
    | _ => cases hkind

/-- **One input** keeps picture and context in agreement. -/
theorem Agrees.react (h : s.Agrees) (settings : SessionSettings) {i : SessionInput}
    (hi : i.keyComesWithHand = true) : (react settings i s).1.Agrees := by
  have hreset : (reset s).1.Agrees := by
    rw [reset_fst]
    exact agrees_fresh
  cases i with
  | event e => exact h.event settings e
  | kindOnly kind => exact h.kindOnly settings kind
  | beginHand e key => exact h.beginHand settings hi
  | opened =>
    cases hopened : s.opened with
    | true =>
      -- nothing is left of the hand that was shown before
      rw [Session.react, opening_again hopened]
      exact agrees_fresh
    | false =>
      apply h.continue settings
      rw [SessionInput.continues, hopened]
      rfl
  | reset => exact hreset
  | close =>
    rw [Session.react, thenDo_fst]
    split
    · exact hreset
    · exact hreset
  | _ => exact h.continue settings rfl

/-- A run. Induction along the inputs. -/
theorem Agrees.run (h : s.Agrees) (settings : SessionSettings) {inputs : List SessionInput}
    (hi : ∀ i ∈ inputs, i.keyComesWithHand = true) : (run settings inputs s).1.Agrees := by
  induction inputs generalizing s with
  | nil => exact h
  | cons i inputs ih =>
    obtain ⟨hfirst, hrest⟩ := List.forall_mem_cons.mp hi
    rw [run_cons, thenDo_fst]
    exact ih (h.react settings hfirst) hrest

/-- **Picture and context stay in step.** Whatever a session went through, in whatever order, its
picture and its context agree on all that is kept twice (`HandState.Mirrors`), and the shuffle in
percent is a number from 0 to 100. A new hand may also be announced outside the feed, with the
viewer's key. -/
theorem picture_in_step_with_context (settings : SessionSettings) {inputs : List SessionInput}
    (hi : ∀ i ∈ inputs, i.keyComesWithHand = true) :
    let s := (run settings inputs fresh).1
    s.state.Mirrors s.context ∧ 0 ≤ s.state.shufflePercent ∧ s.state.shufflePercent ≤ 100 := by
  intro s
  have hagrees : s.Agrees := agrees_fresh.run settings hi
  exact ⟨hagrees, HandState.shufflePercent_mem hagrees.steps⟩

/-- A deck on which one ciphertext stands for every card. -/
def deckOfOnes : Deck := ⟨List.replicate 52 ⟨[0x31], by decide⟩, List.length_replicate⟩

/-- A hand of two players with two shuffles, announced outside the feed after another hand was
dealt; the first shuffle arrived, and a share that is ahead of the second one. -/
def halfShuffled : List SessionInput :=
  [.start, .opened, .event (.handCreated .ofTwo), .event (.gameEvent (.ofTwo 0 (.shareAt 0))),
    .beginHand (.handCreated { HandCreated.ofTwo with
      shufflerCount := some 2, shufflers_pos := by decide }) (some (text "0x1")),
    .event (.gameEvent (.ofTwo 0 (.shuffle 0 deckOfOnes deckOfOnes ⟨[0x31], by decide⟩))),
    .event (.gameEvent (.ofTwo 2 (.shareAt 0)))]

theorem picture_in_step_with_context_halfShuffled :
    let s := (run .usual halfShuffled fresh).1
    (∀ i ∈ halfShuffled, i.keyComesWithHand = true)
      ∧ s.state.phase = .shuffling ∧ s.state.shufflePercent = 50
      ∧ s.state.Mirrors s.context := by
  have hkeys : ∀ i ∈ halfShuffled, i.keyComesWithHand = true := by decide +kernel
  have hshown : (run .usual halfShuffled fresh).1.state.phase = .shuffling
      ∧ (run .usual halfShuffled fresh).1.state.shufflePercent = 50 := by decide +kernel
  exact ⟨hkeys, hshown.1, hshown.2, (picture_in_step_with_context .usual hkeys).1⟩

end Session

end MentalPoker
