import MentalPoker.Proofs.Hand.Layout
import MentalPoker.Proofs.Hand.Mirror

/-!
# Turns of a narrator

Whoever takes the actions of a narrator may refuse some. The first that is refused cuts an event
short: what was remembered before it stays remembered, and the rest of the event is lost. A turn is
an event with what is refused of it, or a reset.

## The architecture

* **`actionsOf_perform_beginning`**, **`perform_context`**: what an event that is cut short leaves.
* **`Turn`**, **`Turn.playAll`**: what a narrator goes through, and what it said.
* **`exists_refusal`**: no event brings an action twice (`nodup_actionsOf_effects`), so the refusal
  of one action cuts an event at its place, and every place can be cut.
-/

namespace MentalPoker

/-! ## Effects that are cut short -/

namespace Narrator

theorem perform_dispatch_refused {refuses : Action → Bool} {a : Action} (ha : refuses a = true)
    (c : HandContext) (rest : List Effect) :
    perform refuses c (.dispatch a :: rest) = (c, [.dispatch a]) :=
  if_pos ha

theorem perform_dispatch_taken {refuses : Action → Bool} {a : Action} (ha : refuses a = false)
    (c : HandContext) (rest : List Effect) :
    perform refuses c (.dispatch a :: rest)
      = ((perform refuses c rest).1, .dispatch a :: (perform refuses c rest).2) :=
  if_neg (by simp [ha])

/-- What is done is the beginning of what was to be done. Induction along the effects. -/
theorem actionsOf_perform_beginning (refuses : Action → Bool) (c : HandContext)
    (effects : List Effect) :
    actionsOf (perform refuses c effects).2 <+: actionsOf effects := by
  induction effects generalizing c with
  | nil => exact List.nil_prefix
  | cons e rest ih =>
    cases e with
    | remember c' => exact ih c'
    | cue cue => exact ih c
    | dispatch a =>
      cases ha : refuses a with
      | true =>
        rw [perform_dispatch_refused ha]
        exact ⟨actionsOf rest, rfl⟩
      | false =>
        rw [perform_dispatch_taken ha]
        exact List.prefix_cons_inj a |>.mpr (ih c)

/-- The context afterwards is the one before, or one that was to be remembered. -/
theorem perform_context (refuses : Action → Bool) (c : HandContext) (effects : List Effect) :
    (perform refuses c effects).1 = c ∨ .remember (perform refuses c effects).1 ∈ effects := by
  induction effects generalizing c with
  | nil => exact .inl rfl
  | cons e rest ih =>
    cases e with
    | remember c' =>
      rcases ih c' with hsame | hlater
      · exact .inr (List.mem_cons.mpr (.inl (congrArg Effect.remember hsame)))
      · exact .inr (List.mem_cons_of_mem _ hlater)
    | cue cue => exact (ih c).imp_right (List.mem_cons_of_mem _)
    | dispatch a =>
      cases ha : refuses a with
      | true =>
        rw [perform_dispatch_refused ha]
        exact .inl rfl
      | false =>
        rw [perform_dispatch_taken ha]
        exact (ih c).imp_right (List.mem_cons_of_mem _)

/-- When nothing is refused, all is done and remembered. -/
theorem perform_taken {refuses : Action → Bool} (h : ∀ a, refuses a = false) (c : HandContext)
    (effects : List Effect) :
    (perform refuses c effects).1 = contextAfter c effects
      ∧ actionsOf (perform refuses c effects).2 = actionsOf effects := by
  induction effects generalizing c with
  | nil => exact ⟨rfl, rfl⟩
  | cons e rest ih =>
    cases e with
    | remember c' => exact ih c'
    | cue cue => exact ih c
    | dispatch a =>
      rw [perform_dispatch_taken (h a)]
      exact ⟨(ih c).1, congrArg (a :: ·) (ih c).2⟩

end Narrator

/-! ## Turns -/

/-- What a narrator goes through: it is given an event, of which some actions may be refused, or it
is reset. A narrator that is new stands as one that was just reset. -/
inductive Turn where
  | event (e : FeedEvent) (deck : List Card) (refuses : Action → Bool)
  | reset

namespace Turn

/-- A hand begins. -/
def opens : Turn → Bool
  | event e _ _ => e.kind = .handCreated
  | reset => true

/-- No action is refused. -/
def IsTaken : Turn → Prop
  | event _ _ refuses => ∀ a, refuses a = false
  | reset => True

def isShuffle : Turn → Bool
  | event e _ _ => e.isShuffle
  | reset => false

/-- The count of players of the hand that begins. -/
def players : Turn → Nat
  | event (.handCreated hand) _ _ => hand.playerCount
  | _ => usualPlayers

/-- The count of shuffles that is announced with the hand. -/
def total : Turn → Option Nat
  | event (.handCreated hand) _ _ => hand.shufflerCount
  | _ => none

/-- What is remembered after a turn, and the actions that were said, the refused one among them. -/
def play (c : HandContext) : Turn → HandContext × List Action
  | event e deck refuses =>
    let (c, done) := Narrator.perform refuses c (Narrator.effects deck c e)
    (c, Narrator.actionsOf done)
  | reset => (.fresh, [])

/-- Turns one after another. -/
def playAll (c : HandContext) : List Turn → HandContext × List Action
  | [] => (c, [])
  | t :: turns => ((playAll (t.play c).1 turns).1, (t.play c).2 ++ (playAll (t.play c).1 turns).2)

theorem play_of_isTaken {e : FeedEvent} {deck : List Card} {refuses : Action → Bool}
    (h : (event e deck refuses).IsTaken) (c : HandContext) :
    (event e deck refuses).play c = (Narrator.contextAfter c (Narrator.effects deck c e),
      Narrator.actionsOf (Narrator.effects deck c e)) :=
  Prod.ext_iff.mpr (Narrator.perform_taken h c (Narrator.effects deck c e))

end Turn

/-! ## Every cut is a refusal -/

namespace Narrator

/-- What is said of a new hand. -/
theorem actionsOf_handCreated (c : HandContext) (hand : HandCreated) :
    actionsOf (handCreated c hand)
      = .initGame hand.gameId hand.handId hand.playerCount (contextOfHand c hand).viewerKey
        :: .startShuffle :: (hand.shufflerCount.map fun total => .shuffleProgress 0 total).toList
        ++ [.updateStatus (text "Hand started - shuffling deck...")] := by
  have hcontext : (contextOfHand c hand).shuffleTotal = hand.shufflerCount := rfl
  simp only [handCreated, hcontext]
  cases hand.shufflerCount <;> rfl

theorem nodup_actionsOf_shuffled (c : HandContext) : (actionsOf (shuffled c)).Nodup := by
  cases htotal : c.shuffleTotal with
  | none =>
    simp only [shuffled, htotal]
    split <;> simp
  | some total =>
    simp only [shuffled, htotal]
    split <;> simp

theorem nodup_actionsOf_dealingStarted (deck : List Card) (c : HandContext) :
    (actionsOf (dealingStarted deck c)).Nodup := by
  have hcards : ((dealOrder c.playerCount).map Action.cardDealt).Nodup :=
    (nodup_dealOrder c.playerCount).map fun _ _ h => Action.cardDealt.inj h
  rw [actionsOf_dealingStarted]
  cases c.shuffleCompleted <;> simp [hcards]

/-- A share says one thing at most, and nothing that the deal says. -/
theorem actionsOf_shareReceived (c : HandContext) (kind : ShareKind) (actor : Actor) (s : Share) :
    actionsOf (shareReceived c kind actor s) = []
      ∨ ∃ receipt, actionsOf (shareReceived c kind actor s) = [.shareReceived kind receipt] := by
  unfold shareReceived
  cases shareTarget? c s.position with
  | none => exact .inl rfl
  | some slot => exact .inr ⟨_, rfl⟩

theorem nodup_actionsOf_envelope (deck : List Card) (c : HandContext) (f : Finalized) :
    (actionsOf (envelope deck c f)).Nodup := by
  have hshare (kind : ShareKind) (share : Share) :
      (actionsOf (shareReceived c kind f.envelope.actor share)).Nodup := by
    obtain hnone | ⟨receipt, hone⟩ := actionsOf_shareReceived c kind f.envelope.actor share
    · rw [hnone]
      exact List.nodup_nil
    · rw [hone]
      exact List.nodup_singleton _
  obtain ⟨rest, heq, haside⟩ := envelope_eq deck c f
  have hrest : (actionsOf rest).Nodup := by
    unfold envelope at heq
    obtain ⟨-, rfl⟩ := List.cons.inj heq
    cases f.message with
    | shuffle => exact nodup_actionsOf_shuffled c
    | blinding share =>
      simp only [actionsOf_append]
      split
      · exact hshare .blinding share
      · refine List.nodup_append.mpr
          ⟨nodup_actionsOf_dealingStarted deck c, hshare .blinding share, ?_⟩
        -- the deal brings no share
        rintro a hdeal _ hagain rfl
        obtain hnone | ⟨receipt, hone⟩ := actionsOf_shareReceived c .blinding f.envelope.actor share
        · rw [hnone] at hagain
          cases hagain
        · rw [hone, List.mem_singleton] at hagain
          rw [hagain, actionsOf_dealingStarted] at hdeal
          cases hover : c.shuffleCompleted <;> simp [hover] at hdeal
    | partialUnblinding share => exact hshare .unblinding share
    | bet | showdown => exact List.nodup_nil
  rw [heq, actionsOf_dispatch, List.nodup_cons]
  refine ⟨fun hagain => ?_, hrest⟩
  -- the number is told first, and never aside
  exact absurd (haside _ hagain).1 (by simp [Action.isNumbering])

/-- **No event brings an action twice.** -/
theorem nodup_actionsOf_effects (deck : List Card) (c : HandContext) (e : FeedEvent) :
    (actionsOf (effects deck c e)).Nodup := by
  cases e with
  | gameEvent f => exact nodup_actionsOf_envelope deck c f
  | handCreated hand =>
    rw [effects, actionsOf_handCreated]
    cases hand.shufflerCount <;> simp
  | playerCreated gameId seat displayName publicKey =>
    simp only [effects, playerCreated]
    split <;> simp [say]
  | communityDecrypted | cardDecryptable | holeCardDecrypted | handCompleted =>
    simp [effects, communityDecrypted, cardDecryptable, holeCardDecrypted, handCompleted, say]

/-- The refusal of one action cuts there, when it did not come before. Induction along the
steps. -/
theorem actionsOf_perform_of_refused {steps : List Effect} {before after : List Action} {a : Action}
    (h : actionsOf steps = before ++ a :: after) (hnew : a ∉ before) (c : HandContext) :
    actionsOf (perform (fun b => b = a) c steps).2 = before ++ [a] := by
  induction steps generalizing before c with
  | nil => simp at h
  | cons step rest ih =>
    cases step with
    | remember c' => exact ih h hnew c'
    | cue cue => exact ih h hnew c
    | dispatch b =>
      rw [actionsOf_dispatch] at h
      cases before with
      | nil =>
        obtain ⟨rfl, -⟩ := List.cons.inj h
        rw [perform_dispatch_refused (by simp)]
        rfl
      | cons first before =>
        obtain ⟨rfl, hrest⟩ := List.cons.inj h
        obtain ⟨hfirst, hbefore⟩ := List.ne_and_not_mem_of_not_mem_cons hnew
        rw [perform_dispatch_taken (by simpa using hfirst.symm)]
        exact congrArg (b :: ·) (ih hrest hbefore c)

/-- **Any place can be cut.** -/
theorem exists_refusal (deck : List Card) (c : HandContext) (e : FeedEvent)
    {before after : List Action} {a : Action}
    (h : actionsOf (effects deck c e) = before ++ a :: after) :
    ∃ refuses, actionsOf (perform refuses c (effects deck c e)).2 = before ++ [a] := by
  have hnodup := nodup_actionsOf_effects deck c e
  rw [h, List.nodup_append] at hnodup
  have hnew : a ∉ before := fun hmem => hnodup.2.2 a hmem a List.mem_cons_self rfl
  exact ⟨_, actionsOf_perform_of_refused h hnew c⟩

end Narrator

end MentalPoker
