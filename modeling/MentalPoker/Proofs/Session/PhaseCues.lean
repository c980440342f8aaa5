import MentalPoker.Proofs.Hand.Mirror
import MentalPoker.Proofs.Session.Onlooker

/-!
# Phases as they are announced

The narrator announces the phases of a hand by his own flags, while the picture enters a phase only
from the one before it and passes over what does not fit. So the two can part: the end of a hand is
announced whenever it is told, and the deal with the first blinding share, whatever the picture
shows.

## The crux

The narrator takes the shuffle to be over only when he has said so, and a picture that hears it is
not left shuffling (`HandState.ShufflesInTime`). So when he announces the deal, the picture may show
a hand that did not begin, or one that is complete, but never a shuffle that goes on.

## The architecture

* **`Announcement`**, **`phaseWriter`**: the announcements of a run, each with the phase that is
  shown at that time.
* **`announcedBy`**: what is announced when an event is told, and what the picture shows then.
* **`HandState.ShufflesInTime`**: the shuffle that is shown; `ShufflesInTime.event` is one event.
* **`Onlooker.View.announced_effects`**: the record after an event, one case for each kind.
* **`Onlooker.View.Recorded`**: what ties the record to the session, after any inputs.
-/

namespace MentalPoker

/-! ## Announcements -/

/-- A phase that is announced, and the phase that the picture shows at that time. -/
structure Announcement where
  phase : HandPhase
  shown : HandPhase
  deriving DecidableEq

/-- The deal is announced of a hand that did not begin or is complete, or the end of one that did
not begin or is still shuffled. -/
def Announcement.isStray : Announcement → Bool
  | ⟨.dealing, .idle⟩ | ⟨.dealing, .complete⟩ | ⟨.complete, .idle⟩ | ⟨.complete, .shuffling⟩ => true
  | _ => false

/-- The phase that was shown last, and the announcements so far. -/
structure PhaseRecord where
  shown : HandPhase
  announced : List Announcement

/-- Somebody who writes the announcements down. -/
def phaseWriter : Onlooker PhaseRecord where
  changed r state := { r with shown := state.phase }
  applied r _ := r
  cue r
    | .phaseChange phase => { r with announced := r.announced ++ [⟨phase, r.shown⟩] }
    | _ => r

/-- The announcements among the effects of a session that shows a phase at first. -/
def announcements (shown : HandPhase) (effects : List SessionEffect) : List Announcement :=
  (phaseWriter.seesAll ⟨shown, []⟩ effects).announced

/-- What is announced when an event is told while a phase is shown. -/
def announcedBy (c : HandContext) (shown : HandPhase) : FeedEvent → List Announcement
  | .handCreated _ => [⟨.shuffling, .shuffling⟩]
  | .handCompleted .. => [⟨.complete, if shown = .dealing then .complete else shown⟩]
  | .gameEvent f =>
    match f.message with
    | .blinding _ =>
      if c.dealingStarted then [] else [⟨.dealing, if shown = .shuffling then .dealing else shown⟩]
    | _ => []
  | _ => []

theorem announcedBy_cases (c : HandContext) (shown : HandPhase) (e : FeedEvent) :
    ∀ a ∈ announcedBy c shown e, a.phase = a.shown ∨ a.isStray = true := by
  cases e with
  | handCreated | handCompleted => cases shown <;> simp [announcedBy, Announcement.isStray]
  | gameEvent f =>
    simp only [announcedBy]
    cases f.message with
    | blinding share => cases c.dealingStarted <;> cases shown <;> simp [Announcement.isStray]
    | _ => simp
  | _ => simp [announcedBy]

/-! ## The shuffle that is shown -/

namespace HandState

variable {c : HandContext} {s : HandState}

/-- A shuffle that is shown is not over for the narrator. -/
def ShufflesInTime (c : HandContext) (s : HandState) : Prop :=
  s.phase = .shuffling → c.shuffleCompleted = false

/-- The phase after some actions is that after the telling ones among them. -/
theorem run_telling_phase (s : HandState) (actions : List Action) :
    (s.run actions).phase = (s.run (telling actions)).phase :=
  (outlines_run (.refl s) actions).phase

/-- The deal moves only a hand that is shuffled to another phase. -/
theorem step_startDealing_phase (h : s.phase ≠ .shuffling) (deck : List Card) :
    (s.step (.startDealing deck)).phase = s.phase := by
  rw [step_phase]
  exact if_neg fun hboth => h hboth.2

/-- The phase when the deal has begun: the shuffle is over by then. -/
theorem ShufflesInTime.phase_of_deal (h : s.ShufflesInTime c) (deck : List Card) :
    (s.run ((if !c.shuffleCompleted then [.shuffleComplete] else []) ++ [.startDealing deck])).phase
      = if s.phase = .shuffling then .dealing else s.phase := by
  obtain ⟨status, hrun⟩ := run_shuffleComplete_eq s (!c.shuffleCompleted)
  have hover : (s.run (if !c.shuffleCompleted then [.shuffleComplete] else [])).phase
      = if s.phase = .shuffling then .dealing else s.phase := by
    rw [hrun]
    by_cases hshuffling : s.phase = .shuffling
    · simp [hshuffling, h hshuffling]
    · simp [hshuffling]
  have hends : (s.run (if !c.shuffleCompleted then [.shuffleComplete] else [])).phase
      ≠ .shuffling := by
    rw [hover]
    split
    · decide
    · assumption
  rw [run_concat, step_startDealing_phase hends, hover]

/-- One more shuffle, which may be the last. -/
theorem ShufflesInTime.shuffled (h : s.ShufflesInTime c) :
    ((s.run (Narrator.actionsOf (Narrator.shuffled c))).ShufflesInTime
      (Narrator.contextAfter c (Narrator.shuffled c))) := by
  obtain ⟨reported, hcontext⟩ := Narrator.contextAfter_shuffled c
  obtain ⟨status, hrun⟩ := run_shuffleComplete_eq s (Narrator.endsShuffle c)
  rw [ShufflesInTime, run_telling_phase, Narrator.telling_shuffled, hrun, hcontext]
  intro hphase
  cases hends : Narrator.endsShuffle c with
  | false =>
    simp only [hends, Bool.false_eq_true, false_and, if_false] at hphase
    rw [h hphase]
    rfl
  | true =>
    -- the last shuffle takes a picture that is shuffling to the deal
    simp only [hends, true_and] at hphase
    split at hphase
    · cases hphase
    · contradiction

/-- The first blinding share ends the shuffle in any case. -/
theorem ShufflesInTime.dealingStarted (h : s.ShufflesInTime c) (deck : List Card) :
    ((s.run (Narrator.actionsOf (Narrator.dealingStarted deck c))).ShufflesInTime
      (Narrator.contextAfter c (Narrator.dealingStarted deck c))) := by
  rw [ShufflesInTime, run_telling_phase, Narrator.telling_dealingStarted, h.phase_of_deal]
  intro hphase
  split at hphase
  · cases hphase
  · contradiction

/-- Words of which nothing is told in outline, and that remember of the shuffle what they found. -/
theorem ShufflesInTime.aside (h : s.ShufflesInTime c) {effects : List Narrator.Effect}
    (hphase : (s.run (Narrator.actionsOf effects)).phase = .shuffling → s.phase = .shuffling)
    (hcontext : (Narrator.contextAfter c effects).shuffleCompleted = c.shuffleCompleted) :
    (s.run (Narrator.actionsOf effects)).ShufflesInTime (Narrator.contextAfter c effects) := by
  intro hlater
  rw [hcontext]
  exact h (hphase hlater)

theorem ShufflesInTime.shareReceived (h : s.ShufflesInTime c) (target : HandContext)
    (kind : ShareKind) (actor : Actor) (share : Share) :
    (s.run (Narrator.actionsOf (Narrator.shareReceived target kind actor share))).ShufflesInTime
      c := by
  rw [ShufflesInTime, run_telling_phase, Narrator.telling_shareReceived]
  exact h

theorem ShufflesInTime.envelope (h : s.ShufflesInTime c) (deck : List Card) (f : Finalized) :
    (s.run (Narrator.actionsOf (Narrator.envelope deck c f))).ShufflesInTime
      (Narrator.contextAfter c (Narrator.envelope deck c f)) := by
  have hnumber : (s.step (.eventProcessed f.seqId)).ShufflesInTime c := h
  unfold Narrator.envelope
  rw [Narrator.actionsOf_dispatch, Narrator.contextAfter_dispatch, run_cons]
  generalize s.step (.eventProcessed f.seqId) = t at hnumber
  cases f.message with
  | shuffle => exact hnumber.shuffled
  | blinding share =>
    simp only [Narrator.actionsOf_append, Narrator.contextAfter_append, run_append,
      Narrator.contextAfter_shareReceived]
    apply ShufflesInTime.shareReceived
    split
    · exact hnumber
    · exact hnumber.dealingStarted deck
  | partialUnblinding share =>
    simp only [Narrator.contextAfter_shareReceived]
    exact hnumber.shareReceived c .unblinding _ share
  | bet | showdown => exact hnumber

/-- **Any event** leaves a shuffle that is shown in time. -/
theorem ShufflesInTime.event (h : s.ShufflesInTime c) (deck : List Card) (e : FeedEvent) :
    (s.run (Narrator.actionsOf (Narrator.effects deck c e))).ShufflesInTime
      (Narrator.contextAfter c (Narrator.effects deck c e)) := by
  cases e with
  | gameEvent f => exact h.envelope deck f
  | handCreated hand =>
    have hcontext : Narrator.contextAfter c (Narrator.effects deck c (.handCreated hand))
        = Narrator.contextOfHand c hand := Tale.tell_handCreated_context deck ⟨c, s⟩ hand
    intro _
    rw [hcontext]
    rfl
  | playerCreated gameId seat displayName publicKey =>
    simp only [Narrator.effects, Narrator.playerCreated]
    split
    · exact h
    · exact h
  | handCompleted gameId handId =>
    refine h.aside (fun hlater => ?_) rfl
    have hphase := step_phase s .handComplete
    have hlater : (s.step .handComplete).phase = .shuffling := hlater
    rw [hphase] at hlater
    simp only at hlater
    split at hlater
    · cases hlater
    · exact hlater
  | communityDecrypted => exact h
  | cardDecryptable gameId handId seat index =>
    refine h.aside (fun hlater => ?_) rfl
    rw [run_telling_phase] at hlater
    have hphase := step_phase s (.cardDecryptable ⟨seat.val, index.val⟩)
    exact hphase.symm.trans hlater
  | holeCardDecrypted gameId handId seat index card =>
    refine h.aside (fun hlater => ?_) rfl
    rw [run_telling_phase] at hlater
    have hphase := step_phase s (.cardRevealed ⟨seat.val, index.val⟩ card)
    exact hphase.symm.trans hlater

end HandState

/-! ## What is written down -/

namespace Onlooker.View

variable {v : View PhaseRecord} {effects : List Narrator.Effect}

theorem shown_hears (h : v.seen.shown = v.picture.phase) (e : Narrator.Effect) :
    (phaseWriter.hears v e).seen.shown = (phaseWriter.hears v e).picture.phase := by
  cases e with
  | remember => exact h
  | dispatch a =>
    simp only [hears]
    split
    · exact h
    · rfl
  | cue cue => cases cue <;> exact h

/-- The writer always knows the phase that is shown. Induction along the words. -/
theorem shown_hearsAll (h : v.seen.shown = v.picture.phase) (effects : List Narrator.Effect) :
    (phaseWriter.hearsAll v effects).seen.shown
      = (phaseWriter.hearsAll v effects).picture.phase := by
  induction effects generalizing v with
  | nil => exact h
  | cons e effects ih => exact ih (shown_hears h e)

/-- Words without a phase leave the announcements as they are. -/
theorem announced_hearsAll (h : ∀ phase, .cue (.phaseChange phase) ∉ effects) :
    (phaseWriter.hearsAll v effects).seen.announced = v.seen.announced := by
  induction effects generalizing v with
  | nil => rfl
  | cons e effects ih =>
    have hrest := ih (v := phaseWriter.hears v e) fun phase hlater =>
      h phase (List.mem_cons_of_mem e hlater)
    refine hrest.trans ?_
    cases e with
    | remember => rfl
    | dispatch a =>
      simp only [hears]
      split <;> rfl
    | cue cue =>
      cases cue with
      | phaseChange phase => exact absurd List.mem_cons_self (h phase)
      | _ => rfl

/-- One phase is announced, in the middle of other words. -/
theorem announced_hearsAll_phaseChange (before after : List Narrator.Effect) {phase : HandPhase}
    (h : v.seen.shown = v.picture.phase) (hbefore : ∀ phase, .cue (.phaseChange phase) ∉ before)
    (hafter : ∀ phase, .cue (.phaseChange phase) ∉ after) :
    (phaseWriter.hearsAll v (before ++ .cue (.phaseChange phase) :: after)).seen.announced
      = v.seen.announced
        ++ [⟨phase, (v.picture.run (Narrator.actionsOf before)).phase⟩] := by
  have hnow := shown_hearsAll h before
  rw [(hearsAll_context_picture phaseWriter v before).2] at hnow
  rw [hearsAll_append, ← hnow, ← announced_hearsAll (v := v) hbefore]
  exact announced_hearsAll hafter

/-- A share announces nothing. -/
theorem phaseChange_not_mem_shareReceived (c : HandContext) (kind : ShareKind) (actor : Actor)
    (s : Share) (phase : HandPhase) :
    .cue (.phaseChange phase) ∉ Narrator.shareReceived c kind actor s := by
  unfold Narrator.shareReceived
  cases Narrator.shareTarget? c s.position <;> simp

theorem announced_handCreated (h : v.seen.shown = v.picture.phase) (hand : HandCreated) :
    (phaseWriter.hearsAll v (Narrator.handCreated v.context hand)).seen.announced
      = v.seen.announced ++ [⟨.shuffling, .shuffling⟩] := by
  unfold Narrator.handCreated
  rw [List.append_assoc]
  refine announced_hearsAll_phaseChange [.remember _, .dispatch _, .dispatch _] _ h ?_ ?_
  · simp
  · intro phase
    cases (Narrator.contextOfHand v.context hand).shuffleTotal <;> simp [Narrator.say]

theorem announced_handCompleted (h : v.seen.shown = v.picture.phase) :
    (phaseWriter.hearsAll v Narrator.handCompleted).seen.announced = v.seen.announced
      ++ [⟨.complete, if v.picture.phase = .dealing then .complete else v.picture.phase⟩] := by
  have hphase := HandState.step_phase v.picture .handComplete
  simp only at hphase
  rw [← hphase]
  exact announced_hearsAll_phaseChange [.dispatch .handComplete]
    [Narrator.say (text "Hand complete!")] h (by simp) (by simp [Narrator.say])

/-- The first blinding share: the deal is announced, whatever the picture shows by then. -/
theorem announced_firstBlinding (h : v.seen.shown = v.picture.phase)
    (hshuffle : v.picture.ShufflesInTime v.context) (deck : List Card) (seqId : Nat)
    (actor : Actor) (s : Share) :
    (phaseWriter.hearsAll v (.dispatch (.eventProcessed seqId)
        :: (Narrator.dealingStarted deck v.context
          ++ Narrator.shareReceived v.context .blinding actor s))).seen.announced
      = v.seen.announced
        ++ [⟨.dealing, if v.picture.phase = .shuffling then .dealing else v.picture.phase⟩] := by
  -- the words up to the announcement
  let before : List Narrator.Effect := .dispatch (.eventProcessed seqId)
    :: .remember { v.context with dealingStarted := true }
    :: (if v.context.shuffleCompleted then []
      else [.remember { v.context with dealingStarted := true, shuffleCompleted := true },
        .dispatch .shuffleComplete])
    ++ [.dispatch (.startDealing deck)]
  have hwords : .dispatch (.eventProcessed seqId) :: (Narrator.dealingStarted deck v.context
        ++ Narrator.shareReceived v.context .blinding actor s)
      = before ++ .cue (.phaseChange .dealing) :: (Narrator.dealt v.context.playerCount
        ++ Narrator.shareReceived v.context .blinding actor s) := by
    simp [before, Narrator.dealingStarted]
  have hactions : Narrator.actionsOf before = .eventProcessed seqId
      :: ((if !v.context.shuffleCompleted then [.shuffleComplete] else [])
        ++ [.startDealing deck]) := by
    simp only [before]
    cases v.context.shuffleCompleted <;> rfl
  have hnumber : (v.picture.step (.eventProcessed seqId)).ShufflesInTime v.context := hshuffle
  have hphase : (v.picture.run (Narrator.actionsOf before)).phase
      = if v.picture.phase = .shuffling then .dealing else v.picture.phase := by
    rw [hactions, HandState.run_cons]
    exact hnumber.phase_of_deal deck
  have hbefore : ∀ phase, .cue (.phaseChange phase) ∉ before := by
    intro phase
    simp only [before]
    cases v.context.shuffleCompleted <;> simp
  rw [hwords, ← hphase]
  refine announced_hearsAll_phaseChange before _ h hbefore ?_
  simp [Narrator.dealt, phaseChange_not_mem_shareReceived]

/-- **What is announced** when any event is told. -/
theorem announced_effects (h : v.seen.shown = v.picture.phase)
    (hshuffle : v.picture.ShufflesInTime v.context) (deck : List Card) (e : FeedEvent) :
    (phaseWriter.hearsAll v (Narrator.effects deck v.context e)).seen.announced
      = v.seen.announced ++ announcedBy v.context v.picture.phase e := by
  have hsilent {effects : List Narrator.Effect}
      (hcues : ∀ phase, .cue (.phaseChange phase) ∉ effects) :
      (phaseWriter.hearsAll v effects).seen.announced = v.seen.announced ++ [] := by
    rw [announced_hearsAll hcues, List.append_nil]
  cases e with
  | handCreated hand => exact announced_handCreated h hand
  | handCompleted gameId handId => exact announced_handCompleted h
  | gameEvent f =>
    simp only [Narrator.effects, Narrator.envelope, announcedBy]
    cases f.message with
    | blinding share =>
      cases hstarted : v.context.dealingStarted with
      | true => exact hsilent (by simp [phaseChange_not_mem_shareReceived])
      | false => exact announced_firstBlinding h hshuffle deck _ _ share
    | shuffle =>
      refine hsilent fun phase => ?_
      cases htotal : v.context.shuffleTotal with
      | none =>
        simp only [Narrator.shuffled, htotal]
        split <;> simp
      | some total =>
        simp only [Narrator.shuffled, htotal]
        split <;> simp
    | partialUnblinding share => exact hsilent (by simp [phaseChange_not_mem_shareReceived])
    | bet | showdown => exact hsilent (by simp)
  | playerCreated gameId seat displayName publicKey =>
    refine hsilent fun phase => ?_
    simp only [Narrator.effects, Narrator.playerCreated]
    split <;> simp [Narrator.say]
  | communityDecrypted | cardDecryptable | holeCardDecrypted =>
    exact hsilent (by simp [Narrator.effects, Narrator.communityDecrypted,
      Narrator.cardDecryptable, Narrator.holeCardDecrypted, Narrator.say])

/-! ## Runs -/

/-- The record fits the session: it knows the phase that is shown, a shuffle that is shown is not
over for the narrator, and what was announced so far was shown or is stray. -/
structure Recorded (v : View PhaseRecord) : Prop where
  shown : v.seen.shown = v.picture.phase
  shuffle : v.picture.ShufflesInTime v.context
  announced : ∀ a ∈ v.seen.announced, a.phase = a.shown ∨ a.isStray = true

theorem Recorded.told (h : v.Recorded) (deck : List Card) (e : FeedEvent) :
    (phaseWriter.hearsAll v (Narrator.effects deck v.context e)).Recorded := by
  obtain ⟨hcontext, hpicture⟩ :=
    hearsAll_context_picture phaseWriter v (Narrator.effects deck v.context e)
  refine ⟨shown_hearsAll h.shown _, ?_, ?_⟩
  · rw [hcontext, hpicture]
    exact h.shuffle.event deck e
  · rw [announced_effects h.shown h.shuffle]
    intro a ha
    rcases List.mem_append.mp ha with hbefore | hnow
    · exact h.announced a hbefore
    · exact announcedBy_cases v.context v.picture.phase e a hnow

theorem sound_recorded : phaseWriter.Sound Recorded where
  error _ _ h := ⟨shown_hears h.shown _, h.shuffle, h.announced⟩
  key _ _ h := ⟨h.shown, h.shuffle, h.announced⟩
  restart _ h := ⟨rfl, fun hphase => (nomatch hphase), h.announced⟩
  told deck _ e _ h := h.told deck e
  applied deck _ f h := h.told deck (.gameEvent f)

end Onlooker.View

namespace Session

/-- **Announcements of a run.** Whatever a session went through, the phase that is announced is the
one that the picture shows at that time, or else the announcement is stray. The writer knows the
phase of the picture, and when the narrator tells another event, the announcement is that of
`announcedBy`. So a new hand is always shown as it is announced; the end of a hand just when the
hand was dealt, or complete before; and the deal just when the hand was shuffled, or its shuffle
was over. -/
theorem announcements_of_a_run (settings : SessionSettings) (inputs : List SessionInput) :
    let s := (run settings inputs fresh).1
    let record := phaseWriter.seesAll ⟨.idle, []⟩ (run settings inputs fresh).2
    record.shown = s.state.phase
      ∧ (∀ a ∈ record.announced, a.phase = a.shown ∨ a.isStray = true)
      ∧ ∀ deck e, announcements s.state.phase (followAll (Narrator.effects deck s.context e) s).2
        = announcedBy s.context s.state.phase e := by
  intro s record
  have hrecorded : (s.view record).Recorded :=
    Onlooker.View.sound_recorded.run settings inputs fresh ⟨.idle, []⟩
      ⟨rfl, fun hphase => (nomatch hphase), by simp [view]⟩
  refine ⟨hrecorded.shown, hrecorded.announced, fun deck e => ?_⟩
  have htold := Onlooker.View.announced_effects (v := s.view ⟨s.state.phase, []⟩) rfl
    hrecorded.shuffle deck e
  rw [← view_followAll] at htold
  exact htold

/-- **A hand is announced complete while it is shuffled, and the deal of a hand that did not
begin.** The end of a hand is told right after its beginning; a blinding share comes first of
all. -/
theorem announcements_go_astray :
    announcements .idle (run .usual
        [.event (.handCreated .ofTwo), .event (.handCompleted 1 7)] fresh).2
      = [⟨.shuffling, .shuffling⟩, ⟨.complete, .shuffling⟩]
    ∧ announcements .idle (run .usual [.event (.gameEvent (.ofTwo 0 (.shareAt 0)))] fresh).2
      = [⟨.dealing, .idle⟩] := by
  decide +kernel

end Session

end MentalPoker
