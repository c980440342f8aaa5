import MentalPoker.Proofs.Hand.Turns

/-!
# A hand told in order

When no action of a hand is refused, the narrator tells it in order: the end of the shuffle, the
deal, and the cards that are dealt one after another; and the progress of the shuffle step by step.

## The architecture

* **`StagesSaid`**: the stages that were said, by what the context remembers of them.
* **`progressSteps`**: the progress that was said, by the count of shuffles.
* **`Turn.InOrder`**: both together, as an invariant. `InOrder.opening` is its beginning,
  `InOrder.shuffled` and `InOrder.dealt` move it, `InOrder.play` is one turn, and `InOrder.playAll`
  the induction.
-/

namespace MentalPoker

/-! ## Stages and progress -/

namespace Action

/-- The actions of which the course of a hand is made: the end of its shuffle, its deal, and the
cards that are dealt. -/
def isStage : Action → Bool
  | shuffleComplete | startDealing _ | cardDealt _ => true
  | _ => false

/-- How far the shuffle is said to be, and how many shuffles there are. -/
def progress? : Action → Option (Int × Int)
  | shuffleProgress current total => some (current, total)
  | _ => none

end Action

/-- The stages of a hand that were said by the time at which its shuffle is over, or not, and its
deal began, or not. -/
inductive StagesSaid (players : Nat) : (completed started : Bool) → List Action → Prop
  | shuffling : StagesSaid players false false []
  | completed : StagesSaid players true false [.shuffleComplete]
  | dealt (deck : List Card) : StagesSaid players true true
      (.shuffleComplete :: .startDealing deck :: (dealOrder players).map .cardDealt)

namespace StagesSaid

variable {players : Nat} {completed started : Bool} {stages : List Action}

/-- The end of the shuffle is said, or not, at a time at which it goes on. -/
theorem shuffled (h : StagesSaid players completed started stages) {ends : Bool}
    (hends : ends = true → completed = false) :
    StagesSaid players (completed || ends) started
      (stages ++ if ends then [.shuffleComplete] else []) := by
  cases ends with
  | false =>
    rw [Bool.or_false, if_neg Bool.false_ne_true, List.append_nil]
    exact h
  | true =>
    cases h with
    | shuffling => exact .completed
    | completed | dealt => cases hends rfl

/-- The deal is said, after the end of the shuffle, which may have been said before. -/
theorem deal (h : StagesSaid players completed false stages) (deck : List Card) :
    StagesSaid players true true (stages ++ ((if !completed then [.shuffleComplete] else [])
      ++ .startDealing deck :: (dealOrder players).map .cardDealt)) := by
  cases h with
  | shuffling => exact .dealt deck
  | completed => exact .dealt deck

theorem cases_eq (h : StagesSaid players completed started stages) :
    stages = [] ∨ stages = [.shuffleComplete] ∨ ∃ deck, stages
      = .shuffleComplete :: .startDealing deck :: (dealOrder players).map .cardDealt := by
  cases h with
  | shuffling => exact .inl rfl
  | completed => exact .inr (.inl rfl)
  | dealt deck => exact .inr (.inr ⟨deck, rfl⟩)

end StagesSaid

/-- How far the shuffle is said to be: at first at nothing, if the count of shuffles is announced,
and then with every shuffle at one more. The total is always the same; it is zero when it is not
known. -/
def progressSteps (total : Option Nat) (shuffles : Nat) : List (Int × Int) :=
  (total.map fun (total : Nat) => ((0 : Int), (total : Int))).toList
    ++ (List.range shuffles).map fun k => ((k : Int) + 1, ((total.getD 0 : Nat) : Int))

theorem progressSteps_succ (total : Option Nat) (shuffles : Nat) :
    progressSteps total (shuffles + 1)
      = progressSteps total shuffles ++ [((shuffles : Int) + 1, ((total.getD 0 : Nat) : Int))] := by
  simp [progressSteps, List.range_succ]

namespace Turn

/-- A hand was told in order so far: what was said, and what is remembered. -/
structure InOrder (players : Nat) (total : Option Nat) (shuffles : Nat) (said : List Action)
    (c : HandContext) : Prop where
  playerCount : c.playerCount = players
  shuffleTotal : c.shuffleTotal = total
  shuffleCount : c.shuffleCount = shuffles
  stages : StagesSaid players c.shuffleCompleted c.dealingStarted (said.filter Action.isStage)
  progress : said.filterMap Action.progress? = progressSteps total shuffles

namespace InOrder

variable {players shuffles : Nat} {total : Option Nat} {said : List Action} {c : HandContext}

/-- Actions that are neither stages nor progress. -/
theorem aside (h : InOrder players total shuffles said c) {actions : List Action}
    (hstage : ∀ a ∈ actions, a.isStage = false) (hprogress : ∀ a ∈ actions, a.progress? = none)
    (key : Json) (reported : Bool) :
    InOrder players total shuffles (said ++ actions)
      { c with viewerKey := key, missingTotalReported := reported } := by
  have hnoStage : actions.filter Action.isStage = [] := by
    rw [List.filter_eq_nil_iff]
    exact fun a ha => Bool.eq_false_iff.mp (hstage a ha)
  have hnoProgress : actions.filterMap Action.progress? = [] :=
    List.filterMap_eq_nil_iff.mpr hprogress
  refine ⟨h.playerCount, h.shuffleTotal, h.shuffleCount, ?_, ?_⟩
  · rw [List.filter_append, hnoStage, List.append_nil]
    exact h.stages
  · rw [List.filterMap_append, hnoProgress, List.append_nil]
    exact h.progress

theorem shareReceived (h : InOrder players total shuffles said c) (target : HandContext)
    (kind : ShareKind) (actor : Actor) (s : Share) :
    InOrder players total shuffles
      (said ++ Narrator.actionsOf (Narrator.shareReceived target kind actor s)) c := by
  refine h.aside ?_ ?_ c.viewerKey c.missingTotalReported
  all_goals
    unfold Narrator.shareReceived
    cases Narrator.shareTarget? target s.position <;> simp [Action.isStage, Action.progress?]

/-- One more shuffle: the progress goes on by one, and the last shuffle ends the shuffling. -/
theorem shuffled (h : InOrder players total shuffles said c) :
    InOrder players total (shuffles + 1) (said ++ Narrator.actionsOf (Narrator.shuffled c))
      (Narrator.contextAfter c (Narrator.shuffled c)) := by
  have hends : Narrator.endsShuffle c = true → c.shuffleCompleted = false := by
    intro hends
    simp only [Narrator.endsShuffle, Bool.and_eq_true, Bool.not_eq_true'] at hends
    exact hends.2
  have hstages : (Narrator.actionsOf (Narrator.shuffled c)).filter Action.isStage
      = if Narrator.endsShuffle c then [.shuffleComplete] else [] := by
    cases htotal : c.shuffleTotal with
    | none =>
      simp only [Narrator.shuffled, Narrator.endsShuffle, htotal]
      split <;> rfl
    | some total =>
      simp only [Narrator.shuffled, Narrator.endsShuffle, htotal, Option.any_some]
      split <;> rfl
  have hprogress : (Narrator.actionsOf (Narrator.shuffled c)).filterMap Action.progress?
      = [((c.shuffleCount : Int) + 1, ((c.shuffleTotal.getD 0 : Nat) : Int))] := by
    cases htotal : c.shuffleTotal with
    | none =>
      simp only [Narrator.shuffled, htotal]
      split <;> rfl
    | some total =>
      simp only [Narrator.shuffled, htotal]
      split <;> rfl
  obtain ⟨reported, hcontext⟩ := Narrator.contextAfter_shuffled c
  rw [hcontext]
  refine ⟨h.playerCount, h.shuffleTotal, congrArg (· + 1) h.shuffleCount, ?_, ?_⟩
  · rw [List.filter_append, hstages]
    exact h.stages.shuffled hends
  · rw [List.filterMap_append, hprogress, h.progress, progressSteps_succ, h.shuffleCount,
      h.shuffleTotal]

/-- The deal, in order, after the end of the shuffle. -/
theorem dealt (h : InOrder players total shuffles said c) (hstarted : c.dealingStarted = false)
    (deck : List Card) :
    InOrder players total shuffles
      (said ++ Narrator.actionsOf (Narrator.dealingStarted deck c))
      (Narrator.contextAfter c (Narrator.dealingStarted deck c)) := by
  have hall : ∀ a ∈ Narrator.actionsOf (Narrator.dealingStarted deck c),
      a.isStage = true ∧ a.progress? = none := by
    rw [Narrator.actionsOf_dealingStarted]
    cases c.shuffleCompleted <;> simp [Action.isStage, Action.progress?]
  rw [Narrator.contextAfter_dealingStarted]
  refine ⟨h.playerCount, h.shuffleTotal, h.shuffleCount, ?_, ?_⟩
  · have hstages := h.stages
    rw [hstarted] at hstages
    rw [List.filter_append, List.filter_eq_self.mpr fun a ha => (hall a ha).1,
      Narrator.actionsOf_dealingStarted, h.playerCount]
    exact hstages.deal deck
  · rw [List.filterMap_append, List.filterMap_eq_nil_iff.mpr fun a ha => (hall a ha).2,
      List.append_nil]
    exact h.progress

theorem envelope (h : InOrder players total shuffles said c) (deck : List Card) (f : Finalized) :
    InOrder players total (shuffles + if (FeedEvent.gameEvent f).isShuffle then 1 else 0)
      (said ++ Narrator.actionsOf (Narrator.envelope deck c f))
      (Narrator.contextAfter c (Narrator.envelope deck c f)) := by
  have hnumber : InOrder players total shuffles (said ++ [.eventProcessed f.seqId]) c :=
    h.aside (by simp [Action.isStage]) (by simp [Action.progress?]) c.viewerKey
      c.missingTotalReported
  have hother (h : (FeedEvent.gameEvent f).isShuffle = false) :
      (shuffles + if (FeedEvent.gameEvent f).isShuffle then 1 else 0) = shuffles := by
    rw [h, if_neg Bool.false_ne_true, Nat.add_zero]
  unfold Narrator.envelope
  rw [Narrator.actionsOf_dispatch, Narrator.contextAfter_dispatch, List.append_cons]
  cases hmessage : f.message with
  | shuffle =>
    have hshuffle : (FeedEvent.gameEvent f).isShuffle = true := by
      simp [FeedEvent.isShuffle, hmessage]
    rw [if_pos hshuffle]
    exact hnumber.shuffled
  | blinding share =>
    rw [hother (by simp [FeedEvent.isShuffle, hmessage])]
    simp only [Narrator.actionsOf_append, Narrator.contextAfter_append,
      Narrator.contextAfter_shareReceived]
    rw [← List.append_assoc]
    cases hstarted : c.dealingStarted with
    | true =>
      simp only [if_true, Narrator.actionsOf_nil, List.append_nil]
      exact hnumber.shareReceived c .blinding _ share
    | false =>
      simp only [if_neg Bool.false_ne_true]
      exact (hnumber.dealt hstarted deck).shareReceived c .blinding _ share
  | partialUnblinding share =>
    rw [hother (by simp [FeedEvent.isShuffle, hmessage])]
    simp only [Narrator.contextAfter_shareReceived]
    exact hnumber.shareReceived c .unblinding _ share
  | bet | showdown =>
    rw [hother (by simp [FeedEvent.isShuffle, hmessage])]
    simp only [Narrator.actionsOf_nil, List.append_nil]
    exact hnumber

/-- One turn in the middle of a hand. -/
theorem play (h : InOrder players total shuffles said c) {t : Turn} (ht : t.opens = false)
    (htaken : t.IsTaken) :
    InOrder players total (shuffles + if t.isShuffle then 1 else 0) (said ++ (t.play c).2)
      (t.play c).1 := by
  cases t with
  | reset => cases ht
  | event e deck refuses =>
    rw [play_of_isTaken htaken]
    cases e with
    | handCreated => cases ht
    | gameEvent f => exact h.envelope deck f
    | playerCreated gameId seat displayName publicKey =>
      by_cases hseat : (seat.val : Int) = viewerSeat
      · simp only [Narrator.effects, Narrator.playerCreated, if_pos hseat]
        refine h.aside ?_ ?_ publicKey.toJson c.missingTotalReported
        · simp [Narrator.say, Action.isStage]
        · simp [Narrator.say, Action.progress?]
      · simp only [Narrator.effects, Narrator.playerCreated, if_neg hseat]
        refine h.aside ?_ ?_ c.viewerKey c.missingTotalReported
        · simp [Narrator.say, Action.isStage]
        · simp [Narrator.say, Action.progress?]
    | communityDecrypted | cardDecryptable | holeCardDecrypted | handCompleted =>
      refine h.aside ?_ ?_ c.viewerKey c.missingTotalReported
      · simp [Narrator.effects, Narrator.communityDecrypted, Narrator.cardDecryptable,
          Narrator.holeCardDecrypted, Narrator.handCompleted, Narrator.say, Action.isStage]
      · simp [Narrator.effects, Narrator.communityDecrypted, Narrator.cardDecryptable,
          Narrator.holeCardDecrypted, Narrator.handCompleted, Narrator.say, Action.progress?]

/-- Turns in the middle of a hand. Induction along them. -/
theorem playAll {turns : List Turn} (h : InOrder players total shuffles said c)
    (hmiddle : ∀ t ∈ turns, t.opens = false) (htaken : ∀ t ∈ turns, t.IsTaken) :
    InOrder players total (shuffles + turns.countP isShuffle) (said ++ (Turn.playAll c turns).2)
      (Turn.playAll c turns).1 := by
  induction turns generalizing shuffles said c with
  | nil =>
    show InOrder players total shuffles (said ++ []) c
    rw [List.append_nil]
    exact h
  | cons t turns ih =>
    obtain ⟨ht, hmiddle⟩ := List.forall_mem_cons.mp hmiddle
    obtain ⟨hfirst, htaken⟩ := List.forall_mem_cons.mp htaken
    have hlater := ih (h.play ht hfirst) hmiddle htaken
    rw [List.append_assoc, Nat.add_assoc] at hlater
    rw [List.countP_cons, Nat.add_comm (turns.countP isShuffle)]
    exact hlater

/-- The beginning of a hand. -/
theorem opening {t : Turn} (ht : t.opens = true) (htaken : t.IsTaken) (c : HandContext) :
    InOrder t.players t.total 0 (t.play c).2 (t.play c).1 := by
  cases t with
  | reset => exact ⟨rfl, rfl, rfl, .shuffling, rfl⟩
  | event e deck refuses =>
    rw [play_of_isTaken htaken]
    cases e with
    | handCreated hand =>
      have hcontext : Narrator.contextAfter c (Narrator.effects deck c (.handCreated hand))
          = Narrator.contextOfHand c hand :=
        Tale.tell_handCreated_context deck ⟨c, .fresh⟩ hand
      rw [hcontext, Narrator.effects, Narrator.actionsOf_handCreated]
      refine ⟨rfl, rfl, rfl, ?_, ?_⟩
      · cases hand.shufflerCount with
        | none => exact .shuffling
        | some total => exact .shuffling
      · simp only [Turn.total]
        cases hand.shufflerCount with
        | none => rfl
        | some total => rfl
    | _ => cases ht

end InOrder

end Turn

end MentalPoker
