import MentalPoker.Proofs.Hand.Order
import MentalPoker.Proofs.Session.Parts

/-!
# What is said once in a hand

The end of the shuffle, the beginning of the deal and the complaint that the count of shuffles is
unknown are the milestones of a hand. The narrator says each of them at most once between one hand
and the next, also when whoever takes its actions refuses some of them, so that the rest of an
event is lost. When all are taken, the hand is told in order.

## The crux

A milestone has a flag in the context, and the flag is remembered before the milestone is said. So
an event that is cut short can lose a milestone, but never says it without remembering: what was
said so far and the flag before add up to no more than the flag after (`Narrator.PassesOnce`).

## The architecture

* **`Milestone`**, **`Narrator.PassesOnce`**: the bound for the steps of one event;
  `passesOnce_effects` has one case for each kind of event.
* **`Turn.count_play`**, **`Turn.count_playAll`**: one turn, and the induction along the turns.
* **`Turn.milestones_once_in_a_hand`**: the bound for a hand, and its order when all is taken.
-/

namespace MentalPoker

/-! ## Milestones -/

/-- What a narrator says at most once in a hand. -/
inductive Milestone where
  | shuffleOver
  | deal
  | unknownTotal
  deriving DecidableEq

namespace Milestone

/-- The action says the milestone. -/
def isGivenBy : Milestone → Action → Bool
  | shuffleOver, .shuffleComplete => true
  | deal, .startDealing _ => true
  | unknownTotal, .setError error => error = some Narrator.shufflesUnknown
  | _, _ => false

/-- The flag of the milestone. -/
def passed : Milestone → HandContext → Bool
  | shuffleOver, c => c.shuffleCompleted
  | deal, c => c.dealingStarted
  | unknownTotal, c => c.missingTotalReported

end Milestone

namespace Narrator

variable {m : Milestone} {c : HandContext} {steps rest : List Effect}

/-- Whichever actions are refused, a milestone is said only on its flag being raised. -/
def PassesOnce (m : Milestone) (c : HandContext) (steps : List Effect) : Prop :=
  ∀ refuses : Action → Bool,
    (actionsOf (perform refuses c steps).2).countP m.isGivenBy + (m.passed c).toNat
      ≤ (m.passed (perform refuses c steps).1).toNat

/-- Steps that do not say the milestone and leave its flag raised. -/
theorem passesOnce_of_quiet (hquiet : ∀ a ∈ actionsOf steps, m.isGivenBy a = false)
    (hkeeps : ∀ c', .remember c' ∈ steps → m.passed c = true → m.passed c' = true) :
    PassesOnce m c steps := by
  intro refuses
  have hnone : (actionsOf (perform refuses c steps).2).countP m.isGivenBy = 0 := by
    rw [List.countP_eq_zero]
    intro a ha hgiven
    have hsilent := hquiet a ((actionsOf_perform_beginning refuses c steps).subset ha)
    rw [hsilent] at hgiven
    cases hgiven
  rw [hnone, Nat.zero_add]
  rcases perform_context refuses c steps with hsame | hremembered
  · rw [hsame]
  · cases hbefore : m.passed c with
    | false => exact Nat.zero_le _
    | true => rw [hkeeps _ hremembered hbefore]

/-- Steps that raise the flag first, leave it raised, and say the milestone once. -/
theorem passesOnce_of_raised {c' : HandContext} (hbefore : m.passed c = false)
    (hraised : ∀ c'', .remember c'' ∈ .remember c' :: rest → m.passed c'' = true)
    (honce : (actionsOf rest).countP m.isGivenBy ≤ 1) :
    PassesOnce m c (.remember c' :: rest) := by
  intro refuses
  have hsaid : (actionsOf (perform refuses c' rest).2).countP m.isGivenBy ≤ 1 :=
    ((actionsOf_perform_beginning refuses c' rest).sublist.countP_le).trans honce
  have hafter : m.passed (perform refuses c' rest).1 = true := by
    rcases perform_context refuses c' rest with hsame | hlater
    · rw [hsame]
      exact hraised c' List.mem_cons_self
    · exact hraised _ (List.mem_cons_of_mem _ hlater)
  show (actionsOf (perform refuses c' rest).2).countP m.isGivenBy + (m.passed c).toNat
    ≤ (m.passed (perform refuses c' rest).1).toNat
  rw [hafter, hbefore]
  exact hsaid

/-- An action that does not say the milestone comes first. -/
theorem PassesOnce.dispatch (h : PassesOnce m c rest) {a : Action} (ha : m.isGivenBy a = false) :
    PassesOnce m c (.dispatch a :: rest) := by
  intro refuses
  have hrest := h refuses
  cases hrefused : refuses a with
  | true => rw [perform_dispatch_refused hrefused]; simp [ha]
  | false =>
    rw [perform_dispatch_taken hrefused]
    simpa [ha] using hrest

theorem PassesOnce.cue (h : PassesOnce m c rest) (cue : Cue) : PassesOnce m c (.cue cue :: rest) :=
  h

/-- A context with the same flag is remembered first. -/
theorem PassesOnce.remember {c' : HandContext} (h : PassesOnce m c' rest)
    (hflag : m.passed c' = m.passed c) : PassesOnce m c (.remember c' :: rest) := by
  intro refuses
  rw [← hflag]
  exact h refuses

/-! ## Events in the middle of a hand -/

theorem passesOnce_shuffled (m : Milestone) (c : HandContext) : PassesOnce m c (shuffled c) := by
  unfold shuffled
  cases htotal : c.shuffleTotal with
  | none =>
    simp only
    cases hreported : c.missingTotalReported with
    | true =>
      rw [if_pos rfl]
      refine passesOnce_of_quiet ?_ ?_
      · cases m <;> simp [Milestone.isGivenBy]
      · cases m <;> simp [Milestone.passed, hreported]
    | false =>
      rw [if_neg Bool.false_ne_true]
      cases m with
      | unknownTotal =>
        -- the flag is raised before the complaint
        refine passesOnce_of_raised hreported ?_ ?_
        · simp [Milestone.passed]
        · rw [actionsOf_dispatch, List.countP_cons]
          show 0 + _ ≤ 1
          split <;> omega
      | shuffleOver | deal =>
        refine passesOnce_of_quiet ?_ ?_
        · simp [Milestone.isGivenBy]
        · simp [Milestone.passed]
  | some total =>
    simp only [List.cons_append, List.nil_append]
    refine .remember (.dispatch (.cue ?_ _) ?_) ?_
    · split
      · next hends =>
        simp only [Bool.and_eq_true, Bool.not_eq_true'] at hends
        cases m with
        | shuffleOver =>
          refine passesOnce_of_raised hends.2 ?_ ?_
          · simp [Milestone.passed]
          · simp [Milestone.isGivenBy]
        | deal | unknownTotal =>
          refine passesOnce_of_quiet ?_ ?_
          · simp [Milestone.isGivenBy]
          · simp [Milestone.passed]
      · exact passesOnce_of_quiet (by simp) (by simp)
    · cases m <;> rfl
    · cases m <;> rfl

/-- What follows the flags when the deal begins. -/
def dealAndShare (deck : List Card) (c : HandContext) (actor : Actor) (s : Share) : List Effect :=
  .dispatch (.startDealing deck) :: .cue (.phaseChange .dealing) :: dealt c.playerCount
    ++ shareReceived c .blinding actor s

theorem isGivenBy_shareReceived (m : Milestone) (c : HandContext) (kind : ShareKind)
    (actor : Actor) (s : Share) :
    ∀ a ∈ actionsOf (shareReceived c kind actor s), m.isGivenBy a = false := by
  unfold shareReceived
  cases shareTarget? c s.position <;> cases m <;> simp [Milestone.isGivenBy]

theorem remember_not_mem_shareReceived (c c' : HandContext) (kind : ShareKind) (actor : Actor)
    (s : Share) : .remember c' ∉ shareReceived c kind actor s := by
  unfold shareReceived
  cases shareTarget? c s.position <;> simp

theorem remember_not_mem_dealAndShare (deck : List Card) (c c' : HandContext) (actor : Actor)
    (s : Share) : .remember c' ∉ dealAndShare deck c actor s := by
  have hshare := remember_not_mem_shareReceived c c' .blinding actor s
  simp [dealAndShare, dealt, hshare]

/-- Of the milestones only the deal is said there, and once. -/
theorem countP_dealAndShare (m : Milestone) (deck : List Card) (c : HandContext) (actor : Actor)
    (s : Share) :
    (actionsOf (dealAndShare deck c actor s)).countP m.isGivenBy = if m = .deal then 1 else 0 := by
  have hshare : (actionsOf (shareReceived c .blinding actor s)).countP m.isGivenBy = 0 := by
    rw [List.countP_eq_zero]
    intro a ha
    rw [isGivenBy_shareReceived m c .blinding actor s a ha]
    exact Bool.false_ne_true
  have hdealt : ((dealOrder c.playerCount).map Action.cardDealt).countP m.isGivenBy = 0 := by
    rw [List.countP_eq_zero]
    cases m <;> simp [Milestone.isGivenBy]
  rw [dealAndShare, actionsOf_append, List.countP_append, hshare, actionsOf_dispatch,
    actionsOf_cue, actionsOf_dealt, List.countP_cons, hdealt]
  cases m <;> rfl

/-- The first blinding share: the deal begins, and the share is for one of its cards. -/
theorem passesOnce_firstBlinding (m : Milestone) (deck : List Card) {c : HandContext}
    (hstarted : c.dealingStarted = false) (actor : Actor) (s : Share) :
    PassesOnce m c (dealingStarted deck c ++ shareReceived c .blinding actor s) := by
  have hrest (c' : HandContext) := remember_not_mem_dealAndShare deck c c' actor s
  have hcount := countP_dealAndShare m deck c actor s
  have hsilent (hm : m ≠ .deal) :
      ∀ a ∈ actionsOf (dealAndShare deck c actor s), m.isGivenBy a = false := by
    rw [if_neg hm, List.countP_eq_zero] at hcount
    exact fun a ha => Bool.eq_false_iff.mpr (hcount a ha)
  cases hover : c.shuffleCompleted with
  | true =>
    have heffects : dealingStarted deck c ++ shareReceived c .blinding actor s
        = .remember { c with dealingStarted := true } :: dealAndShare deck c actor s := by
      simp [dealingStarted, dealAndShare, hover]
    rw [heffects]
    cases m with
    | deal =>
      refine passesOnce_of_raised hstarted ?_ hcount.le
      simp [Milestone.passed, hrest]
    | shuffleOver | unknownTotal =>
      refine passesOnce_of_quiet (hsilent (by decide)) ?_
      simp [Milestone.passed, hrest]
  | false =>
    have heffects : dealingStarted deck c ++ shareReceived c .blinding actor s
        = .remember { c with dealingStarted := true }
          :: .remember { c with dealingStarted := true, shuffleCompleted := true }
          :: .dispatch .shuffleComplete :: dealAndShare deck c actor s := by
      simp [dealingStarted, dealAndShare, hover]
    rw [heffects]
    cases m with
    | deal =>
      refine passesOnce_of_raised hstarted ?_ hcount.le
      simp [Milestone.passed, hrest]
    | shuffleOver =>
      -- the deal is remembered first, then that the shuffle is over
      refine .remember (passesOnce_of_raised hover ?_ ?_) rfl
      · simp [Milestone.passed, hrest]
      · rw [actionsOf_dispatch, List.countP_cons_of_pos rfl, hcount]
        rfl
    | unknownTotal =>
      refine passesOnce_of_quiet ?_ ?_
      · exact List.forall_mem_cons.mpr ⟨rfl, hsilent (by decide)⟩
      · simp [Milestone.passed, hrest]

theorem passesOnce_envelope (m : Milestone) (deck : List Card) (c : HandContext) (f : Finalized) :
    PassesOnce m c (envelope deck c f) := by
  refine .dispatch ?_ (by cases m <;> rfl)
  have hshare (kind : ShareKind) (share : Share) :
      PassesOnce m c (shareReceived c kind f.envelope.actor share) := by
    refine passesOnce_of_quiet (isGivenBy_shareReceived m c kind _ share) fun c' hc' => ?_
    exact absurd hc' (remember_not_mem_shareReceived c c' kind _ share)
  cases f.message with
  | shuffle => exact passesOnce_shuffled m c
  | blinding share =>
    cases hstarted : c.dealingStarted with
    | true =>
      simp only [if_true, List.nil_append]
      exact hshare .blinding share
    | false =>
      simp only [if_neg Bool.false_ne_true]
      exact passesOnce_firstBlinding m deck hstarted _ share
  | partialUnblinding share => exact hshare .unblinding share
  | bet | showdown => exact passesOnce_of_quiet (by simp) (by simp)

/-- **An event in the middle of a hand** says a milestone only on its flag being raised. -/
theorem passesOnce_effects (m : Milestone) (deck : List Card) (c : HandContext) {e : FeedEvent}
    (he : e.kind ≠ .handCreated) : PassesOnce m c (effects deck c e) := by
  cases e with
  | handCreated => exact absurd rfl he
  | gameEvent f => exact passesOnce_envelope m deck c f
  | playerCreated gameId seat displayName publicKey =>
    simp only [effects, playerCreated]
    split
    · refine passesOnce_of_quiet ?_ ?_
      · cases m <;> simp [say, Milestone.isGivenBy]
      · cases m <;> simp [say, Milestone.passed]
    · refine passesOnce_of_quiet ?_ ?_
      · cases m <;> simp [say, Milestone.isGivenBy]
      · simp [say]
  | communityDecrypted | cardDecryptable | holeCardDecrypted | handCompleted =>
    refine passesOnce_of_quiet ?_ ?_
    · cases m <;> simp [effects, communityDecrypted, cardDecryptable, holeCardDecrypted,
        handCompleted, say, Milestone.isGivenBy]
    · simp [effects, communityDecrypted, cardDecryptable, holeCardDecrypted, handCompleted, say]

/-- A new hand says no milestone. -/
theorem isGivenBy_handCreated (m : Milestone) (c : HandContext) (hand : HandCreated) :
    ∀ a ∈ actionsOf (handCreated c hand), m.isGivenBy a = false := by
  rw [actionsOf_handCreated]
  cases hand.shufflerCount <;> cases m <;> simp [Milestone.isGivenBy]

end Narrator

/-! ## Histories of a hand -/

namespace Turn

/-- A turn that begins a hand says no milestone, also when it is cut short. -/
theorem count_play_of_opens {opening : Turn} (h : opening.opens = true) (m : Milestone)
    (c : HandContext) : (opening.play c).2.countP m.isGivenBy = 0 := by
  cases opening with
  | reset => rfl
  | event e deck refuses =>
    cases e with
    | handCreated hand =>
      rw [List.countP_eq_zero]
      intro a ha
      have hmem : a ∈ Narrator.actionsOf (Narrator.handCreated c hand) :=
        (Narrator.actionsOf_perform_beginning refuses c (Narrator.handCreated c hand)).subset ha
      rw [Narrator.isGivenBy_handCreated m c hand a hmem]
      exact Bool.false_ne_true
    | _ => cases h

/-- One turn in the middle of a hand. -/
theorem count_play {t : Turn} (h : t.opens = false) (m : Milestone) (c : HandContext) :
    (t.play c).2.countP m.isGivenBy + (m.passed c).toNat ≤ (m.passed (t.play c).1).toNat := by
  cases t with
  | reset => cases h
  | event e deck refuses =>
    have he : e.kind ≠ .handCreated := by simpa [opens] using h
    exact Narrator.passesOnce_effects m deck c he refuses

/-- What was said of a milestone in the middle of a hand, and the flag before, add up to no more
than the flag afterwards. Induction along the turns. -/
theorem count_playAll {turns : List Turn} (h : ∀ t ∈ turns, t.opens = false) (m : Milestone)
    (c : HandContext) :
    (playAll c turns).2.countP m.isGivenBy + (m.passed c).toNat
      ≤ (m.passed (playAll c turns).1).toNat := by
  induction turns generalizing c with
  | nil =>
    show 0 + (m.passed c).toNat ≤ (m.passed c).toNat
    omega
  | cons t turns ih =>
    obtain ⟨ht, hturns⟩ := List.forall_mem_cons.mp h
    have hfirst := count_play ht m c
    have hlater := ih hturns (t.play c).1
    show ((t.play c).2 ++ (playAll (t.play c).1 turns).2).countP m.isGivenBy + _ ≤ _
    rw [List.countP_append]
    have hlast : (m.passed (playAll (t.play c).1 turns).1).toNat
        = (m.passed (playAll c (t :: turns)).1).toNat := rfl
    omega

end Turn

/-- **The milestones of a hand.** Whatever a narrator remembers, a hand begins or it is reset, and
other turns follow until the next hand. Then the end of the shuffle, the deal and the complaint that
the count of shuffles is unknown are said at most once each, whichever actions are refused. When
none is refused, the deal is said only after the end of the shuffle and is followed by the cards of
the table in the order of the deal, no other card is dealt, and the shuffle goes on step by step
with one total. -/
theorem Turn.milestones_once_in_a_hand (c : HandContext) {opening : Turn} {turns : List Turn}
    (hopens : opening.opens = true) (hmiddle : ∀ t ∈ turns, t.opens = false) :
    let said := (Turn.playAll c (opening :: turns)).2
    (∀ m : Milestone, said.countP m.isGivenBy ≤ 1)
      ∧ ((∀ t ∈ opening :: turns, t.IsTaken) →
        (said.filter Action.isStage = []
          ∨ said.filter Action.isStage = [.shuffleComplete]
          ∨ ∃ deck, said.filter Action.isStage
            = .shuffleComplete :: .startDealing deck
              :: (dealOrder opening.players).map .cardDealt)
        ∧ said.filterMap Action.progress?
          = progressSteps opening.total (turns.countP Turn.isShuffle)) := by
  intro said
  have hsaid : said = (opening.play c).2 ++ (Turn.playAll (opening.play c).1 turns).2 := rfl
  refine ⟨fun m => ?_, fun htaken => ?_⟩
  · have hfirst := Turn.count_play_of_opens hopens m c
    have hlater := Turn.count_playAll hmiddle m (opening.play c).1
    have hflag := Bool.toNat_le (m.passed (Turn.playAll (opening.play c).1 turns).1)
    rw [hsaid, List.countP_append, hfirst]
    omega
  · obtain ⟨hopening, hturns⟩ := List.forall_mem_cons.mp htaken
    have horder := (Turn.InOrder.opening hopens hopening c).playAll hmiddle hturns
    rw [Nat.zero_add] at horder
    exact ⟨horder.stages.cases_eq, horder.progress⟩

/-- A hand of two players, announced again after a hand that was cut short: the deal of the first
was refused, and another share of it arrived afterwards. -/
theorem Turn.milestones_once_in_a_hand_twice :
    let opening : Turn := .event (.handCreated .ofTwo) [] fun _ => false
    let cut : List Turn := [.event (.gameEvent (.ofTwo 0 (.shareAt 0))) [] (· = .startDealing []),
      .event (.gameEvent (.ofTwo 1 (.shareAt 1))) [] fun _ => false]
    let whole : List Turn := [.event (.gameEvent (.ofTwo 0 (.shareAt 0))) [] fun _ => false]
    let c := (Turn.playAll .fresh (opening :: cut)).1
    ((∀ t ∈ cut, t.opens = false) ∧ (∀ t ∈ whole, t.opens = false)
        ∧ ∀ t ∈ opening :: whole, t.IsTaken)
      ∧ (∀ m : Milestone, (Turn.playAll .fresh (opening :: cut)).2.countP m.isGivenBy ≤ 1)
      ∧ (Turn.playAll .fresh (opening :: cut)).2.countP Milestone.deal.isGivenBy = 1
      ∧ (Turn.playAll c (opening :: whole)).2.filter Action.isStage
        = .shuffleComplete :: .startDealing [] :: (dealOrder 2).map .cardDealt
      ∧ (Turn.playAll c (opening :: whole)).2.filterMap Action.progress?
        = progressSteps (some 1) 0 := by
  intro opening cut whole c
  have hcut : ∀ t ∈ cut, t.opens = false := by simp [cut, Turn.opens, FeedEvent.kind]
  have hwhole : ∀ t ∈ whole, t.opens = false := by simp [whole, Turn.opens, FeedEvent.kind]
  have htaken : ∀ t ∈ opening :: whole, t.IsTaken := by simp [opening, whole, Turn.IsTaken]
  have hopens : opening.opens = true := rfl
  have honce := (Turn.milestones_once_in_a_hand .fresh hopens hcut).1
  have horder := (Turn.milestones_once_in_a_hand c hopens hwhole).2 htaken
  refine ⟨⟨hcut, hwhole, htaken⟩, honce, ?_, ?_, horder.2⟩
  · decide +kernel
  · decide +kernel

end MentalPoker
