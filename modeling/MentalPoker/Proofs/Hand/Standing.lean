import MentalPoker.Proofs.Hand.Course
import MentalPoker.Proofs.Hand.Telling

/-!
# How a hand stands

The narrator remembers how many shuffles it heard and whether the deal began, and the picture that
it draws shows the stage that the hand has come to. Both are told by what was heard since the hand
was announced, each event moving them as it moves the course of the hand.

## The architecture

* **`Narrator.tellingOf`**: what the narrator says of an event, in outline.
* **`HandContext.Counts`**, **`HandState.Shows`**: the context and the picture show what was heard.
* **`Counts.tell`**, **`Shows.tell`**: one event; `Tale.stands_tellAll` is the induction.
-/

namespace MentalPoker

/-! ## What the narrator says, in outline -/

namespace Narrator

/-- The shuffle that comes now is the last of those that were announced. -/
def endsShuffle (c : HandContext) : Bool :=
  (c.shuffleTotal.any fun total => total ≤ c.shuffleCount + 1) && !c.shuffleCompleted

/-- What the narrator says of a blinding share, in outline. -/
def tellingOfBlinding (deck : List Card) (c : HandContext) : List Action :=
  if c.dealingStarted then []
  else (if !c.shuffleCompleted then [.shuffleComplete] else []) ++ [.startDealing deck]

/-- What the narrator says of an event in the middle of a hand, in outline. -/
def tellingOf (deck : List Card) (c : HandContext) : FeedEvent → List Action
  | .gameEvent f =>
    match f.message with
    | .shuffle .. => if endsShuffle c then [.shuffleComplete] else []
    | .blinding _ => tellingOfBlinding deck c
    | _ => []
  | .cardDecryptable _ _ seat index => [.cardDecryptable ⟨seat.val, index.val⟩]
  | .holeCardDecrypted _ _ seat index card => [.cardRevealed ⟨seat.val, index.val⟩ card]
  | .handCompleted .. => [.handComplete]
  | _ => []

theorem telling_shuffled (c : HandContext) :
    HandState.telling (actionsOf (shuffled c))
      = if endsShuffle c then [.shuffleComplete] else [] := by
  cases htotal : c.shuffleTotal with
  | none =>
    simp only [shuffled, endsShuffle, htotal]
    split <;> rfl
  | some total =>
    simp only [shuffled, endsShuffle, htotal, Option.any_some]
    split <;> rfl

theorem telling_dealt (players : Nat) : HandState.telling (actionsOf (dealt players)) = [] := by
  rw [HandState.telling, List.filter_eq_nil_iff]
  intro a ha
  simp only [actionsOf, dealt, List.mem_filterMap, List.mem_flatMap] at ha
  obtain ⟨e, ⟨slot, _, he⟩, hea⟩ := ha
  simp only [List.mem_cons, List.not_mem_nil, or_false] at he
  rcases he with rfl | rfl
  · cases hea
    simp [Action.isInert]
  · cases hea

theorem telling_append (xs ys : List Action) :
    HandState.telling (xs ++ ys) = HandState.telling xs ++ HandState.telling ys :=
  List.filter_append xs ys

theorem telling_shareReceived (c : HandContext) (kind : ShareKind) (actor : Actor) (s : Share) :
    HandState.telling (actionsOf (shareReceived c kind actor s)) = [] := by
  unfold shareReceived
  cases shareTarget? c s.position <;> rfl

theorem telling_dealingStarted (deck : List Card) (c : HandContext) :
    HandState.telling (actionsOf (dealingStarted deck c))
      = (if !c.shuffleCompleted then [.shuffleComplete] else []) ++ [.startDealing deck] := by
  have hdealt : actionsOf (dealingStarted deck c)
      = actionsOf (if c.shuffleCompleted then []
          else [.remember { c with dealingStarted := true, shuffleCompleted := true },
            .dispatch .shuffleComplete])
        ++ .startDealing deck :: actionsOf (dealt c.playerCount) := by
    simp only [dealingStarted, actionsOf, List.filterMap_append, List.append_assoc]
    rfl
  rw [hdealt, telling_append]
  show _ ++ .startDealing deck :: HandState.telling (actionsOf (dealt c.playerCount)) = _
  rw [telling_dealt]
  cases c.shuffleCompleted <;> rfl

/-- **The narrator in outline.** -/
theorem telling_effects (deck : List Card) (c : HandContext) {e : FeedEvent}
    (he : e.kind ≠ .handCreated) :
    HandState.telling (actionsOf (effects deck c e)) = tellingOf deck c e := by
  cases e with
  | handCreated => exact absurd rfl he
  | playerCreated gameId seat displayName publicKey =>
    simp only [effects, playerCreated]
    split <;> rfl
  | communityDecrypted | cardDecryptable | holeCardDecrypted | handCompleted => rfl
  | gameEvent f =>
    show HandState.telling (.eventProcessed f.seqId :: actionsOf _) = _
    rw [HandState.telling, List.filter_cons]
    show HandState.telling (actionsOf _) = _
    rw [tellingOf]
    cases f.message with
    | shuffle => exact telling_shuffled c
    | blinding share =>
      simp only [actionsOf, List.filterMap_append, tellingOfBlinding]
      rw [telling_append, ← actionsOf, ← actionsOf, telling_shareReceived, List.append_nil]
      split
      · rfl
      · exact telling_dealingStarted deck c
    | partialUnblinding share => exact telling_shareReceived c .unblinding _ share
    | bet | showdown => rfl

/-! ## What the narrator remembers -/

theorem contextAfter_append (c : HandContext) (xs ys : List Effect) :
    contextAfter c (xs ++ ys) = contextAfter (contextAfter c xs) ys :=
  List.foldl_append

/-- Actions and cues are not remembered. -/
theorem contextAfter_of_forall_ne {effects : List Effect}
    (h : ∀ e ∈ effects, ∀ c', e ≠ .remember c') (c : HandContext) :
    contextAfter c effects = c := by
  induction effects with
  | nil => rfl
  | cons e effects ih =>
    obtain ⟨he, hrest⟩ := List.forall_mem_cons.mp h
    cases e with
    | remember c' => exact absurd rfl (he c')
    | dispatch a => exact ih hrest
    | cue cue => exact ih hrest

theorem contextAfter_dealt (c : HandContext) (players : Nat) :
    contextAfter c (dealt players) = c := by
  refine contextAfter_of_forall_ne (fun e he c' => ?_) c
  obtain ⟨slot, _, hslot⟩ := List.mem_flatMap.mp he
  simp only [List.mem_cons, List.not_mem_nil, or_false] at hslot
  rcases hslot with rfl | rfl <;> simp

theorem contextAfter_shareReceived (c c' : HandContext) (kind : ShareKind) (actor : Actor)
    (s : Share) : contextAfter c (shareReceived c' kind actor s) = c := by
  unfold shareReceived
  cases shareTarget? c' s.position <;> rfl

/-- The deal ends the shuffle in any case. -/
theorem contextAfter_dealingStarted (deck : List Card) (c : HandContext) :
    contextAfter c (dealingStarted deck c)
      = { c with dealingStarted := true, shuffleCompleted := true } := by
  simp only [dealingStarted, contextAfter_append, contextAfter_dealt]
  cases hover : c.shuffleCompleted with
  | true => simp only [if_true, ← hover]; rfl
  | false => rfl

/-- What is remembered of a shuffle. -/
theorem contextAfter_shuffled (c : HandContext) :
    ∃ reported, contextAfter c (shuffled c) = { c with
      shuffleCount := c.shuffleCount + 1
      shuffleCompleted := c.shuffleCompleted || endsShuffle c
      missingTotalReported := reported } := by
  cases htotal : c.shuffleTotal with
  | none =>
    refine ⟨true, ?_⟩
    simp only [shuffled, endsShuffle, htotal, Option.any_none, Bool.false_and, Bool.or_false]
    split
    · next hreported =>
      rw [← hreported]
      simp only [← htotal]
      rfl
    · simp only [← htotal]
      rfl
  | some total =>
    refine ⟨c.missingTotalReported, ?_⟩
    simp only [shuffled, endsShuffle, htotal, Option.any_some]
    split
    · next hends =>
      rw [hends, Bool.or_true]
      rfl
    · next hgoes =>
      rw [Bool.eq_false_iff.mpr hgoes, Bool.or_false]
      rfl

end Narrator

/-- The context shows what was heard of the shuffle and of the deal. -/
structure HandContext.Counts (hand : HandCreated) (heard : List FeedEvent) (c : HandContext) :
    Prop where
  total : c.shuffleTotal = hand.shufflerCount
  count : c.shuffleCount = heard.countP FeedEvent.isShuffle
  started : c.dealingStarted = heard.any FeedEvent.isBlinding
  completed : c.shuffleCompleted = shuffleOver hand heard

namespace HandContext

variable {hand : HandCreated} {heard : List FeedEvent} {c : HandContext}

/-- An event that is neither a shuffle nor a blinding share changes nothing that counts. -/
theorem Counts.aside (h : Counts hand heard c) {e : FeedEvent} (hshuffle : e.isShuffle = false)
    (hblinding : e.isBlinding = false) (key : Json) :
    Counts hand (heard ++ [e]) { c with viewerKey := key } where
  total := h.total
  count := by simp [h.count, hshuffle]
  started := by simp [h.started, hblinding]
  completed := by rw [h.completed, shuffleOver_concat_of_aside hshuffle hblinding]

/-- Whether the shuffle is over after one more shuffle. -/
theorem Counts.shuffleOver_concat (h : Counts hand heard c) {e : FeedEvent}
    (hshuffle : e.isShuffle = true) (hblinding : e.isBlinding = false) :
    shuffleOver hand (heard ++ [e])
      = (shuffleOver hand heard || Narrator.endsShuffle c) := by
  rw [shuffleOver_concat_of_isShuffle hshuffle hblinding, ← h.completed, ← h.count, ← h.total,
    Narrator.endsShuffle]
  cases c.shuffleCompleted <;> simp

/-- One more shuffle. -/
theorem Counts.shuffled (h : Counts hand heard c) {e : FeedEvent} (hshuffle : e.isShuffle = true)
    (hblinding : e.isBlinding = false) :
    Counts hand (heard ++ [e]) (Narrator.contextAfter c (Narrator.shuffled c)) := by
  obtain ⟨reported, hafter⟩ := Narrator.contextAfter_shuffled c
  rw [hafter]
  refine ⟨h.total, ?_, ?_, ?_⟩
  · simp [h.count, hshuffle]
  · simp [h.started, hblinding]
  · rw [h.shuffleOver_concat hshuffle hblinding, h.completed]

/-- A blinding share begins the deal, unless one was heard before. -/
theorem Counts.dealing (h : Counts hand heard c) {e : FeedEvent} (hshuffle : e.isShuffle = false)
    (hblinding : e.isBlinding = true) :
    Counts hand (heard ++ [e]) (if c.dealingStarted then c
      else { c with dealingStarted := true, shuffleCompleted := true }) := by
  have hover : shuffleOver hand (heard ++ [e]) = true := shuffleOver_concat_of_isBlinding hblinding
  have hcount : (heard ++ [e]).countP FeedEvent.isShuffle = heard.countP FeedEvent.isShuffle := by
    simp [hshuffle]
  have hstarted : (heard ++ [e]).any FeedEvent.isBlinding = true := by simp [hblinding]
  split
  · next hbefore =>
    refine ⟨h.total, h.count.trans hcount.symm, hbefore.trans hstarted.symm, ?_⟩
    rw [h.completed, hover]
    exact shuffleOver_of_any (h.started ▸ hbefore)
  · exact ⟨h.total, h.count.trans hcount.symm, hstarted.symm, hover.symm⟩

/-- **One event** of a hand that goes on. -/
theorem Counts.tell (h : Counts hand heard c) (deck : List Card) {e : FeedEvent}
    (he : e.kind ≠ .handCreated) :
    Counts hand (heard ++ [e]) (Narrator.contextAfter c (Narrator.effects deck c e)) := by
  cases e with
  | handCreated => exact absurd rfl he
  | playerCreated gameId seat displayName publicKey =>
    simp only [Narrator.effects, Narrator.playerCreated]
    split
    · exact h.aside rfl rfl _
    · exact h.aside rfl rfl c.viewerKey
  | communityDecrypted | cardDecryptable | holeCardDecrypted | handCompleted =>
    exact h.aside rfl rfl c.viewerKey
  | gameEvent f =>
    cases hmessage : f.message with
    | shuffle turn deckIn deckOut proof =>
      have hshuffle : (FeedEvent.gameEvent f).isShuffle = true := by
        simp [FeedEvent.isShuffle, hmessage]
      have hblinding : (FeedEvent.gameEvent f).isBlinding = false := by
        simp [FeedEvent.isBlinding, hmessage]
      have hcontext : Narrator.contextAfter c (Narrator.effects deck c (.gameEvent f))
          = Narrator.contextAfter c (Narrator.shuffled c) := by
        simp only [Narrator.effects, Narrator.envelope, hmessage]
        rfl
      rw [hcontext]
      exact h.shuffled hshuffle hblinding
    | blinding share =>
      have hshuffle : (FeedEvent.gameEvent f).isShuffle = false := by
        simp [FeedEvent.isShuffle, hmessage]
      have hblinding : (FeedEvent.gameEvent f).isBlinding = true := by
        simp [FeedEvent.isBlinding, hmessage]
      have hcontext : Narrator.contextAfter c (Narrator.effects deck c (.gameEvent f))
          = if c.dealingStarted then c
            else { c with dealingStarted := true, shuffleCompleted := true } := by
        simp only [Narrator.effects, Narrator.envelope, hmessage]
        show Narrator.contextAfter c (_ ++ _) = _
        rw [Narrator.contextAfter_append, Narrator.contextAfter_shareReceived]
        split
        · rfl
        · exact Narrator.contextAfter_dealingStarted deck c
      rw [hcontext]
      exact h.dealing hshuffle hblinding
    | partialUnblinding share =>
      simp only [Narrator.effects, Narrator.envelope, hmessage]
      show Counts hand (heard ++ [.gameEvent f])
        (Narrator.contextAfter c (Narrator.shareReceived c .unblinding f.envelope.actor share))
      rw [Narrator.contextAfter_shareReceived]
      exact h.aside (by simp [FeedEvent.isShuffle, hmessage])
        (by simp [FeedEvent.isBlinding, hmessage]) c.viewerKey
    | bet | showdown =>
      simp only [Narrator.effects, Narrator.envelope, hmessage]
      exact h.aside (by simp [FeedEvent.isShuffle, hmessage])
        (by simp [FeedEvent.isBlinding, hmessage]) c.viewerKey

end HandContext

/-- The picture shows, in outline, what was heard. -/
structure HandState.Shows (hand : HandCreated) (heard : List FeedEvent) (s : HandState) : Prop where
  playerCount : s.playerCount = hand.playerCount
  viewerSeat : s.viewerSeat = MentalPoker.viewerSeat
  phase : PhaseAfter hand heard s.phase
  marks : ∀ slot, MarksAfter hand heard slot (s.marksAt slot)

namespace HandState

variable {hand : HandCreated} {heard : List FeedEvent} {s : HandState}

theorem Shows.of_outlines (h : s.Shows hand heard) {t : HandState} (ht : Outlines s t) :
    t.Shows hand heard where
  playerCount := ht.playerCount.trans h.playerCount
  viewerSeat := ht.viewerSeat.trans h.viewerSeat
  phase := by rw [ht.phase]; exact h.phase
  marks slot := by rw [ht.marksAt]; exact h.marks slot

/-- An event of which nothing is said in outline. -/
theorem Shows.aside (h : s.Shows hand heard) {e : FeedEvent} (hshuffle : e.isShuffle = false)
    (hblinding : e.isBlinding = false) (hend : e.kind ≠ .handCompleted)
    (hreadies : ∀ slot, e.readies slot = false) (hface : ∀ slot, e.faceFor? slot = none) :
    s.Shows hand (heard ++ [e]) where
  playerCount := h.playerCount
  viewerSeat := h.viewerSeat
  phase := h.phase.aside hshuffle hblinding hend
  marks slot := by
    have hmarks := (h.marks slot).concat (f := id) (dealt_concat_of_not_isBlinding hblinding)
      (marksSince_concat_of_aside (hreadies slot) (hface slot))
    rwa [Option.map_id, id] at hmarks

/-- A notice of a card. -/
theorem Shows.notice (h : s.Shows hand heard) {e : FeedEvent} (hshuffle : e.isShuffle = false)
    (hblinding : e.isBlinding = false) (hend : e.kind ≠ .handCompleted) {a : Action}
    (ha : a.target?.isSome = true)
    (hafter : ∀ slot events, marksSince slot (events ++ [e])
      = (marksSince slot events).after MentalPoker.viewerSeat slot a) :
    (s.step a).Shows hand (heard ++ [e]) := by
  have htable : ((s.step a).playerCount, (s.step a).viewerSeat)
      = (s.playerCount, s.viewerSeat) := by
    rw [step_table]
    cases a <;> first | rfl | cases ha
  have hphase : (s.step a).phase = s.phase := by
    rw [step_phase]
    cases a <;> first | rfl | cases ha
  have hmarks (slot : Slot) : (s.step a).marksAt slot
      = (s.marksAt slot).map fun m => m.after MentalPoker.viewerSeat slot a := by
    rw [marksAt_step, h.viewerSeat]
    cases a <;> first | rfl | cases ha
  refine ⟨(congrArg Prod.fst htable).trans h.playerCount,
    (congrArg Prod.snd htable).trans h.viewerSeat, ?_, fun slot => ?_⟩
  · rw [hphase]
    exact h.phase.aside hshuffle hblinding hend
  · rw [hmarks]
    exact (h.marks slot).concat (dealt_concat_of_not_isBlinding hblinding) (hafter slot)

/-- The outline when the shuffle ends, or goes on. -/
theorem run_shuffleComplete (s : HandState) (ends : Bool) :
    let t := s.run (if ends then [.shuffleComplete] else [])
    (t.playerCount = s.playerCount ∧ t.viewerSeat = s.viewerSeat)
      ∧ t.phase = (if ends = true ∧ s.phase = .shuffling then .dealing else s.phase)
      ∧ ∀ slot, t.marksAt slot = s.marksAt slot := by
  cases ends with
  | false => exact ⟨⟨rfl, rfl⟩, by simp, fun _ => rfl⟩
  | true =>
    have htable := step_table s .shuffleComplete
    refine ⟨⟨congrArg Prod.fst htable, congrArg Prod.snd htable⟩, ?_, fun slot => ?_⟩
    · rw [if_pos rfl, run_cons, run_nil, step_phase]
      simp
    · rw [if_pos rfl, run_cons, run_nil, marksAt_step]
      exact Option.map_id'

/-- A shuffle, or a blinding share after the first: no cards come onto the table. -/
theorem Shows.shuffle (h : s.Shows hand heard) {e : FeedEvent}
    (hend : e.kind ≠ .handCompleted) (hdealt : Dealt hand (heard ++ [e]) ↔ Dealt hand heard)
    (hreadies : ∀ slot, e.readies slot = false) (hface : ∀ slot, e.faceFor? slot = none)
    {ends : Bool} (hover : shuffleOver hand (heard ++ [e]) = (shuffleOver hand heard || ends)) :
    (s.run (if ends then [.shuffleComplete] else [])).Shows hand (heard ++ [e]) := by
  obtain ⟨⟨hplayers, hviewer⟩, hphase, hmarks⟩ := run_shuffleComplete s ends
  refine ⟨hplayers.trans h.playerCount, hviewer.trans h.viewerSeat, ?_, fun slot => ?_⟩
  · rw [hphase]
    exact h.phase.advance hend ends hover
  · have hkept := (h.marks slot).concat (f := id) hdealt
      (marksSince_concat_of_aside (hreadies slot) (hface slot))
    rwa [Option.map_id, id, ← hmarks] at hkept

/-- The first blinding share: the shuffle ends if it did not, and the cards come onto the table
unless the hand has ended. -/
theorem Shows.deal (h : s.Shows hand heard) (deck : List Card) {e : FeedEvent}
    (hfirst : heard.any FeedEvent.isBlinding = false) (hblinding : e.isBlinding = true)
    (hend : e.kind ≠ .handCompleted)
    (hreadies : ∀ slot, e.readies slot = false) (hface : ∀ slot, e.faceFor? slot = none) :
    (s.run ((if !shuffleOver hand heard then [.shuffleComplete] else [])
      ++ [.startDealing deck])).Shows hand (heard ++ [e]) := by
  obtain ⟨⟨hplayers, hviewer⟩, hphase, hmarks⟩ := run_shuffleComplete s (!shuffleOver hand heard)
  rw [run_append]
  generalize s.run (if !shuffleOver hand heard then [.shuffleComplete] else []) = t
    at hplayers hviewer hphase hmarks ⊢
  have hover : shuffleOver hand (heard ++ [e]) = true := shuffleOver_concat_of_isBlinding hblinding
  -- the shuffle is over now, and nothing lies on the table yet
  have hphase : PhaseAfter hand (heard ++ [e]) t.phase := by
    rw [hphase]
    exact h.phase.advance hend _ (by rw [hover, Bool.or_not_self])
  have hnever : ¬ Dealt hand heard := not_dealt_of_any_eq_false hfirst
  have hnone (slot : Slot) : t.marksAt slot = none :=
    (hmarks slot).trans ((h.marks slot).eq_none hnever)
  have hempty : t.cards.isEmpty := cards_isEmpty_iff.mpr hnone
  -- and the deal begins just when the hand has not ended, as `Dealt` has it
  have hdealt : Dealt hand (heard ++ [e]) ↔ t.phase ≠ .complete := by
    rw [dealt_concat, or_iff_right hnever, and_iff_left hblinding, ← completed_concat_of_ne hend,
      Ne, hphase.complete_iff]
  have htable := step_table t (.startDealing deck)
  rw [run_cons, run_nil]
  refine ⟨(congrArg Prod.fst htable).trans (hplayers.trans h.playerCount),
    (congrArg Prod.snd htable).trans (hviewer.trans h.viewerSeat), ?_, fun slot => ?_⟩
  · rw [step_phase]
    simp only [hphase.ne_shuffling hover, and_false, if_false]
    exact hphase
  · rw [marksAt_step, MarksAfter, OnTable, hdealt,
      marksSince_sinceDeal_first hfirst hblinding (hreadies slot) (hface slot)]
    simp only [hempty, true_and, hplayers.trans h.playerCount, hnone]
    by_cases hcomplete : t.phase = .complete
    · exact .inr ⟨fun htable => htable.2 hcomplete, by rw [if_neg fun hne => hne hcomplete]⟩
    · by_cases hslot : slot ∈ dealOrder hand.playerCount
      · exact .inl ⟨⟨hslot, hcomplete⟩, by rw [if_pos hcomplete, if_pos hslot]⟩
      · exact .inr ⟨fun htable => hslot htable.1, by rw [if_pos hcomplete, if_neg hslot]⟩

/-- The end of the hand. -/
theorem Shows.handCompleted (h : s.Shows hand heard) {e : FeedEvent}
    (he : e.kind = .handCompleted) :
    (s.run [.handComplete]).Shows hand (heard ++ [e]) := by
  have hquiet : e.isBlinding = false ∧ ∀ slot, e.readies slot = false ∧ e.faceFor? slot = none := by
    cases e with
    | handCompleted => exact ⟨rfl, fun _ => ⟨rfl, rfl⟩⟩
    | _ => cases he
  have htable := step_table s .handComplete
  rw [run_cons, run_nil]
  refine ⟨(congrArg Prod.fst htable).trans h.playerCount,
    (congrArg Prod.snd htable).trans h.viewerSeat, ?_, fun slot => ?_⟩
  · rw [step_phase]
    exact h.phase.handCompleted he
  · rw [marksAt_step]
    exact (h.marks slot).concat (dealt_concat_of_not_isBlinding hquiet.1)
      (marksSince_concat_of_aside (hquiet.2 slot).1 (hquiet.2 slot).2)

/-- **One event** of a hand that goes on. -/
theorem Shows.tell {c : HandContext} (hc : c.Counts hand heard) (h : s.Shows hand heard)
    (deck : List Card) {e : FeedEvent} (he : e.kind ≠ .handCreated) :
    (s.run (Narrator.tellingOf deck c e)).Shows hand (heard ++ [e]) := by
  cases e with
  | handCreated => exact absurd rfl he
  | playerCreated | communityDecrypted =>
    exact h.aside rfl rfl (by simp [FeedEvent.kind]) (fun _ => rfl) fun _ => rfl
  | cardDecryptable gameId handId seat index =>
    exact h.notice rfl rfl (by simp [FeedEvent.kind]) rfl fun slot events =>
      marksSince_concat_cardDecryptable slot events gameId handId seat index
  | holeCardDecrypted gameId handId seat index card =>
    exact h.notice rfl rfl (by simp [FeedEvent.kind]) rfl fun slot events =>
      marksSince_concat_holeCardDecrypted slot events gameId handId seat index card
  | handCompleted => exact h.handCompleted rfl
  | gameEvent f =>
    cases hmessage : f.message with
    | shuffle turn deckIn deckOut proof =>
      have hshuffle : (FeedEvent.gameEvent f).isShuffle = true := by
        simp [FeedEvent.isShuffle, hmessage]
      have hblinding : (FeedEvent.gameEvent f).isBlinding = false := by
        simp [FeedEvent.isBlinding, hmessage]
      simp only [Narrator.tellingOf, hmessage]
      exact h.shuffle (by simp [FeedEvent.kind]) (dealt_concat_of_not_isBlinding hblinding)
        (fun _ => rfl) (fun _ => rfl) (hc.shuffleOver_concat hshuffle hblinding)
    | blinding share =>
      have hblinding : (FeedEvent.gameEvent f).isBlinding = true := by
        simp [FeedEvent.isBlinding, hmessage]
      simp only [Narrator.tellingOf, hmessage, Narrator.tellingOfBlinding, hc.started, hc.completed]
      -- only the first blinding share brings the cards onto the table
      cases hany : heard.any FeedEvent.isBlinding with
      | true =>
        have hover : shuffleOver hand (heard ++ [.gameEvent f])
            = (shuffleOver hand heard || false) := by
          rw [shuffleOver_concat_of_isBlinding hblinding, shuffleOver_of_any hany, Bool.true_or]
        exact h.shuffle (by simp [FeedEvent.kind]) (dealt_concat_of_any hany) (fun _ => rfl)
          (fun _ => rfl) hover
      | false =>
        exact h.deal deck hany hblinding (by simp [FeedEvent.kind]) (fun _ => rfl) fun _ => rfl
    | partialUnblinding | bet | showdown =>
      simp only [Narrator.tellingOf, hmessage]
      exact h.aside (by simp [FeedEvent.isShuffle, hmessage])
        (by simp [FeedEvent.isBlinding, hmessage]) (by simp [FeedEvent.kind]) (fun _ => rfl)
        fun _ => rfl

end HandState

/-! ## Tales -/

namespace Tale

/-- Where the narrator stands, in outline, after some events of a hand. -/
structure Stands (hand : HandCreated) (heard : List FeedEvent) (t : Tale) : Prop where
  context : t.context.Counts hand heard
  picture : t.picture.Shows hand heard

/-- The announcement of a hand starts the context of that hand. -/
theorem tell_handCreated_context (deck : List Card) (t : Tale) (hand : HandCreated) :
    (t.tell deck (.handCreated hand)).context = Narrator.contextOfHand t.context hand := by
  show Narrator.contextAfter t.context (Narrator.handCreated t.context hand) = _
  cases htotal : hand.shufflerCount <;>
    simp only [Narrator.handCreated, Narrator.contextOfHand, htotal] <;> rfl

/-- A hand that was just announced. -/
theorem stands_handCreated (deck : List Card) (t : Tale) (hand : HandCreated) :
    (t.tell deck (.handCreated hand)).Stands hand [] := by
  have htelling : HandState.telling
      (Narrator.actionsOf (Narrator.effects deck t.context (.handCreated hand)))
        = [.initGame hand.gameId hand.handId hand.playerCount
          (Narrator.contextOfHand t.context hand).viewerKey, .startShuffle] := by
    show HandState.telling (Narrator.actionsOf (Narrator.handCreated t.context hand)) = _
    cases htotal : hand.shufflerCount <;>
      simp only [Narrator.handCreated, Narrator.contextOfHand, htotal] <;> rfl
  constructor
  · rw [tell_handCreated_context]
    exact ⟨rfl, rfl, rfl, (shuffleOver_nil hand).symm⟩
  · have houtline := HandState.outlines_run (.refl t.picture)
      (Narrator.actionsOf (Narrator.effects deck t.context (.handCreated hand)))
    rw [htelling] at houtline
    refine HandState.Shows.of_outlines ?_ (houtline.trans ⟨rfl, rfl, rfl, fun _ => rfl⟩)
    refine ⟨rfl, rfl, .inr ⟨not_cameWhile_nil, ?_⟩, fun slot => .inr ⟨?_, rfl⟩⟩
    · rw [shuffleOver_nil]
      rfl
    · exact fun htable => not_cameWhile_nil htable.2

/-- **One event** of a hand that goes on. -/
theorem Stands.tell {hand : HandCreated} {heard : List FeedEvent} {t : Tale}
    (h : t.Stands hand heard) (deck : List Card) {e : FeedEvent} (he : e.kind ≠ .handCreated) :
    (t.tell deck e).Stands hand (heard ++ [e]) where
  context := h.context.tell deck he
  picture := by
    have houtline := HandState.outlines_run (.refl t.picture)
      (Narrator.actionsOf (Narrator.effects deck t.context e))
    rw [Narrator.telling_effects deck t.context he] at houtline
    exact (h.picture.tell h.context deck he).of_outlines
      (houtline.trans ⟨rfl, rfl, rfl, fun _ => rfl⟩)

/-- **The course of a hand.** Its picture is told, in outline, by what was heard since it was
announced. Induction along the events. -/
theorem stands_tellAll (deck : List Card) (t : Tale) (hand : HandCreated) {heard : List FeedEvent}
    (h : ∀ e ∈ heard, e.kind ≠ .handCreated) :
    ((t.tell deck (.handCreated hand)).tellAll deck heard).Stands hand heard := by
  induction heard using List.reverseRecOn with
  | nil => exact stands_handCreated deck t hand
  | append_singleton heard e ih =>
    rw [List.forall_mem_append] at h
    rw [tellAll_append]
    exact (ih h.1).tell deck (h.2 e (List.mem_singleton.mpr rfl))

end Tale

end MentalPoker
