import MentalPoker.Proofs.Hand.Standing

/-!
# The picture mirrors the context

What the narrator remembers of a hand and what its picture shows are kept apart, and some of it is
kept twice: the count of players, the viewer's key, how far the shuffle is, whether the deal began.
An event moves the two by several steps of its own, of which the picture refuses those that do not
fit its phase. After every event the two agree again.

## The architecture

* **`HandState.Mirrors`**: the picture and the context agree. While the shuffle goes on they agree
  on all of it (`HandState.ShowsShuffle`).
* **`Mirrors.step`**: actions that touch nothing that is kept twice.
* **`Mirrors.shuffle`**, **`Mirrors.deal`**, **`mirrors_handCreated`**: what moves both sides by more
  than one step.
* **`Tale.Mirrors.tell`**: any event; `Tale.Mirrors.tellAll` is the induction.
-/

namespace MentalPoker

/-- Two keys agree: they are equal, or neither is given. -/
def KeysAgree (key key' : Json) : Prop := key = key' ∨ (key.truthy = false ∧ key'.truthy = false)

namespace HandState

/-- The picture shows a shuffle that goes on as the context counts it. -/
structure ShowsShuffle (c : HandContext) (s : HandState) : Prop where
  notDealing : c.dealingStarted = false
  notOver : c.shuffleCompleted = false
  noCards : s.cards = []
  count : s.currentStep = c.shuffleCount
  total : s.totalSteps = (c.shuffleTotal.getD 0 : Nat)
  goesOn : ∀ total ∈ c.shuffleTotal, c.shuffleCount < total

/-- The picture and the context of a hand agree. -/
structure Mirrors (c : HandContext) (s : HandState) : Prop where
  players : s.playerCount = c.playerCount
  keys : KeysAgree s.viewerKey c.viewerKey
  shuffling : s.phase = .shuffling → s.ShowsShuffle c
  dealing : s.phase = .dealing → c.shuffleCompleted = true
  cards : ∀ slot card, Table.get? slot s.cards = some card →
    c.dealingStarted = true ∧ card.dealt = true
  steps : 0 < s.totalSteps → 0 ≤ s.currentStep ∧ s.currentStep ≤ s.totalSteps

/-- The rest of the picture does not matter to the shuffle. -/
theorem ShowsShuffle.of_eq {c : HandContext} {s t : HandState} (h : s.ShowsShuffle c)
    (hcards : t.cards = s.cards) (hcurrent : t.currentStep = s.currentStep)
    (htotal : t.totalSteps = s.totalSteps) : t.ShowsShuffle c :=
  ⟨h.notDealing, h.notOver, hcards.trans h.noCards, hcurrent.trans h.count, htotal.trans h.total,
    h.goesOn⟩

theorem mirrors_fresh : fresh.Mirrors .fresh where
  players := rfl
  keys := .inl rfl
  shuffling h := nomatch h
  dealing h := nomatch h
  cards _ _ h := nomatch h
  steps h := absurd h (by decide)

/-! ## Fields after an action -/

theorem step_viewerKey (s : HandState) (a : Action) :
    (s.step a).viewerKey =
      match a with
      | .initGame _ _ _ key => if key.truthy then key else s.viewerKey
      | .setViewerKey key => key
      | _ => s.viewerKey := by
  cases a
  case initGame | setViewerKey | updateStatus | setError | eventProcessed => rfl
  case startDealing deck =>
    rw [step_startDealing]
    split <;> rfl
  all_goals
    exact step_frame HandState.viewerKey (fun _ _ _ _ _ _ => rfl) s
      (by simp [Action.target?, Action.isProgress])

/-- How far the shuffle is shown to be, after any action. -/
theorem step_progress (s : HandState) (a : Action) :
    ((s.step a).totalSteps, (s.step a).currentStep) =
      match a with
      | .initGame .. => (0, 0)
      | .startShuffle => (s.totalSteps, if s.phase = .idle then 0 else s.currentStep)
      | .shuffleProgress current total =>
        if s.phase = .shuffling then (total, current) else (s.totalSteps, s.currentStep)
      | _ => (s.totalSteps, s.currentStep) := by
  have hcard {a : Action} {slot : Slot} (ha : a.target? = some slot) :
      ((s.step a).totalSteps, (s.step a).currentStep) = (s.totalSteps, s.currentStep) := by
    obtain ⟨_, _, hs⟩ := step_eq_of_target? (s := s) ha
    rw [hs]
  cases a with
  | initGame | setViewerKey | updateStatus | setError | eventProcessed => rfl
  | cardDealt | shareReceived | cardDecryptable | cardRevealed => exact hcard rfl
  | startDealing deck =>
    rw [step_startDealing]
    split <;> rfl
  | shuffleProgress current total =>
    simp only [step, step?, shuffleProgress?]
    split <;> rfl
  | startShuffle | shuffleComplete | handComplete =>
    cases hphase : s.phase <;> simp [step, step?, enter?, HandPhase.predecessor?, say, hphase]

/-- The end of the shuffle, or none, moves the phase and the status line only. -/
theorem run_shuffleComplete_eq (s : HandState) (ends : Bool) :
    ∃ status, s.run (if ends then [.shuffleComplete] else []) = { s with
      phase := if ends = true ∧ s.phase = .shuffling then .dealing else s.phase
      status := status } := by
  cases ends with
  | false => exact ⟨s.status, rfl⟩
  | true =>
    show ∃ status, s.step .shuffleComplete = _
    by_cases hphase : s.phase = .shuffling
    · simp only [step, step?, enter?, HandPhase.predecessor?, hphase]
      exact ⟨_, rfl⟩
    · have hother : ¬ HandPhase.predecessor? .dealing = some s.phase := fun h =>
        hphase (Option.some.inj h).symm
      have hstays : s.step .shuffleComplete = s := by
        rw [step, step?, enter?, if_neg hother]
        rfl
      rw [hstays, if_neg fun hends => hphase hends.2]
      exact ⟨s.status, rfl⟩

theorem step_shuffleProgress (s : HandState) (current total : Int) :
    ∃ status, s.step (.shuffleProgress current total) =
      if s.phase = .shuffling then
        { s with currentStep := current, totalSteps := total, status := status }
      else s := by
  simp only [step, step?, shuffleProgress?]
  split
  · exact ⟨_, rfl⟩
  · exact ⟨s.status, rfl⟩

/-! ## Actions that touch nothing that is kept twice -/

end HandState

/-- The action touches nothing that the context keeps, too: it is about a card on the table, ends
the hand, or writes a line. -/
def Action.isPlain : Action → Bool
  | cardDealt _ | shareReceived .. | cardDecryptable _ | cardRevealed .. | handComplete
  | updateStatus _ | setError _ | eventProcessed _ => true
  | _ => false

/-- A card that was dealt stays so. -/
theorem Action.dealt_onCard {viewer : Int} {slot : Slot} {card : CardProgress} (a : Action)
    (h : card.dealt = true) : (a.onCard viewer slot card).dealt = true := by
  unfold onCard
  split
  · cases a with
    | cardDealt => rfl
    | shareReceived kind r => cases kind <;> exact h
    | cardRevealed k face =>
      simp only [mark]
      split <;> exact h
    | _ => exact h
  · exact h

namespace HandState

variable {c : HandContext} {s : HandState}

theorem cards_eq_nil_iff : s.cards = [] ↔ ∀ slot, Table.get? slot s.cards = none := by
  rw [← List.isEmpty_iff, cards_isEmpty_iff]
  simp only [marksAt, Option.map_eq_none_iff]

/-- The cards after a plain action are those that lay on the table, some of them marked. -/
theorem get?_cards_step_of_isPlain {a : Action} (ha : a.isPlain = true) (slot : Slot) :
    Table.get? slot (s.step a).cards
      = (Table.get? slot s.cards).map fun card => a.onCard s.viewerSeat slot card := by
  rw [get?_cards_step]
  cases a <;> first | rfl | cases ha

/-- **A plain action** keeps picture and context in agreement. -/
theorem Mirrors.step (h : s.Mirrors c) {a : Action} (ha : a.isPlain = true) :
    (s.step a).Mirrors c := by
  have hplayers : (s.step a).playerCount = s.playerCount := by
    have htable := congrArg Prod.fst (step_table s a)
    cases a <;> first | exact htable | cases ha
  have hkey : (s.step a).viewerKey = s.viewerKey := by
    rw [step_viewerKey]
    cases a <;> first | rfl | cases ha
  have hprogress : ((s.step a).totalSteps, (s.step a).currentStep)
      = (s.totalSteps, s.currentStep) := by
    rw [step_progress]
    cases a <;> first | rfl | cases ha
  obtain ⟨htotal, hcurrent⟩ := Prod.mk.inj hprogress
  -- the hand may end, but otherwise the phase stays
  have hphase : (s.step a).phase = s.phase ∨ (s.step a).phase = .complete := by
    rw [step_phase]
    cases a
    case handComplete =>
      dsimp only
      split
      · exact .inr rfl
      · exact .inl rfl
    all_goals first | exact .inl rfl | cases ha
  have hback {phase : HandPhase} (hp : (s.step a).phase = phase) (hne : phase ≠ .complete) :
      s.phase = phase := by
    rcases hphase with hsame | hover
    · exact hsame ▸ hp
    · exact absurd (hp.symm.trans hover) hne
  refine ⟨hplayers.trans h.players, by rw [hkey]; exact h.keys, fun hp => ?_, fun hp => ?_,
    fun slot card hcard => ?_, ?_⟩
  · have hshows := h.shuffling (hback hp (by decide))
    have hcards : (s.step a).cards = s.cards := by
      rw [hshows.noCards, cards_eq_nil_iff]
      intro slot
      rw [get?_cards_step_of_isPlain ha, hshows.noCards]
      rfl
    exact hshows.of_eq hcards hcurrent htotal
  · exact h.dealing (hback hp (by decide))
  · rw [get?_cards_step_of_isPlain ha, Option.map_eq_some_iff] at hcard
    obtain ⟨before, hbefore, rfl⟩ := hcard
    obtain ⟨hstarted, hdealt⟩ := h.cards slot before hbefore
    exact ⟨hstarted, a.dealt_onCard hdealt⟩
  · rw [htotal, hcurrent]
    exact h.steps

/-- Plain actions one after another. Induction along the actions. -/
theorem Mirrors.run (h : s.Mirrors c) {actions : List Action}
    (ha : ∀ a ∈ actions, a.isPlain = true) : (s.run actions).Mirrors c := by
  induction actions generalizing s with
  | nil => exact h
  | cons a actions ih =>
    obtain ⟨hfirst, hrest⟩ := List.forall_mem_cons.mp ha
    exact ih (h.step hfirst) hrest

/-! ## The shuffle -/

/-- **One more shuffle** is counted on both sides, and the last one ends the shuffle on both. -/
theorem Mirrors.shuffle (h : s.Mirrors c) (reported : Bool) :
    ((s.step (.shuffleProgress (c.shuffleCount + 1 : Nat) (c.shuffleTotal.getD 0 : Nat))).run
      (if Narrator.endsShuffle c then [.shuffleComplete] else [])).Mirrors
      { c with
        shuffleCount := c.shuffleCount + 1
        shuffleCompleted := c.shuffleCompleted || Narrator.endsShuffle c
        missingTotalReported := reported } := by
  obtain ⟨line, hstep⟩ := step_shuffleProgress s (c.shuffleCount + 1 : Nat)
    (c.shuffleTotal.getD 0 : Nat)
  obtain ⟨line', hrun⟩ := run_shuffleComplete_eq
    (s.step (.shuffleProgress (c.shuffleCount + 1 : Nat) (c.shuffleTotal.getD 0 : Nat)))
    (Narrator.endsShuffle c)
  rw [hrun, hstep]
  by_cases hphase : s.phase = .shuffling
  · rw [if_pos hphase]
    have hshows := h.shuffling hphase
    -- a shuffle that goes on has one more to come, which is this one
    have hsteps : (0 : Int) < (c.shuffleTotal.getD 0 : Nat) → (0 : Int) ≤ (c.shuffleCount + 1 : Nat)
        ∧ ((c.shuffleCount + 1 : Nat) : Int) ≤ (c.shuffleTotal.getD 0 : Nat) := by
      intro hpos
      cases htotal : c.shuffleTotal with
      | none => simp [htotal] at hpos
      | some total =>
        have hmore : c.shuffleCount < total := hshows.goesOn total (Option.mem_def.mpr htotal)
        rw [Option.getD_some]
        omega
    cases hends : Narrator.endsShuffle c with
    | true =>
      refine ⟨h.players, h.keys, fun hp => ?_, fun _ => Bool.or_true _, h.cards, hsteps⟩
      simp [hphase] at hp
    | false =>
      refine ⟨h.players, h.keys, fun _ => ?_, fun hp => ?_, h.cards, hsteps⟩
      · refine ⟨hshows.notDealing, ?_, hshows.noCards, rfl, rfl, fun total htotal => ?_⟩
        · rw [hshows.notOver]
          rfl
        · -- it does not end with this shuffle, so one more is to come
          have htotal : c.shuffleTotal = some total := Option.mem_def.mp htotal
          simp only [Narrator.endsShuffle, htotal, hshows.notOver, Option.any_some, Bool.not_false,
            Bool.and_true, decide_eq_false_iff_not] at hends
          show c.shuffleCount + 1 < total
          omega
      · simp [hphase] at hp
  · rw [if_neg hphase]
    simp only [hphase, and_false, if_false]
    refine ⟨h.players, h.keys, fun hp => absurd hp hphase, fun hp => ?_, h.cards, h.steps⟩
    rw [h.dealing hp, Bool.true_or]

/-! ## The deal -/

/-- Dealing cards changes the cards and the status line only. -/
theorem run_cardDealt_eq (slots : List Slot) (s : HandState) :
    ∃ cards status, s.run (slots.map .cardDealt) = { s with cards := cards, status := status } := by
  induction slots generalizing s with
  | nil => exact ⟨s.cards, s.status, rfl⟩
  | cons slot slots ih =>
    obtain ⟨_, _, hstep⟩ := step_eq_of_target? (s := s) (a := .cardDealt slot) rfl
    obtain ⟨cards, status, hrun⟩ := ih (s.step (.cardDealt slot))
    refine ⟨cards, status, ?_⟩
    rw [List.map_cons, run_cons, hrun, hstep]

/-- The cards that are dealt, one after another, are dealt in the end. -/
theorem dealt_of_run_cardDealt {slots : List Slot} {s : HandState} {slot : Slot}
    {card : CardProgress} (h : Table.get? slot (s.run (slots.map .cardDealt)).cards = some card) :
    ∃ before, Table.get? slot s.cards = some before
      ∧ ((slot ∈ slots ∨ before.dealt = true) → card.dealt = true) := by
  induction slots generalizing s with
  | nil => exact ⟨card, h, fun hdealt => hdealt.resolve_left List.not_mem_nil⟩
  | cons first slots ih =>
    obtain ⟨next, hnext, hlater⟩ := ih h
    rw [get?_cards_step_of_isPlain rfl, Option.map_eq_some_iff] at hnext
    obtain ⟨before, hbefore, rfl⟩ := hnext
    refine ⟨before, hbefore, fun hdealt => hlater ?_⟩
    rw [List.mem_cons] at hdealt
    rcases hdealt with (rfl | hmem) | hdealt
    · -- this is the card that is dealt now
      right
      rw [Action.onCard_of_target?_eq rfl]
      rfl
    · exact .inl hmem
    · exact .inr (Action.dealt_onCard _ hdealt)

/-- **The deal** begins on both sides, and all cards that come onto the table are dealt. -/
theorem Mirrors.deal (h : s.Mirrors c) (hnot : c.dealingStarted = false) (deck : List Card) :
    (((s.run (if !c.shuffleCompleted then [.shuffleComplete] else [])).step
      (.startDealing deck)).run ((dealOrder c.playerCount).map .cardDealt)).Mirrors
      { c with dealingStarted := true, shuffleCompleted := true } := by
  have hempty : s.cards = [] := by
    rw [cards_eq_nil_iff]
    intro slot
    cases hcard : Table.get? slot s.cards with
    | none => rfl
    | some card => exact absurd (h.cards slot card hcard).1 (by rw [hnot]; decide)
  obtain ⟨line, hover⟩ := run_shuffleComplete_eq s (!c.shuffleCompleted)
  -- the shuffle is over by now
  have hphase : (if (!c.shuffleCompleted) = true ∧ s.phase = .shuffling then HandPhase.dealing
      else s.phase) ≠ .shuffling := by
    split
    · decide
    · next hgoes =>
      intro hp
      have hnotOver := (h.shuffling hp).notOver
      exact hgoes ⟨by rw [hnotOver]; rfl, hp⟩
  rw [hover]
  generalize (if (!c.shuffleCompleted) = true ∧ s.phase = .shuffling then HandPhase.dealing
    else s.phase) = phase at hphase
  obtain ⟨cards, line', hrun⟩ := run_cardDealt_eq (dealOrder c.playerCount)
    (HandState.step { s with phase := phase, status := line } (.startDealing deck))
  have hdealt {slot : Slot} {card : CardProgress} (hcard : Table.get? slot
      ((HandState.step { s with phase := phase, status := line } (.startDealing deck)).run
        ((dealOrder c.playerCount).map .cardDealt)).cards = some card) :=
    dealt_of_run_cardDealt hcard
  rw [hrun] at hdealt ⊢
  rw [step_startDealing] at hdealt ⊢
  by_cases hcomplete : phase = .complete
  · -- the hand ended before the deal, and no cards come onto the table
    rw [if_neg (fun hcan => hcan.2 hcomplete)] at hdealt ⊢
    refine ⟨h.players, h.keys, fun hp => absurd hp hphase, fun _ => rfl, fun slot card hcard => ?_,
      h.steps⟩
    obtain ⟨before, hbefore, -⟩ := hdealt hcard
    rw [hempty] at hbefore
    cases hbefore
  · rw [if_pos ⟨List.isEmpty_iff.mpr hempty, hcomplete⟩] at hdealt ⊢
    simp only [if_neg hphase]
    refine ⟨h.players, h.keys, fun hp => absurd hp hphase, fun _ => rfl, fun slot card hcard => ?_,
      h.steps⟩
    obtain ⟨before, hbefore, hlater⟩ := hdealt hcard
    refine ⟨rfl, hlater (.inl ?_)⟩
    -- the cards that come are those of the table that the context knows
    have hseeded := get?_seededCards { s with phase := phase, status := line } slot
    rw [hseeded] at hbefore
    split at hbefore
    · next hmem => exact h.players ▸ hmem
    · cases hbefore

/-! ## A new hand -/

/-- The viewer's key comes with the hand, or picture and context agree on it before. -/
theorem mirrors_handCreated (c : HandContext) (hand : HandCreated) (s : HandState)
    (hkeys : c.viewerKey.truthy = true ∨ KeysAgree s.viewerKey c.viewerKey) :
    (s.run (Narrator.actionsOf (Narrator.handCreated c hand))).Mirrors
      (Narrator.contextOfHand c hand) := by
  have hkey : KeysAgree (if (Narrator.contextOfHand c hand).viewerKey.truthy then
      (Narrator.contextOfHand c hand).viewerKey else s.viewerKey)
      (Narrator.contextOfHand c hand).viewerKey := by
    split
    · exact .inl rfl
    · next hnone =>
      -- a hand without a key leaves the old key of the picture, which is not given either
      have hgiven : c.viewerKey.truthy ≠ true := by
        intro hgiven
        have hkept : (Narrator.contextOfHand c hand).viewerKey = c.viewerKey := if_pos hgiven
        exact hnone (by rw [hkept]; exact hgiven)
      have hbefore : s.viewerKey.truthy = false := by
        rcases hkeys.resolve_left hgiven with hsame | hboth
        · rw [hsame]
          exact Bool.eq_false_iff.mpr hgiven
        · exact hboth.1
      exact .inr ⟨hbefore, Bool.eq_false_iff.mpr hnone⟩
  -- no deal began, and no card lies on the table
  cases htotal : hand.shufflerCount with
  | none =>
    have hcontext : (Narrator.contextOfHand c hand).shuffleTotal = none := htotal
    simp only [Narrator.handCreated, hcontext]
    refine ⟨rfl, hkey, fun _ => ⟨rfl, rfl, rfl, rfl, ?_, ?_⟩, ?_, ?_, ?_⟩
    · rw [hcontext]
      rfl
    · intro more hmore
      rw [hcontext] at hmore
      cases hmore
    · intro hp
      cases hp
    · intro _ _ hcard
      cases hcard
    · exact fun hpos => absurd hpos (Int.lt_irrefl 0)
  | some total =>
    have hcontext : (Narrator.contextOfHand c hand).shuffleTotal = some total := htotal
    have hpos : 1 ≤ total := hand.shufflers_pos total (Option.mem_def.mpr htotal)
    simp only [Narrator.handCreated, hcontext]
    refine ⟨rfl, hkey, fun _ => ⟨rfl, rfl, rfl, rfl, ?_, ?_⟩, ?_, ?_, ?_⟩
    · rw [hcontext]
      rfl
    · intro more hmore
      rw [hcontext, Option.mem_some_iff] at hmore
      show 0 < more
      omega
    · intro hp
      cases hp
    · intro _ _ hcard
      cases hcard
    · exact fun _ => ⟨Int.le_refl 0, Int.natCast_nonneg total⟩

end HandState

/-! ## What the narrator does -/

namespace Narrator

theorem contextAfter_dispatch (c : HandContext) (a : Action) (rest : List Effect) :
    contextAfter c (.dispatch a :: rest) = contextAfter c rest := rfl

theorem actionsOf_append (xs ys : List Effect) :
    actionsOf (xs ++ ys) = actionsOf xs ++ actionsOf ys :=
  List.filterMap_append

/-- A shuffle brings a line on a missing total at most, then progress, then perhaps the end of the
shuffle. -/
theorem actionsOf_shuffled (c : HandContext) :
    ∃ lines : List Action, (∀ a ∈ lines, a.isPlain = true) ∧ actionsOf (shuffled c)
      = lines ++ .shuffleProgress (c.shuffleCount + 1 : Nat) (c.shuffleTotal.getD 0 : Nat) ::
        if endsShuffle c then [.shuffleComplete] else [] := by
  cases htotal : c.shuffleTotal with
  | none =>
    simp only [shuffled, endsShuffle, htotal]
    split
    · exact ⟨[], by simp, rfl⟩
    · exact ⟨[_], by simp [Action.isPlain], rfl⟩
  | some total =>
    refine ⟨[], by simp, ?_⟩
    simp only [shuffled, endsShuffle, htotal, Option.any_some]
    split <;> rfl

theorem actionsOf_dealt (players : Nat) :
    actionsOf (dealt players) = (dealOrder players).map .cardDealt := by
  have hcards (entries : List (Slot × Nat)) (f : Slot × Nat → List Effect)
      (hf : ∀ entry, actionsOf (f entry) = [.cardDealt entry.1]) :
      actionsOf (entries.flatMap f) = (entries.map Prod.fst).map .cardDealt := by
    induction entries with
    | nil => rfl
    | cons entry entries ih =>
      rw [List.flatMap_cons, actionsOf_append, hf, ih]
      rfl
  rw [dealt, hcards _ _ fun _ => rfl, List.zipIdx_map_fst]

theorem actionsOf_dealingStarted (deck : List Card) (c : HandContext) :
    actionsOf (dealingStarted deck c)
      = (if !c.shuffleCompleted then [.shuffleComplete] else [])
        ++ .startDealing deck :: (dealOrder c.playerCount).map .cardDealt := by
  simp only [dealingStarted, actionsOf_append, actionsOf_dealt, List.append_assoc]
  cases c.shuffleCompleted <;> rfl

theorem isPlain_shareReceived (c : HandContext) (kind : ShareKind) (actor : Actor) (s : Share) :
    ∀ a ∈ actionsOf (shareReceived c kind actor s), a.isPlain = true := by
  unfold shareReceived
  cases shareTarget? c s.position <;> simp [Action.isPlain]

end Narrator

namespace HandState

variable {c : HandContext} {s : HandState}

theorem Mirrors.setViewerKey (h : s.Mirrors c) (key : Json) :
    (s.step (.setViewerKey key)).Mirrors { c with viewerKey := key } where
  players := h.players
  keys := .inl rfl
  shuffling hp := ⟨(h.shuffling hp).notDealing, (h.shuffling hp).notOver, (h.shuffling hp).noCards,
    (h.shuffling hp).count, (h.shuffling hp).total, (h.shuffling hp).goesOn⟩
  dealing := h.dealing
  cards := h.cards
  steps := h.steps

theorem Mirrors.envelope (h : s.Mirrors c) (deck : List Card) (f : Finalized) :
    (s.run (Narrator.actionsOf (Narrator.envelope deck c f))).Mirrors
      (Narrator.contextAfter c (Narrator.envelope deck c f)) := by
  have hnumber := h.step (a := .eventProcessed f.seqId) rfl
  unfold Narrator.envelope
  rw [Narrator.actionsOf_dispatch, Narrator.contextAfter_dispatch, run_cons]
  generalize s.step (.eventProcessed f.seqId) = t at hnumber
  have hshare (kind : ShareKind) (share : Share) {c : HandContext} {t : HandState} (h : t.Mirrors c)
      (target : HandContext) :
      (t.run (Narrator.actionsOf (Narrator.shareReceived target kind f.envelope.actor share))).Mirrors
        c := h.run (Narrator.isPlain_shareReceived target kind _ share)
  cases f.message with
  | shuffle =>
    obtain ⟨lines, hlines, hactions⟩ := Narrator.actionsOf_shuffled c
    obtain ⟨reported, hcontext⟩ := Narrator.contextAfter_shuffled c
    simp only [hactions, hcontext, run_append, run_cons]
    exact (hnumber.run hlines).shuffle reported
  | blinding share =>
    simp only [Narrator.actionsOf_append, Narrator.contextAfter_append, run_append,
      Narrator.contextAfter_shareReceived]
    apply hshare
    cases hstarted : c.dealingStarted with
    | true => exact hnumber
    | false =>
      rw [if_neg Bool.false_ne_true, Narrator.contextAfter_dealingStarted,
        Narrator.actionsOf_dealingStarted, run_append, run_cons]
      exact hnumber.deal hstarted deck
  | partialUnblinding share =>
    simp only [Narrator.contextAfter_shareReceived]
    exact hshare .unblinding share hnumber c
  | bet => exact hnumber
  | showdown => exact hnumber

/-- **Any event** keeps picture and context in agreement. -/
theorem Mirrors.event (h : s.Mirrors c) (deck : List Card) (e : FeedEvent) :
    (s.run (Narrator.actionsOf (Narrator.effects deck c e))).Mirrors
      (Narrator.contextAfter c (Narrator.effects deck c e)) := by
  cases e with
  | handCreated hand =>
    have hcontext : Narrator.contextAfter c (Narrator.effects deck c (.handCreated hand))
        = Narrator.contextOfHand c hand := Tale.tell_handCreated_context deck ⟨c, s⟩ hand
    rw [hcontext]
    exact mirrors_handCreated c hand s (.inr h.keys)
  | gameEvent f => exact h.envelope deck f
  | playerCreated gameId seat displayName publicKey =>
    simp only [Narrator.effects, Narrator.playerCreated]
    split
    · exact (h.setViewerKey publicKey.toJson).step (a := .updateStatus _) rfl
    · exact h.step (a := .updateStatus _) rfl
  | communityDecrypted gameId handId cards =>
    exact h.run (by simp [Narrator.effects, Narrator.communityDecrypted, Narrator.say,
      Action.isPlain])
  | cardDecryptable gameId handId seat index =>
    exact h.run (by simp [Narrator.effects, Narrator.cardDecryptable, Narrator.say,
      Action.isPlain])
  | holeCardDecrypted gameId handId seat index card =>
    exact h.run (by simp [Narrator.effects, Narrator.holeCardDecrypted, Narrator.say,
      Action.isPlain])
  | handCompleted gameId handId =>
    exact h.run (by simp [Narrator.effects, Narrator.handCompleted, Narrator.say,
      Action.isPlain])

/-- Nothing of what is kept twice stands on the error line. -/
theorem mirrors_withoutError : s.withoutError.Mirrors c ↔ s.Mirrors c := by
  constructor
  · intro h
    exact ⟨h.players, h.keys, fun hp => (h.shuffling hp).of_eq rfl rfl rfl, h.dealing, h.cards,
      h.steps⟩
  · intro h
    exact ⟨h.players, h.keys, fun hp => (h.shuffling hp).of_eq rfl rfl rfl, h.dealing, h.cards,
      h.steps⟩

end HandState

/-! ## Tales -/

namespace Tale

def Mirrors (t : Tale) : Prop := t.picture.Mirrors t.context

theorem Mirrors.tell {t : Tale} (h : t.Mirrors) (deck : List Card) (e : FeedEvent) :
    (t.tell deck e).Mirrors :=
  HandState.mirrors_withoutError.mpr (HandState.Mirrors.event h deck e)

/-- A new hand for a viewer whose key is known brings the two sides together. -/
theorem mirrors_tell_handCreated {t : Tale} (hkey : t.context.viewerKey.truthy = true)
    (deck : List Card) (hand : HandCreated) : (t.tell deck (.handCreated hand)).Mirrors := by
  have hnew := HandState.mirrors_handCreated t.context hand t.picture (.inl hkey)
  unfold Mirrors
  rw [tell_handCreated_context]
  exact HandState.mirrors_withoutError.mpr hnew

/-- Induction along the events. -/
theorem Mirrors.tellAll {t : Tale} (h : t.Mirrors) (deck : List Card) (events : List FeedEvent) :
    (t.tellAll deck events).Mirrors := by
  induction events generalizing t with
  | nil => exact h
  | cons e events ih => exact ih (h.tell deck e)

end Tale

end MentalPoker
