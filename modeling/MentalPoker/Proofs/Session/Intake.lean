import MentalPoker.Proofs.Session.Deliveries
import MentalPoker.Proofs.Session.Rounds

/-!
# What sees to missing envelopes

The gap buffer, the round under way and the count of a stall are the part of a session that sees to
missing envelopes. Whatever else a session does, to its picture, its narrator and its connection,
leaves this part alone, and this part does not look at the rest. So it runs like a machine of its
own, with four kinds of input: what starts the numbers over, a live envelope, the end of a round,
and all that does not concern it.

## The architecture

* **`Intake`**: the part, with `Intake.arrive` for a live envelope and `Intake.finish` for the end
  of a round.
* **`KeepsIntake`**: the parts of a reaction that leave it alone.
* **`intake_envelope`**, **`intake_recovered`**, **`intake_startsOver`**, **`intake_other`**: what
  the four kinds of input do; **`intake_cases`** says that there are no more.
-/

namespace MentalPoker

/-- The live envelope that an input brings. -/
def SessionInput.envelope? : SessionInput → Option Finalized
  | event (.gameEvent f) | beginHand (.gameEvent f) _ => some f
  | _ => none

/-- A live envelope is all that is delivered with it. -/
theorem SessionInput.deliveries_live {i : SessionInput} {f : Finalized}
    (h : i.envelope? = some f) (s : Session) : i.deliveries s = [.live f.seqId f] := by
  cases i with
  | event e | beginHand e key =>
    cases e with
    | gameEvent f' =>
      obtain rfl : f' = f := Option.some.inj h
      rfl
    | _ => cases h
  | _ => cases h

/-- The part of a session that sees to missing envelopes. -/
structure Intake where
  buffer : GapBuffer Finalized
  recovery : Option Recovery
  stallRounds : Nat
  stalled : Bool

namespace Intake

def fresh : Intake := ⟨.start 0, none, 0, false⟩

/-- There is no stall. -/
def clear (k : Intake) : Intake := { k with stallRounds := 0, stalled := false }

/-- The round that an arrival asks for is under way, unless another one is. -/
def ask (k : Intake) (f : Finalized) (missing : List Int) : Intake :=
  { k with recovery := k.recovery.or (some ⟨f.envelope.gameId, f.envelope.handId, missing⟩) }

/-- A live envelope. -/
def arrive (k : Intake) (f : Finalized) : Intake :=
  let arrival := k.buffer.arrive f.seqId f
  let k := { k with buffer := arrival.buffer }
  if arrival.hasGap then k.ask f arrival.missing
  else if k.buffer.hasPending then k
  else k.clear

/-- A round is counted if it leaves a gap. -/
def count (attempts : Int) (k : Intake) : Intake :=
  if k.buffer.missing = [] then k.clear
  else { k with
    stallRounds := k.stallRounds + 1
    stalled := decide (attempts ≤ (k.stallRounds + 1 : Nat)) || k.stalled }

/-- What a round brings goes through the buffer, and the round is over. -/
def bring (k : Intake) (result : Except Failure RecoveryResult) : Intake :=
  { k with
    recovery := none
    buffer := match result with
      | .ok r => (k.buffer.fetched (r.envelopes.map Finalized.numbered)).1
      | .error _ => k.buffer }

/-- The end of a round. -/
def finish (attempts : Int) (result : Except Failure RecoveryResult) (k : Intake) : Intake :=
  if k.recovery = none then k else (k.bring result).count attempts

/-- After the end of a round none is under way. -/
theorem recovery_finish (attempts : Int) (result : Except Failure RecoveryResult) (k : Intake) :
    (k.finish attempts result).recovery = none := by
  unfold finish
  split
  · assumption
  · unfold count
    split <;> rfl

end Intake

namespace Session

def intake (s : Session) : Intake := ⟨s.buffer, s.recovery, s.stallRounds, s.stalled⟩

/-! ## Parts that leave the intake alone -/

def KeepsIntake (f : Step) : Prop := ∀ s, (f s).1.intake = s.intake

namespace KeepsIntake

theorem dispatch (a : Action) : KeepsIntake (dispatch a) := by
  intro s
  rw [dispatch_fst]
  rfl

theorem followAll (effects : List Narrator.Effect) : KeepsIntake (followAll effects) := by
  intro s
  rw [followAll_fst]
  rfl

theorem applyReady (deck : List Card) (ready : List (Int × Finalized)) :
    KeepsIntake (applyReady deck ready) := by
  intro s
  obtain ⟨state, context, h⟩ := applyReady_frame deck ready s
  rw [h]
  rfl

theorem start (settings : SessionSettings) : KeepsIntake (start settings) := by
  intro s
  unfold Session.start
  split <;> rfl

end KeepsIntake

/-! ## Parts that see to it -/

theorem intake_clearStall (s : Session) : (clearStall s).1.intake = s.intake.clear := by
  simp only [clearStall]
  split
  · exact KeepsIntake.dispatch _ _
  · rfl

/-- What is said of a stall. -/
def stallWarning (outstanding : Nat) : Text :=
  text "Waiting for missing events (" ++ Text.ofNat outstanding ++ text " outstanding)"

theorem countRound_closed (attempts : Int) {s : Session} (h : s.buffer.missing = []) :
    countRound attempts s = clearStall s := by
  simp only [countRound, h]

/-- A round that leaves a gap, and is one too many. -/
theorem countRound_warns {attempts : Int} {s : Session} (hopen : s.buffer.missing ≠ [])
    (hmany : attempts ≤ (s.stallRounds + 1 : Nat)) (hflag : s.stalled = false) :
    countRound attempts s =
      dispatch (.setError (some (stallWarning s.buffer.missing.length)))
        { s with stallRounds := s.stallRounds + 1, stalled := true } := by
  unfold countRound
  split
  · next hclosed => exact absurd hclosed hopen
  · exact if_pos (by rw [decide_eq_true hmany, hflag]; rfl)

/-- A round that leaves a gap is counted, and if it is not one too many, or that was said before,
then nothing is said. -/
theorem countRound_silent {attempts : Int} {s : Session} (hopen : s.buffer.missing ≠ [])
    (h : attempts ≤ (s.stallRounds + 1 : Nat) → s.stalled = true) :
    countRound attempts s = ({ s with stallRounds := s.stallRounds + 1 }, []) := by
  unfold countRound
  split
  · next hclosed => exact absurd hclosed hopen
  · refine if_neg fun hwarns => ?_
    obtain ⟨hmany, hflag⟩ := Bool.and_eq_true_iff.mp hwarns
    rw [h (of_decide_eq_true hmany)] at hflag
    cases hflag

theorem intake_countRound (attempts : Int) (s : Session) :
    (countRound attempts s).1.intake = s.intake.count attempts := by
  unfold Intake.count
  split
  · next hclosed =>
    rw [countRound_closed attempts hclosed]
    exact intake_clearStall s
  · next hopen =>
    by_cases hsilent : attempts ≤ (s.stallRounds + 1 : Nat) → s.stalled = true
    · rw [countRound_silent hopen hsilent]
      have hsame : (decide (attempts ≤ (s.stallRounds + 1 : Nat)) || s.stalled) = s.stalled :=
        Bool.or_eq_right_iff_imp.mpr fun hmany => hsilent (of_decide_eq_true hmany)
      exact congrArg (Intake.mk s.buffer s.recovery (s.stallRounds + 1)) hsame.symm
    · obtain ⟨hmany, hflag⟩ := Classical.not_imp.mp hsilent
      rw [countRound_warns hopen hmany (Bool.eq_false_iff.mpr hflag), KeepsIntake.dispatch]
      have hsaid : (decide (attempts ≤ (s.stallRounds + 1 : Nat)) || s.stalled) = true := by
        rw [decide_eq_true hmany, Bool.true_or]
      exact congrArg (Intake.mk s.buffer s.recovery (s.stallRounds + 1)) hsaid.symm

theorem intake_prepareHand (s : Session) : (prepareHand s).1.intake = .fresh := by
  rw [prepareHand, inOrder_three]
  exact intake_clearStall _

theorem intake_afterArrival (f : Finalized) (arrival : GapBuffer.Arrival Finalized) (s : Session) :
    (afterArrival f arrival s).1.intake =
      if arrival.hasGap then s.intake.ask f arrival.missing
      else if s.buffer.hasPending then s.intake
      else s.intake.clear := by
  unfold afterArrival
  split
  · unfold requestRecovery Intake.ask
    cases hround : s.recovery with
    | none => simp [intake, hround]
    | some round => simp [intake, hround]
  · rw [depending_apply]
    split
    · rfl
    · exact intake_clearStall s

/-- **A live envelope.** -/
theorem intake_envelope (deck : List Card) (f : Finalized) (s : Session) :
    (envelope deck f s).1.intake = s.intake.arrive f := by
  have hready := KeepsIntake.applyReady deck (s.buffer.arrive f.seqId f).ready
    { s with buffer := (s.buffer.arrive f.seqId f).buffer }
  rw [envelope_apply, thenDo_fst, intake_afterArrival, hready, Intake.arrive]
  have hbuffer := congrArg Intake.buffer hready
  simp only [intake] at hbuffer
  rw [hbuffer]
  rfl

/-- What the end of a round brings, before the round is counted. -/
def brought (settings : SessionSettings) (result : Except Failure RecoveryResult) : Step :=
  thenDo cancelRecovery
    (match result with
      | .ok r => mergeFetched settings.deck r.envelopes
      | .error _ => skip)

theorem intake_brought (settings : SessionSettings) (result : Except Failure RecoveryResult)
    (s : Session) : (brought settings result s).1.intake = s.intake.bring result := by
  cases result with
  | ok r => exact KeepsIntake.applyReady settings.deck _ _
  | error failure => rfl

/-- The end of the round under way: what it brought is used, and then it is counted. -/
theorem recovered_apply (settings : SessionSettings) (result : Except Failure RecoveryResult)
    {s : Session} {round : Recovery} (h : s.recovery = some round) :
    recovered settings result s
      = thenDo (brought settings result) (countRound settings.stallAttempts) s := by
  simp only [recovered, h, inOrder_three]
  exact congrFun (thenDo_assoc _ _ _).symm s

/-- Without a round under way there is nothing to end. -/
theorem recovered_idle (settings : SessionSettings) (result : Except Failure RecoveryResult)
    {s : Session} (h : s.recovery = none) : recovered settings result s = (s, []) := by
  simp only [recovered, h]

/-- **The end of a round.** -/
theorem intake_recovered (settings : SessionSettings) (result : Except Failure RecoveryResult)
    (s : Session) :
    (recovered settings result s).1.intake = s.intake.finish settings.stallAttempts result := by
  cases hround : s.recovery with
  | none =>
    have hidle : s.intake.recovery = none := hround
    rw [recovered_idle settings result hround, Intake.finish, if_pos hidle]
  | some round =>
    have hunder : s.intake.recovery ≠ none := by simp [intake, hround]
    rw [recovered_apply settings result hround, thenDo_fst, intake_countRound, intake_brought,
      Intake.finish, if_neg hunder]

/-! ## Inputs -/

/-- **Inputs that start over** leave nothing to see to. -/
theorem intake_startsOver (settings : SessionSettings) {s : Session} {i : SessionInput}
    (h : i.startsOver s = true) : (react settings i s).1.intake = .fresh := by
  have hannounced {e : FeedEvent} (he : e.kind = .handCreated) (s : Session) :
      (event settings.deck e s).1.intake = .fresh := by
    cases e with
    | handCreated hand => exact (KeepsIntake.followAll _ _).trans (intake_prepareHand s)
    | _ => cases he
  cases i with
  | event e => exact hannounced (of_decide_eq_true h) s
  | beginHand e key =>
    obtain ⟨context, hevent⟩ := beginHand_eq_event settings.deck e key s
    rw [react, hevent]
    exact hannounced (of_decide_eq_true h) _
  | kindOnly kind =>
    obtain rfl : kind = .handCreated := of_decide_eq_true h
    exact intake_prepareHand s
  | opened =>
    have hopened : s.opened = true := h
    simp only [react, opening, hopened, if_true, inOrder_three, thenDo_fst, modify_apply,
      dispatch_fst]
    rfl
  | reset => rfl
  | close =>
    rw [react, thenDo_fst]
    split <;> rfl
  | _ => cases h

/-- An input that brings a live envelope is that envelope; one that comes outside the feed may
bring a key for the context. -/
theorem react_live (settings : SessionSettings) {i : SessionInput} {f : Finalized}
    (h : i.envelope? = some f) (s : Session) :
    ∃ context, react settings i s = envelope settings.deck f { s with context := context } := by
  cases i with
  | event e =>
    cases e with
    | gameEvent f' =>
      obtain rfl : f' = f := Option.some.inj h
      exact ⟨s.context, rfl⟩
    | _ => cases h
  | beginHand e key =>
    cases e with
    | gameEvent f' =>
      obtain rfl : f' = f := Option.some.inj h
      exact beginHand_eq_event settings.deck _ key s
    | _ => cases h
  | _ => cases h

/-- **Inputs that bring a live envelope.** -/
theorem intake_live (settings : SessionSettings) {s : Session} {i : SessionInput} {f : Finalized}
    (h : i.envelope? = some f) : (react settings i s).1.intake = s.intake.arrive f := by
  obtain ⟨context, henvelope⟩ := react_live settings h s
  rw [henvelope]
  exact intake_envelope settings.deck f _

/-- **All other inputs** leave the intake alone. -/
theorem intake_other (settings : SessionSettings) {s : Session} {i : SessionInput}
    (hover : i.startsOver s = false) (hlive : i.envelope? = none) (hround : i.endsRound = false) :
    (react settings i s).1.intake = s.intake := by
  have hnotice {e : FeedEvent} (hkind : e.kind ≠ .handCreated)
      (hlive : (SessionInput.event e).envelope? = none) (s : Session) :
      (event settings.deck e s).1.intake = s.intake := by
    cases e with
    | handCreated hand => exact absurd rfl hkind
    | gameEvent f => cases hlive
    | _ => exact KeepsIntake.followAll _ s
  cases i with
  | event e => exact hnotice (of_decide_eq_false hover) hlive s
  | beginHand e key =>
    obtain ⟨context, hevent⟩ := beginHand_eq_event settings.deck e key s
    have hlive' : (SessionInput.event e).envelope? = none := by
      cases e <;> first | rfl | cases hlive
    rw [react, hevent, hnotice (of_decide_eq_false hover) hlive']
    rfl
  | kindOnly kind =>
    have hkind : kind ≠ .handCreated := of_decide_eq_false hover
    cases kind with
    | handCreated => exact absurd rfl hkind
    | _ => exact KeepsIntake.followAll _ s
  | recovered result => cases hround
  | start => exact KeepsIntake.start settings s
  | opened =>
    have hopened : s.opened = false := hover
    simp only [react, opening, hopened, Bool.false_eq_true, if_false, inOrder_three, thenDo_fst,
      skip_apply, modify_apply, dispatch_fst]
    rfl
  | failed message =>
    rw [react, failed, thenDo_fst, KeepsIntake.dispatch]
    rfl
  | completed | listen | unlisten => rfl
  | reset | close => cases hover

/-- **What an input does** to the intake. -/
theorem intake_cases (settings : SessionSettings) (i : SessionInput) (s : Session) :
    (i.startsOver s = true ∧ (react settings i s).1.intake = .fresh)
      ∨ (∃ f, i.envelope? = some f ∧ (react settings i s).1.intake = s.intake.arrive f)
      ∨ (∃ result, i = .recovered result
        ∧ (react settings i s).1.intake = s.intake.finish settings.stallAttempts result)
      ∨ (i.envelope? = none ∧ (react settings i s).1.intake = s.intake) := by
  cases hover : i.startsOver s with
  | true => exact .inl ⟨rfl, intake_startsOver settings hover⟩
  | false =>
    cases hlive : i.envelope? with
    | some f => exact .inr (.inl ⟨f, rfl, intake_live settings hlive⟩)
    | none =>
      cases hround : i.endsRound with
      | true =>
        cases i with
        | recovered result => exact .inr (.inr (.inl ⟨result, rfl, intake_recovered settings _ s⟩))
        | _ => cases hround
      | false => exact .inr (.inr (.inr ⟨rfl, intake_other settings hover hlive hround⟩))

end Session

end MentalPoker
