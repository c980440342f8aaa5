import MentalPoker.Proofs.Gap.Release
import MentalPoker.Proofs.Session.Parts

/-!
# Two marks that move together

How far a hand has been followed is marked twice: the gap buffer knows the number that it releases
next, and the picture knows the highest number that was applied. Three paths set both back (a new
hand, a feed that opens anew, a reset), and two move both on (live envelopes and rounds of
recovery). The marks never part, and the envelopes that were applied since they were last set back
carry the numbers from 0 up to the mark, each once and in order.

## The architecture

* **`InStep`**: the invariant. It says how the two marks stand, that everything that waits does so
  under its own number, and that the buffer is settled.
* **`Quiet`**: the parts of a reaction that touch neither mark and apply nothing.
* **`SetsBack`**: the parts that set both marks back and apply nothing.
* **`InStep.release`**: what both ways of moving on come down to, releasing items that were kept.
* **`react_inStep`**: one input, one case for each kind; `run_inStep` is the induction.
-/

namespace MentalPoker

/-- The input can be read, if it announces a hand: the hand comes with its ids and its players.
A feed hands on nothing else. -/
def SessionInput.isReadable : SessionInput → Bool
  | kindOnly .handCreated => false
  | _ => true

/-- The numbers of envelopes start again with the input: a hand is created, the feed opens anew, or
the session is reset. -/
def SessionInput.restarts (s : Session) : SessionInput → Bool
  | event e | beginHand e _ => e.kind = .handCreated
  | opened => s.opened
  | reset | close => true
  | _ => false

namespace Session

open GapBuffer (between latest? mem_between)
open SessionEffect (appliedIn)

/-- The envelopes that were applied since the numbers last started again, over some inputs to a
session; `sofar` are those from before the inputs. -/
def appliedSinceRestart (settings : SessionSettings) (s : Session) (sofar : List Finalized) :
    List SessionInput → List Finalized
  | [] => sofar
  | i :: rest =>
    appliedSinceRestart settings (react settings i s).1
      ((if i.restarts s then [] else sofar) ++ appliedIn (react settings i s).2) rest

/-! ## The invariant -/

/-- The two marks of a session stand together, and `applied` led there. -/
structure InStep (s : Session) (applied : List Finalized) : Prop where
  nonneg : 0 ≤ s.buffer.expected
  ids : (applied.map fun f => (f.seqId : Int)) = between 0 s.buffer.expected
  lastSeqId : s.state.lastSeqId = s.buffer.expected - 1
  numbered : ∀ id f, Table.get? id s.buffer.pending = some f → (f.seqId : Int) = id
  settled : s.buffer.Settled

theorem inStep_fresh : InStep fresh [] where
  nonneg := Int.le_refl 0
  ids := rfl
  lastSeqId := rfl
  numbered _ _ h := by cases h
  settled := rfl

/-! ## Parts that move nothing -/

/-- A reaction of `s` that moves neither mark and applies nothing. -/
structure Untouched (s : Session) (r : Session × List SessionEffect) : Prop where
  buffer : r.1.buffer = s.buffer
  lastSeqId : r.1.state.lastSeqId = s.state.lastSeqId
  applied : appliedIn r.2 = []

/-- It is enough to have it of a session with the same marks. -/
theorem Untouched.of_eq {s s' : Session} {r : Session × List SessionEffect} (h : Untouched s' r)
    (hbuffer : s'.buffer = s.buffer) (hstate : s'.state = s.state) : Untouched s r :=
  ⟨by rw [h.buffer, hbuffer], by rw [h.lastSeqId, hstate], h.applied⟩

/-- A part that never moves a mark and never applies anything. -/
def Quiet (f : Step) : Prop := ∀ s, Untouched s (f s)

namespace Quiet

theorem skip : Quiet skip := fun _ => ⟨rfl, rfl, rfl⟩

theorem emit {e : SessionEffect} (h : e.applied? = none) : Quiet (emit e) :=
  fun _ => ⟨rfl, rfl, by simp [SessionEffect.appliedIn, h]⟩

theorem thenDo {f g : Step} (hf : Quiet f) (hg : Quiet g) : Quiet (thenDo f g) := by
  intro s
  refine ⟨?_, ?_, ?_⟩
  · rw [thenDo_fst, (hg _).buffer, (hf s).buffer]
  · rw [thenDo_fst, (hg _).lastSeqId, (hf s).lastSeqId]
  · rw [thenDo_snd, SessionEffect.appliedIn_append, (hf s).applied, (hg _).applied,
      List.append_nil]

theorem dispatch {a : Action} (h : a.isNumbering = false) : Quiet (dispatch a) := by
  intro s
  refine ⟨?_, ?_, appliedIn_dispatch a s⟩
  · rw [dispatch_fst]
  · rw [dispatch_fst]
    exact HandState.step_lastSeqId_of_not_isNumbering h s.state

/-- What the narrator says without a word on numbers. -/
theorem narrated {effects : Session → List Narrator.Effect}
    (h : ∀ s, Narrator.LeavesNumber (effects s)) :
    Quiet (depending fun s => followAll (effects s)) := by
  intro s
  refine ⟨?_, ?_, appliedIn_followAll (effects s) s⟩
  · rw [depending_apply, followAll_fst]
  · rw [depending_apply, followAll_fst]
    exact (h s).run s.state

theorem cancelRecovery : Quiet cancelRecovery := fun _ => ⟨rfl, rfl, rfl⟩

theorem clearStall : Quiet clearStall := by
  intro s
  simp only [Session.clearStall]
  split
  · exact (dispatch rfl _).of_eq rfl rfl
  · exact ⟨rfl, rfl, rfl⟩

theorem countRound (attempts : Int) : Quiet (countRound attempts) := by
  intro s
  simp only [Session.countRound]
  split
  · exact clearStall s
  · split
    · exact (dispatch rfl _).of_eq rfl rfl
    · exact ⟨rfl, rfl, rfl⟩

theorem requestRecovery (r : Recovery) : Quiet (requestRecovery r) := by
  intro s
  unfold Session.requestRecovery
  split <;> exact ⟨rfl, rfl, rfl⟩

theorem start (settings : SessionSettings) : Quiet (start settings) := by
  intro s
  unfold Session.start
  split <;> exact ⟨rfl, rfl, rfl⟩

end Quiet

/-- A part that keeps the marks together, with the envelopes that it applies. -/
def Advances (f : Step) : Prop :=
  ∀ s applied, InStep s applied → InStep (f s).1 (applied ++ appliedIn (f s).2)

/-- A quiet part keeps the marks where they are. -/
theorem Quiet.advances {f : Step} (hf : Quiet f) : Advances f := by
  intro s applied h
  obtain ⟨hbuffer, hlast, hnothing⟩ := hf s
  rw [hnothing, List.append_nil]
  exact ⟨by rw [hbuffer]; exact h.nonneg, by rw [hbuffer]; exact h.ids,
    by rw [hlast, hbuffer]; exact h.lastSeqId, by rw [hbuffer]; exact h.numbered,
    by rw [hbuffer]; exact h.settled⟩

/-- Two parts, of which the second goes on from where the first led to. -/
theorem InStep.thenDo {f g : Step} {s : Session} {applied : List Finalized}
    (h : InStep (f s).1 (applied ++ appliedIn (f s).2)) (hg : Advances g) :
    InStep (thenDo f g s).1 (applied ++ appliedIn (thenDo f g s).2) := by
  rw [thenDo_fst, thenDo_snd, SessionEffect.appliedIn_append, ← List.append_assoc]
  exact hg _ _ h

theorem Advances.thenDo {f g : Step} (hf : Advances f) (hg : Advances g) :
    Advances (thenDo f g) := fun s applied h => (hf s applied h).thenDo hg

/-! ## Parts that set the marks back -/

/-- A part that sets both marks back and applies nothing. -/
structure SetsBack (f : Step) : Prop where
  buffer : ∀ s, (f s).1.buffer = .start 0
  lastSeqId : ∀ s, (f s).1.state.lastSeqId = -1
  applied : ∀ s, appliedIn (f s).2 = []

/-- Whatever was before, the marks stand together at the start. -/
theorem SetsBack.inStep {f : Step} (hf : SetsBack f) (s : Session) :
    InStep (f s).1 ([] ++ appliedIn (f s).2) := by
  rw [hf.applied, List.append_nil]
  refine ⟨?_, ?_, ?_, ?_, ?_⟩
  · rw [hf.buffer]
    exact Int.le_refl 0
  · rw [hf.buffer]
    rfl
  · rw [hf.lastSeqId, hf.buffer]
    rfl
  · intro id f hf'
    rw [hf.buffer] at hf'
    cases hf'
  · rw [hf.buffer]
    exact GapBuffer.settled_start 0

theorem setsBack_resetPipeline : SetsBack resetPipeline where
  buffer _ := rfl
  lastSeqId _ := rfl
  applied s := by
    rw [resetPipeline, inOrder_three]
    exact appliedIn_assign .fresh _

theorem setsBack_reset : SetsBack reset where
  buffer _ := rfl
  lastSeqId _ := rfl
  applied s := by
    have hdisconnect (s : Session) : appliedIn (disconnect s).2 = [] := by
      unfold disconnect
      split <;> rfl
    rw [reset, inOrder_three, thenDo_snd, SessionEffect.appliedIn_append, hdisconnect]
    exact setsBack_resetPipeline.applied _

/-- The preparation of a hand empties the buffer and applies nothing. -/
theorem prepareHand_restarts (s : Session) :
    (prepareHand s).1.buffer = .start 0 ∧ appliedIn (prepareHand s).2 = [] := by
  have hclear := Quiet.clearStall { s with recovery := none, buffer := .start 0 }
  rw [prepareHand, inOrder_three]
  exact ⟨hclear.buffer, hclear.applied⟩

/-- A new hand starts the numbers in the buffer again, and what the narrator says of it starts
those in the picture again. -/
theorem setsBack_handCreated (deck : List Card) (hand : HandCreated) :
    SetsBack (event deck (.handCreated hand)) := by
  refine ⟨fun s => ?_, fun s => ?_, fun s => ?_⟩
  · simp only [event, thenDo_fst, depending_apply, followAll_fst]
    exact (prepareHand_restarts s).1
  · simp only [event, thenDo_fst, depending_apply, followAll_fst]
    exact Narrator.run_handCreated_lastSeqId _ hand _
  · simp only [event, thenDo_snd, depending_apply, SessionEffect.appliedIn_append,
      appliedIn_followAll, List.append_nil]
    exact (prepareHand_restarts s).2

/-! ## Moving on -/

/-- Envelopes with the numbers from `low` up to `high` move the mark in the picture from the one
to the other. Induction on the envelopes. -/
theorem applyReady_lastSeqId (deck : List Card) {ready : List (Int × Finalized)} {low high : Int}
    (hle : low ≤ high) (hids : (ready.map fun e => (e.2.seqId : Int)) = between low high)
    {s : Session} (hs : s.state.lastSeqId = low - 1) :
    (applyReady deck ready s).1.state.lastSeqId = high - 1 := by
  induction ready generalizing low s with
  | nil =>
    have hempty : ¬ low < high := by
      intro hlt
      rw [GapBuffer.between_cons hlt] at hids
      cases hids
    show s.state.lastSeqId = high - 1
    omega
  | cons entry ready ih =>
    have hlt : low < high := by
      have hmem : (entry.2.seqId : Int) ∈ between low high := by
        rw [← hids]
        exact List.mem_cons_self
      have := mem_between.mp hmem
      omega
    rw [GapBuffer.between_cons hlt, List.map_cons, List.cons.injEq] at hids
    obtain ⟨hid, hrest⟩ := hids
    rw [applyReady_cons, thenDo_fst]
    refine ih (by omega) hrest ?_
    -- the envelope's number is the lower end, one above the mark, so the mark rises to it
    rw [applyOne_fst]
    simp only [Narrator.run_envelope_lastSeqId, hs]
    omega

/-- Items that are kept under their own numbers. -/
theorem numbered_keepAll {b : GapBuffer Finalized}
    (h : ∀ id f, Table.get? id b.pending = some f → (f.seqId : Int) = id)
    {items : List (Int × Finalized)} (hitems : ∀ e ∈ items, (e.2.seqId : Int) = e.1) :
    ∀ id f, Table.get? id (b.keepAll items).pending = some f → (f.seqId : Int) = id := by
  intro id f hf
  rw [GapBuffer.get?_keepAll] at hf
  split at hf
  · rcases Option.or_eq_some_iff.mp hf with hlatest | ⟨_, hold⟩
    · exact hitems _ (GapBuffer.mem_of_latest?_eq_some hlatest)
    · exact h id f hold
  · exact h id f hf

/-- **Moving on.** Items are kept, and what is then in order is released and applied. -/
theorem InStep.release {s : Session} {applied : List Finalized} (h : InStep s applied)
    (deck : List Card) (items : List (Int × Finalized))
    (hitems : ∀ e ∈ items, (e.2.seqId : Int) = e.1) {b : GapBuffer Finalized}
    {ready : List (Int × Finalized)} (hb : (b, ready) = (s.buffer.keepAll items).drain) :
    InStep (applyReady deck ready { s with buffer := b }).1
      (applied ++ appliedIn (applyReady deck ready { s with buffer := b }).2) := by
  have hd : GapBuffer.Drained (s.buffer.keepAll items) b ready := by
    have := GapBuffer.drain_drained (s.buffer.keepAll items)
    rwa [← hb] at this
  have hkept := numbered_keepAll h.numbered hitems
  have hle : s.buffer.expected ≤ b.expected := by simpa using hd.le
  have hnonneg := h.nonneg
  -- what goes out goes out under its own number
  have hready : (ready.map fun e => (e.2.seqId : Int)) = between s.buffer.expected b.expected := by
    have hids := hd.ids
    rw [GapBuffer.keepAll_expected] at hids
    rw [← hids]
    exact List.map_congr_left fun e he => hkept _ _ (hd.waited e he)
  obtain ⟨state, context, hframe⟩ := applyReady_frame deck ready { s with buffer := b }
  have hbuffer : (applyReady deck ready { s with buffer := b }).1.buffer = b := by rw [hframe]
  rw [appliedIn_applyReady]
  refine ⟨?_, ?_, ?_, ?_, ?_⟩
  · rw [hbuffer]
    omega
  · rw [hbuffer, List.map_append, h.ids, List.map_map]
    show between 0 s.buffer.expected ++ (ready.map fun e => (e.2.seqId : Int)) = _
    rw [hready, GapBuffer.between_append hnonneg hle]
  · rw [hbuffer]
    exact applyReady_lastSeqId deck hle hready h.lastSeqId
  · rw [hbuffer]
    intro id f hf
    rw [hd.rest] at hf
    split at hf
    · cases hf
    · exact hkept id f hf
  · rw [hbuffer]
    exact hd.settled

theorem advances_envelope (deck : List Card) (f : Finalized) : Advances (envelope deck f) := by
  intro s applied h
  have hb := GapBuffer.arrive_eq_drain h.settled f.seqId f
  have hready := h.release deck [((f.seqId : Int), f)] (by simp) hb
  -- what follows the release, a round of recovery or the end of a stall, moves no mark
  have hafter : Quiet (if (s.buffer.arrive f.seqId f).hasGap then
      requestRecovery ⟨f.envelope.gameId, f.envelope.handId, (s.buffer.arrive f.seqId f).missing⟩
      else depending fun s => if s.buffer.hasPending then skip else clearStall) := by
    split
    · exact .requestRecovery _
    · intro s
      simp only [depending_apply]
      split
      · exact Quiet.skip s
      · exact Quiet.clearStall s
  exact hready.thenDo (hafter.thenDo .skip).advances

theorem advances_mergeFetched (deck : List Card) (envelopes : List Finalized) :
    Advances (mergeFetched deck envelopes) :=
  fun s _ h => h.release deck _ (by simp) (GapBuffer.fetched_eq_drain s.buffer _)

theorem advances_recovered (settings : SessionSettings)
    (result : Except Failure RecoveryResult) : Advances (recovered settings result) := by
  intro s applied h
  unfold recovered
  split
  · exact Quiet.skip.advances s applied h
  · have hcount := ((Quiet.countRound settings.stallAttempts).thenDo .skip).advances
    cases result with
    | ok r =>
      have hmerge := advances_mergeFetched settings.deck r.envelopes
      exact (Quiet.cancelRecovery.advances.thenDo (hmerge.thenDo hcount)) s applied h
    | error failure =>
      exact (Quiet.cancelRecovery.advances.thenDo (Quiet.skip.advances.thenDo hcount)) s applied h

/-! ## Inputs -/

/-- An event of the feed. -/
theorem event_inStep {s : Session} {applied : List Finalized} (h : InStep s applied)
    (deck : List Card) (e : FeedEvent) :
    InStep (event deck e s).1
      ((if e.kind = .handCreated then [] else applied) ++ appliedIn (event deck e s).2) := by
  have hnotice {e : FeedEvent} (hhand : e.kind ≠ .handCreated) (hgame : e.kind ≠ .gameEvent) :
      Quiet (depending fun s => followAll (Narrator.effects deck s.context e)) :=
    .narrated fun s => (Narrator.isAside_effects deck s.context hhand hgame).leavesNumber
  cases e with
  | handCreated hand => exact (setsBack_handCreated deck hand).inStep s
  | gameEvent f => exact advances_envelope deck f s applied h
  | _ => exact (hnotice (by simp [FeedEvent.kind]) (by simp [FeedEvent.kind])).advances s applied h

/-- A hand announced outside the feed, or any other event that comes with the viewer's key. -/
theorem beginHand_inStep {s : Session} {applied : List Finalized} (h : InStep s applied)
    (deck : List Card) (e : FeedEvent) (key : Option Text) :
    InStep (beginHand deck e key s).1
      ((if e.kind = .handCreated then [] else applied)
        ++ appliedIn (beginHand deck e key s).2) := by
  unfold beginHand
  split
  · next c cs =>
    have hkey : InStep { s with context := { s.context with viewerKey := .str (c :: cs) } }
        applied := ⟨h.nonneg, h.ids, h.lastSeqId, h.numbered, h.settled⟩
    exact event_inStep hkey deck e
  · exact event_inStep h deck e

/-- **One input** keeps the marks together, and accounts for what it applies. -/
theorem react_inStep (settings : SessionSettings) {s : Session} {applied : List Finalized}
    (h : InStep s applied) {i : SessionInput} (hi : i.isReadable = true) :
    InStep (react settings i s).1
      ((if i.restarts s then [] else applied) ++ appliedIn (react settings i s).2) := by
  cases i with
  | start => exact (Quiet.start settings).advances s applied h
  | opened =>
    have hafter : Quiet (inOrder [
        modify fun s => { s with opened := true, status := .connected },
        dispatch (.setError none)]) := by
      have hmodify : Quiet (modify fun s => { s with opened := true, status := .connected }) :=
        fun _ => ⟨rfl, rfl, rfl⟩
      have hdispatch : Quiet (dispatch (.setError none)) := .dispatch rfl
      exact hmodify.thenDo (hdispatch.thenDo .skip)
    -- only a feed that had opened before sets the marks back
    cases hopened : s.opened with
    | true =>
      have hreset := (setsBack_resetPipeline.inStep s).thenDo hafter.advances
      simpa [react, opening, SessionInput.restarts, hopened] using hreset
    | false =>
      have hquiet := (Quiet.skip.thenDo hafter).advances s applied h
      simpa [react, opening, SessionInput.restarts, hopened] using hquiet
  | failed message =>
    have hdispatch : Quiet (dispatch (.setError (some message))) := .dispatch rfl
    have hmodify : Quiet (modify fun s => { s with status := .error }) :=
      fun _ => ⟨rfl, rfl, rfl⟩
    exact (hmodify.thenDo hdispatch).advances s applied h
  | completed =>
    have hcompleted : Quiet completed := fun _ => ⟨rfl, rfl, rfl⟩
    exact hcompleted.advances s applied h
  | event e => simpa [react, SessionInput.restarts] using event_inStep h settings.deck e
  | beginHand e key =>
    simpa [react, SessionInput.restarts] using beginHand_inStep h settings.deck e key
  | kindOnly kind =>
    have hkind : Quiet (kindOnly kind) := by
      cases kind with
      | handCreated => cases hi
      | _ => exact .narrated fun s => (Narrator.isAside_effectsOfKind s.context _).leavesNumber
    exact hkind.advances s applied h
  | recovered result => exact advances_recovered settings result s applied h
  | listen l =>
    have hlisten : Quiet (react settings (.listen l)) := fun _ => ⟨rfl, rfl, rfl⟩
    exact hlisten.advances s applied h
  | unlisten l =>
    have hunlisten : Quiet (react settings (.unlisten l)) := fun _ => ⟨rfl, rfl, rfl⟩
    exact hunlisten.advances s applied h
  | reset => exact setsBack_reset.inStep s
  | close =>
    have hclose : Quiet (if settings.hasTransport then emit .close else skip) := by
      split
      · exact .emit rfl
      · exact .skip
    exact (setsBack_reset.inStep s).thenDo hclose.advances

/-! ## Runs -/

/-- **A run** keeps the marks together. Induction along the inputs. -/
theorem run_inStep (settings : SessionSettings) {inputs : List SessionInput}
    (hinputs : ∀ i ∈ inputs, i.isReadable = true) {s : Session} {sofar : List Finalized}
    (h : InStep s sofar) :
    InStep (run settings inputs s).1 (appliedSinceRestart settings s sofar inputs) := by
  induction inputs generalizing s sofar with
  | nil => exact h
  | cons i rest ih =>
    obtain ⟨hi, hrest⟩ := List.forall_mem_cons.mp hinputs
    rw [run_cons, thenDo_fst, appliedSinceRestart]
    exact ih hrest (react_inStep settings h hi)

/-- **The two marks.** After any inputs the envelopes that were applied since the numbers last
started again carry the numbers from 0 up to the one that the buffer releases next, in order and
each once, and the highest number in the picture is the one before that. -/
theorem applied_in_step (settings : SessionSettings) (inputs : List SessionInput)
    (hinputs : ∀ i ∈ inputs, i.isReadable = true) :
    ((appliedSinceRestart settings fresh [] inputs).map fun f => (f.seqId : Int))
        = between 0 (run settings inputs fresh).1.buffer.expected
      ∧ (run settings inputs fresh).1.state.lastSeqId
        = (run settings inputs fresh).1.buffer.expected - 1 := by
  have h := run_inStep settings hinputs inStep_fresh
  exact ⟨h.ids, h.lastSeqId⟩

/-- A feed that opens anew in the middle of a hand, and then numbers 2, 0 and 1, of which a round of
recovery brings the last two and the first once more. -/
def reopenedRun : List SessionInput :=
  [.start, .opened, .event (.handCreated .ofTwo), .event (.gameEvent (.ofTwo 0 (.shareAt 0))),
    .opened, .event (.gameEvent (.ofTwo 2 (.shareAt 1))),
    .recovered (.ok ⟨[0, 1],
      [.ofTwo 0 (.shareAt 0), .ofTwo 1 (.shareAt 2), .ofTwo 2 (.shareAt 3)], none⟩)]

theorem applied_in_step_reopened :
    (∀ i ∈ reopenedRun, i.isReadable = true)
      ∧ ((appliedSinceRestart .usual fresh [] reopenedRun).map fun f => (f.seqId : Int))
        = between 0 (run .usual reopenedRun fresh).1.buffer.expected
      ∧ (run .usual reopenedRun fresh).1.state.lastSeqId
        = (run .usual reopenedRun fresh).1.buffer.expected - 1 :=
  have hreadable : ∀ i ∈ reopenedRun, i.isReadable = true := by decide
  ⟨hreadable, applied_in_step .usual reopenedRun hreadable⟩

/-- There the three numbers are applied, and the one from before the feed opened anew is not. -/
example :
    (appliedSinceRestart .usual fresh [] reopenedRun).map Finalized.seqId = [0, 1, 2] := by
  decide +kernel

end Session

end MentalPoker
