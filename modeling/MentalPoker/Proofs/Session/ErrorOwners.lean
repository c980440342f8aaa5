import MentalPoker.Proofs.Hand.Mirror
import MentalPoker.Proofs.Session.Forgetting
import MentalPoker.Proofs.Session.Stall

/-!
# Who writes on the error line

The error line of a picture has several owners that do not know of each other. The feed writes on it
when it fails, the narrator when it finds the count of shuffles unknown, the count of rounds when a
stall begins and when it ends, and a new hand starts with an empty line. None of them looks whether
the line is taken. So what the feed said when it failed is shown only until one of the others
writes, although the feed is still down.

## The architecture

* **`Narrator.Reports`**: what an event does to the line and to the mark that the count of shuffles
  was found unknown. `Narrator.isReport_effects` goes through the events.
* **`Tells`**, **`Flags`**: the two things that a reaction can do to the line while the connection
  is not concerned: the narrator tells, and then the flag of a stall changes. **`Writes`** is one
  after the other, with a lemma for each kind of input.
* **`overwrite?`**, **`overwrites`**: what an input and a run of inputs write.
* **`error_react`**: one input. **`connection_errors_show_until_overwritten`**: all inputs since the
  feed failed last, by induction on the last of the inputs.
-/

namespace MentalPoker

/-! ## What the narrator writes -/

/-- The action writes on the error line. -/
def Action.writesError : Action → Bool
  | initGame .. | setError _ => true
  | _ => false

theorem HandState.error_run_of_silent {actions : List Action}
    (h : ∀ a ∈ actions, a.writesError = false) (s : HandState) :
    (s.run actions).error = s.error := by
  induction actions generalizing s with
  | nil => rfl
  | cons a actions ih =>
    obtain ⟨ha, hrest⟩ := List.forall_mem_cons.mp h
    rw [run_cons, ih hrest, step_error]
    cases a <;> first | rfl | cases ha

namespace Narrator

/-- The mark and the line stay, or the count of shuffles is found unknown, which is marked and
written. -/
def Reports (c c' : HandContext) (line line' : Option Text) : Prop :=
  (c'.missingTotalReported = c.missingTotalReported ∧ line' = line)
    ∨ (c.missingTotalReported = false ∧ c'.missingTotalReported = true
      ∧ line' = some shufflesUnknown)

theorem Reports.refl (c : HandContext) (line : Option Text) : Reports c c line line :=
  .inl ⟨rfl, rfl⟩

/-- It is found only once. -/
theorem Reports.trans {c c' c'' : HandContext} {line line' line'' : Option Text}
    (h : Reports c c' line line') (h' : Reports c' c'' line' line'') :
    Reports c c'' line line'' := by
  rcases h with ⟨hmark, rfl⟩ | ⟨hunmarked, hmarked, hwritten⟩
  · rcases h' with ⟨hmark', hline'⟩ | ⟨hunmarked, hlater⟩
    · exact .inl ⟨hmark'.trans hmark, hline'⟩
    · exact .inr ⟨hmark.symm.trans hunmarked, hlater⟩
  · rcases h' with ⟨hmark', hline'⟩ | ⟨hunmarked', _⟩
    · exact .inr ⟨hunmarked, hmark'.trans hmarked, hline'.trans hwritten⟩
    · cases hmarked.symm.trans hunmarked'

/-- Effects that write at most that the count of shuffles is unknown, whatever the picture. -/
def IsReport (c : HandContext) (effects : List Effect) : Prop :=
  ∀ s : HandState, Reports c (contextAfter c effects) s.error (s.run (actionsOf effects)).error

/-- Effects that write nothing on the error line. -/
def IsSilent (effects : List Effect) : Prop := ∀ a ∈ actionsOf effects, a.writesError = false

theorem isSilent_append {xs ys : List Effect} :
    IsSilent (xs ++ ys) ↔ IsSilent xs ∧ IsSilent ys := by
  simp only [IsSilent, actionsOf_append, List.forall_mem_append]

theorem IsSilent.isReport {effects : List Effect} (h : IsSilent effects) {c : HandContext}
    (hmark : (contextAfter c effects).missingTotalReported = c.missingTotalReported) :
    IsReport c effects :=
  fun s => .inl ⟨hmark, HandState.error_run_of_silent h s⟩

theorem isSilent_shareReceived (c : HandContext) (kind : ShareKind) (actor : Actor) (s : Share) :
    IsSilent (shareReceived c kind actor s) := by
  unfold shareReceived
  cases shareTarget? c s.position <;> simp [IsSilent, Action.writesError]

theorem isSilent_dealingStarted (deck : List Card) (c : HandContext) :
    IsSilent (dealingStarted deck c) := by
  rw [IsSilent, actionsOf_dealingStarted]
  cases c.shuffleCompleted <;> simp [Action.writesError]

/-- A shuffle that was never announced is reported if none was before it. -/
theorem isReport_shuffled (c : HandContext) : IsReport c (shuffled c) := by
  cases htotal : c.shuffleTotal with
  | none =>
    cases hmark : c.missingTotalReported with
    | true =>
      refine IsSilent.isReport ?_ ?_
      · simp [IsSilent, shuffled, htotal, hmark, Action.writesError]
      · simp [shuffled, htotal, hmark, contextAfter]
    | false =>
      -- the only place where the narrator writes an error
      intro s
      refine .inr ⟨hmark, ?_, ?_⟩
      · simp [shuffled, htotal, hmark, contextAfter]
      · simp [shuffled, htotal, hmark, HandState.run_cons, HandState.step_error, shufflesUnknown]
  | some total =>
    refine IsSilent.isReport ?_ ?_
    · simp only [shuffled, htotal]
      refine isSilent_append.mpr ⟨by simp [IsSilent, Action.writesError], ?_⟩
      split <;> simp [IsSilent, Action.writesError]
    · simp only [shuffled, htotal]
      split <;> rfl

theorem isReport_envelope (deck : List Card) (c : HandContext) (f : Finalized) :
    IsReport c (envelope deck c f) := by
  intro s
  unfold envelope
  rw [actionsOf_dispatch, contextAfter_dispatch, HandState.run_cons]
  -- the number of the envelope comes first, and does not touch the line
  have hnumber : (s.step (.eventProcessed f.seqId)).error = s.error := rfl
  rw [← hnumber]
  generalize s.step (.eventProcessed f.seqId) = t
  cases f.message with
  | shuffle => exact isReport_shuffled c t
  | blinding share =>
    refine IsSilent.isReport (isSilent_append.mpr ⟨?_, isSilent_shareReceived _ _ _ _⟩) ?_ t
    · split
      · simp [IsSilent]
      · exact isSilent_dealingStarted deck c
    · rw [contextAfter_append, contextAfter_shareReceived]
      split
      · rfl
      · rw [contextAfter_dealingStarted]
  | partialUnblinding share =>
    refine IsSilent.isReport (isSilent_shareReceived _ _ _ _) ?_ t
    rw [contextAfter_shareReceived]
  | bet | showdown => exact .refl c t.error

/-- **All events but new hands** write at most that the count of shuffles is unknown. -/
theorem isReport_effects (deck : List Card) (c : HandContext) {e : FeedEvent}
    (he : e.kind ≠ .handCreated) : IsReport c (effects deck c e) := by
  cases e with
  | handCreated hand => exact absurd rfl he
  | gameEvent f => exact isReport_envelope deck c f
  | playerCreated gameId seat displayName publicKey =>
    simp only [effects, playerCreated]
    split <;> exact fun s => .refl _ _
  | communityDecrypted | cardDecryptable | holeCardDecrypted | handCompleted =>
    refine IsSilent.isReport ?_ rfl
    simp [IsSilent, effects, communityDecrypted, cardDecryptable, holeCardDecrypted, handCompleted,
      say, Action.writesError]

theorem isReport_effectsOfKind (c : HandContext) (kind : FeedEvent.Kind) :
    IsReport c (effectsOfKind c kind) := by
  cases kind with
  | handCompleted =>
    refine IsSilent.isReport ?_ rfl
    simp [IsSilent, effectsOfKind, handCompleted, say, Action.writesError]
  | _ => exact fun s => .inl ⟨rfl, rfl⟩

/-- A new hand starts with an empty line. -/
theorem error_handCreated (c : HandContext) (hand : HandCreated) (s : HandState) :
    (s.run (actionsOf (handCreated c hand))).error = none := by
  cases htotal : hand.shufflerCount <;>
    simp [handCreated, contextOfHand, htotal, say, HandState.run_cons, HandState.step_error]

end Narrator

/-- The input is about how the feed is connected: it opens, fails or completes, or the session is
set back. -/
def SessionInput.ofConnection : SessionInput → Bool
  | opened | failed _ | completed | reset | close => true
  | _ => false

namespace Session

open Narrator (Reports)

/-! ## What a reaction writes -/

/-- The narrator tells, and the flag of a stall stays. -/
structure Tells (s t : Session) : Prop where
  stalled : t.stalled = s.stalled
  reports : Reports s.context t.context s.state.error t.state.error

/-- The narrator says nothing. The flag of a stall stays, and the line with it, or it comes down,
which empties the line, or it goes up, which is said. -/
structure Flags (s t : Session) : Prop where
  context : t.context = s.context
  line : (t.stalled = s.stalled ∧ t.state.error = s.state.error)
    ∨ (s.stalled = true ∧ t.stalled = false ∧ t.state.error = none)
    ∨ (s.stalled = false ∧ t.stalled = true
      ∧ t.state.error = some (stallWarning t.buffer.missing.length))

/-- The narrator tells, and then the flag of a stall is seen to. -/
def Writes (s t : Session) : Prop := ∃ m, Tells s m ∧ Flags m t

theorem Tells.refl (s : Session) : Tells s s := ⟨rfl, .refl _ _⟩

theorem Tells.trans {s m t : Session} (h : Tells s m) (h' : Tells m t) : Tells s t :=
  ⟨h'.stalled.trans h.stalled, h.reports.trans h'.reports⟩

theorem Flags.refl (s : Session) : Flags s s := ⟨rfl, .inl ⟨rfl, rfl⟩⟩

theorem Tells.writes {s t : Session} (h : Tells s t) : Writes s t := ⟨t, h, .refl t⟩

/-- The rest of a session does not matter. -/
theorem Tells.of_same {s t : Session} (hstalled : t.stalled = s.stalled)
    (hcontext : t.context = s.context) (hstate : t.state = s.state) : Tells s t :=
  ⟨hstalled, .inl ⟨congrArg HandContext.missingTotalReported hcontext,
    congrArg HandState.error hstate⟩⟩

/-! ### Parts that tell -/

theorem tells_followAll {effects : List Narrator.Effect} {s : Session}
    (h : Narrator.IsReport s.context effects) : Tells s (followAll effects s).1 := by
  rw [followAll_fst]
  exact ⟨rfl, h s.state⟩

theorem tells_applyReady (deck : List Card) (ready : List (Int × Finalized)) (s : Session) :
    Tells s (applyReady deck ready s).1 := by
  induction ready generalizing s with
  | nil => exact .refl s
  | cons entry ready ih =>
    rw [applyReady_cons, thenDo_fst]
    have hone : Tells s (applyOne deck entry.2 s).1 :=
      tells_followAll (Narrator.isReport_envelope deck s.context entry.2)
    exact hone.trans (ih _)

theorem tells_brought (settings : SessionSettings) (result : Except Failure RecoveryResult)
    (s : Session) : Tells s (brought settings result s).1 := by
  cases result with
  | ok r =>
    have hcancelled : Tells s { s with
        recovery := none
        buffer := (s.buffer.fetched (r.envelopes.map Finalized.numbered)).1 } :=
      .of_same rfl rfl rfl
    exact hcancelled.trans (tells_applyReady settings.deck _ _)
  | error failure => exact .of_same rfl rfl rfl

/-! ### Parts that see to a stall -/

theorem flags_clearStall (s : Session) : Flags s (clearStall s).1 := by
  cases hstalled : s.stalled with
  | true =>
    refine ⟨?_, .inr (.inl ⟨hstalled, stalled_clearStall s, error_clearStall hstalled⟩)⟩
    simp only [clearStall, hstalled, if_true, dispatch_fst]
  | false =>
    simp only [clearStall, hstalled, Bool.false_eq_true, if_false]
    exact ⟨rfl, .inl ⟨hstalled.symm, rfl⟩⟩

theorem flags_afterArrival (f : Finalized) (arrival : GapBuffer.Arrival Finalized) (s : Session) :
    Flags s (afterArrival f arrival s).1 := by
  unfold afterArrival
  split
  · unfold requestRecovery
    split
    · exact .refl s
    · exact ⟨rfl, .inl ⟨rfl, rfl⟩⟩
  · rw [depending_apply]
    split
    · exact .refl s
    · exact flags_clearStall s

theorem flags_countRound (attempts : Int) (s : Session) :
    Flags s (countRound attempts s).1 := by
  rcases countRound_cases attempts s with ⟨_, hcount⟩ | ⟨_, hdown, hcount⟩ | ⟨_, hcount⟩
  · rw [hcount]
    exact flags_clearStall s
  · rw [hcount]
    exact ⟨rfl, .inr (.inr ⟨hdown, rfl, rfl⟩)⟩
  · rw [hcount]
    exact ⟨rfl, .inl ⟨rfl, rfl⟩⟩

/-! ### Inputs -/

theorem writes_event (deck : List Card) {e : FeedEvent} (he : e.kind ≠ .handCreated)
    (s : Session) : Writes s (event deck e s).1 := by
  have hnotice (s : Session) : Tells s (followAll (Narrator.effects deck s.context e) s).1 :=
    tells_followAll (Narrator.isReport_effects deck s.context he)
  cases e with
  | handCreated hand => exact absurd rfl he
  | gameEvent f =>
    rw [event, envelope_apply, thenDo_fst]
    have hkept : Tells s { s with buffer := (s.buffer.arrive f.seqId f).buffer } :=
      .of_same rfl rfl rfl
    exact ⟨_, hkept.trans (tells_applyReady deck _ _), flags_afterArrival f _ _⟩
  | _ => exact (hnotice s).writes

theorem writes_kindOnly (kind : FeedEvent.Kind) (s : Session) :
    Writes s (kindOnly kind s).1 := by
  cases kind with
  | handCreated =>
    rw [kindOnly, prepareHand, inOrder_three]
    have hemptied : Tells s { s with recovery := none, buffer := .start 0 } :=
      .of_same rfl rfl rfl
    exact ⟨_, hemptied, flags_clearStall _⟩
  | _ => exact (tells_followAll (Narrator.isReport_effectsOfKind s.context _)).writes

theorem writes_recovered (settings : SessionSettings) (result : Except Failure RecoveryResult)
    (s : Session) : Writes s (recovered settings result s).1 := by
  cases hround : s.recovery with
  | none =>
    rw [recovered_idle settings result hround]
    exact (Tells.refl s).writes
  | some round =>
    rw [recovered_apply settings result hround, thenDo_fst]
    exact ⟨_, tells_brought settings result s, flags_countRound _ _⟩

/-- **An input that is neither about the connection nor a new hand** has the narrator tell, and
then sees to a stall. -/
theorem writes_react (settings : SessionSettings) {s : Session} {i : SessionInput}
    (hi : i.ofConnection = false) (hhand : i.restarts s = false) :
    Writes s (react settings i s).1 := by
  cases i with
  | event e => exact writes_event settings.deck (of_decide_eq_false hhand) s
  | beginHand e key =>
    have he : e.kind ≠ .handCreated := of_decide_eq_false hhand
    rw [react]
    unfold beginHand
    split
    · next c cs =>
      -- the key is put into the context beforehand
      obtain ⟨m, htells, hflags⟩ := writes_event settings.deck he
        { s with context := { s.context with viewerKey := .str (c :: cs) } }
      exact ⟨m, ⟨htells.stalled, htells.reports⟩, hflags⟩
    · exact writes_event settings.deck he s
  | kindOnly kind => exact writes_kindOnly kind s
  | recovered result => exact writes_recovered settings result s
  | start =>
    rw [react, start]
    split
    · exact (Tells.refl s).writes
    · exact Tells.writes (.of_same rfl rfl rfl)
  | listen | unlisten => exact Tells.writes (.of_same rfl rfl rfl)
  | opened | failed | completed | reset | close => cases hi

/-! ## What is written over the line -/

/-- What an input writes over the line, if anything: a new hand empties it, a stall is said when it
begins and taken back when it ends, and that the count of shuffles is unknown is said once. -/
def overwrite? (settings : SessionSettings) (s : Session) (i : SessionInput) :
    Option (Option Text) :=
  let t := (react settings i s).1
  if i.restarts s then some none
  else if t.stalled && !s.stalled then some (some (stallWarning t.buffer.missing.length))
  else if s.stalled && !t.stalled then some none
  else if t.context.missingTotalReported && !s.context.missingTotalReported then
    some (some Narrator.shufflesUnknown)
  else none

/-- What some inputs write over the line, in order. -/
def overwrites (settings : SessionSettings) (s : Session) :
    List SessionInput → List (Option Text)
  | [] => []
  | i :: rest => (overwrite? settings s i).toList ++ overwrites settings (react settings i s).1 rest

theorem overwrites_append (settings : SessionSettings) (s : Session) (xs ys : List SessionInput) :
    overwrites settings s (xs ++ ys)
      = overwrites settings s xs ++ overwrites settings (run settings xs s).1 ys := by
  induction xs generalizing s with
  | nil => rfl
  | cons x xs ih =>
    rw [List.cons_append, overwrites, ih, overwrites, List.append_assoc, run_cons, thenDo_fst]

/-- A new hand empties the line. -/
theorem error_restarts (settings : SessionSettings) {s : Session} {i : SessionInput}
    (hi : i.ofConnection = false) (hhand : i.restarts s = true) :
    (react settings i s).1.state.error = none := by
  have hannounced {e : FeedEvent} (he : e.kind = .handCreated) (s : Session) :
      (event settings.deck e s).1.state.error = none := by
    cases e with
    | handCreated hand =>
      rw [event, thenDo_fst, depending_apply, followAll_fst]
      exact Narrator.error_handCreated _ hand _
    | _ => cases he
  cases i with
  | event e => exact hannounced (of_decide_eq_true hhand) s
  | beginHand e key =>
    obtain ⟨context, hevent⟩ := beginHand_eq_event settings.deck e key s
    rw [react, hevent]
    exact hannounced (of_decide_eq_true hhand) _
  | opened | reset | close => cases hi
  | _ => cases hhand

/-- **One input** that is not about the connection leaves the line but for what it writes over
it. -/
theorem error_react (settings : SessionSettings) {s : Session} {i : SessionInput}
    (hi : i.ofConnection = false) :
    (react settings i s).1.state.error = (overwrite? settings s i).getD s.state.error := by
  unfold overwrite?
  cases hhand : i.restarts s with
  | true => exact error_restarts settings hi hhand
  | false =>
    obtain ⟨m, htells, hflags⟩ := writes_react settings hi hhand
    simp only [Bool.false_eq_true, if_false, hflags.context, ← htells.stalled]
    -- a flag that changes writes after the narrator, so its line is the one that stays
    rcases hflags.line with ⟨hsame, hline⟩ | ⟨hup, hdown, hline⟩ | ⟨hdown, hup, hline⟩
    · simp only [hsame, Bool.and_not_self, Bool.false_eq_true, if_false, hline]
      rcases htells.reports with ⟨hmark, hkept⟩ | ⟨hunmarked, hmarked, hwritten⟩
      · simp [hmark, hkept]
      · simp [hunmarked, hmarked, hwritten]
    · simp [hup, hdown, hline]
    · simp [hup, hdown, hline]

/-! ## Since the feed failed -/

/-- A session whose feed is down after an input that is not about the connection had it down
before. -/
theorem status_before (settings : SessionSettings) {s : Session} {i : SessionInput}
    (hi : i.ofConnection = false) (hdown : (react settings i s).1.status = .error) :
    s.status = .error := by
  have hline (hkept : (react settings i s).1.line = s.line) : s.status = .error :=
    (congrArg Line.status hkept).symm.trans hdown
  cases i with
  | event e => exact hline (KeepsLine.event settings.deck e s)
  | beginHand e key => exact hline (KeepsLine.beginHand settings.deck e key s)
  | kindOnly kind => exact hline (KeepsLine.kindOnly kind s)
  | recovered result => exact hline (KeepsLine.recovered settings result s)
  | start =>
    rw [react, start] at hdown
    split at hdown
    · exact hdown
    · cases hdown
  | listen | unlisten => exact hdown
  | opened | failed | completed | reset | close => cases hi

/-- What the feed says when it fails is shown. -/
theorem error_failed (settings : SessionSettings) (message : Text) (s : Session) :
    (react settings (.failed message) s).1.state.error = some message :=
  error_dispatch_setError (some message) _

/-- Of the inputs about the connection only a failure of the feed has it down. -/
theorem failed_of_down (settings : SessionSettings) {s : Session} {i : SessionInput}
    (hi : i.ofConnection = true) (hdown : (react settings i s).1.status = .error) :
    ∃ message, i = .failed message := by
  cases i with
  | failed message => exact ⟨message, rfl⟩
  | opened =>
    have hup : (opening s).1.status = .connected := congrArg Line.status (opening_line s)
    cases hup.symm.trans hdown
  | completed => cases hdown
  | reset =>
    rw [react, reset_fst] at hdown
    cases hdown
  | close =>
    have hidle : (react settings .close s).1.status = .idle := by
      rw [react, thenDo_fst]
      split <;> exact congrArg Session.status (reset_fst s)
    cases hidle.symm.trans hdown
  | _ => cases hi

/-- **The line shows what was written last.** In every session that was reached by any inputs and
whose feed is down, the feed failed with some message, and nothing was about the connection since.
The error line shows the last of what new hands, stalls and the narrator wrote over it since then,
and only if they wrote nothing, it shows the message. -/
theorem connection_errors_show_until_overwritten (settings : SessionSettings)
    {inputs : List SessionInput} (hdown : (run settings inputs fresh).1.status = .error) :
    ∃ before message after, inputs = before ++ .failed message :: after
      ∧ (∀ i ∈ after, i.ofConnection = false)
      ∧ (run settings inputs fresh).1.state.error
        = (overwrites settings (run settings (before ++ [.failed message]) fresh).1
            after).getLast?.getD (some message) := by
  induction inputs using List.reverseRecOn with
  | nil => cases hdown
  | append_singleton inputs i ih =>
    have hlast : (run settings (inputs ++ [i]) fresh).1
        = (react settings i (run settings inputs fresh).1).1 := by
      rw [run_append, thenDo_fst, run_cons]
      rfl
    rw [hlast] at hdown ⊢
    -- the last input is the failure itself, or the feed was down before it
    cases hi : i.ofConnection with
    | true =>
      obtain ⟨message, rfl⟩ := failed_of_down settings hi hdown
      refine ⟨inputs, message, [], rfl, List.forall_mem_nil _, ?_⟩
      rw [error_failed, overwrites, List.getLast?_nil, Option.getD_none]
    | false =>
      obtain ⟨before, message, after, rfl, hafter, hline⟩ :=
        ih (status_before settings hi hdown)
      refine ⟨before, message, after ++ [i], by simp, ?_, ?_⟩
      · rintro j hj
        rcases List.mem_append.mp hj with hold | hnew
        · exact hafter j hold
        · rw [List.mem_singleton.mp hnew]
          exact hi
      · have hsince : (run settings after (run settings (before ++ [.failed message]) fresh).1).1
            = (run settings (before ++ .failed message :: after) fresh).1 := by
          rw [← thenDo_fst, ← run_append, List.append_assoc, List.singleton_append]
        rw [error_react settings hi, hline, overwrites_append, hsince, List.getLast?_append,
          overwrites, overwrites, List.append_nil]
        cases overwrite? settings _ i <;> simp

/-- What the feed says when it fails and is connected again in a second. -/
def connectionLost : Text := text "Connection lost. Reconnecting in 1s..."

/-- The feed fails while a round is under way, and the round finds a stall. -/
def stalledWhileDown : List SessionInput :=
  [.start, .opened] ++ twoRounds ++ [.failed connectionLost, .recovered (.ok ⟨[0], [], none⟩)]

/-- The feed fails during a stall, and the round that is under way then ends the stall. -/
def refilledWhileDown : List SessionInput :=
  [.start, .opened] ++ twoRounds
    ++ [.recovered (.ok ⟨[0], [], none⟩), .event (.gameEvent (.ofTwo 4 (.shareAt 3))),
      .failed connectionLost, .recovered (.ok ⟨[0], [.ofTwo 0 (.shareAt 0)], none⟩)]

theorem connection_errors_show_until_overwritten_refilled :
    (run .usual refilledWhileDown fresh).1.status = .error
      ∧ ∃ before message after, refilledWhileDown = before ++ .failed message :: after
        ∧ (∀ i ∈ after, i.ofConnection = false)
        ∧ (run .usual refilledWhileDown fresh).1.state.error
          = (overwrites .usual (run .usual (before ++ [.failed message]) fresh).1
              after).getLast?.getD (some message) := by
  have hdown : (run .usual refilledWhileDown fresh).1.status = .error := by decide +kernel
  exact ⟨hdown, connection_errors_show_until_overwritten .usual hdown⟩

/-- What the feed said is hidden by a stall that begins while the feed is down, and wiped out by one
that ends. -/
theorem stalls_hide_connection_errors :
    ((run .usual stalledWhileDown fresh).1.status = .error
        ∧ (run .usual stalledWhileDown fresh).1.state.error = some (stallWarning 1)
        ∧ stallWarning 1 ≠ connectionLost)
      ∧ (run .usual refilledWhileDown fresh).1.status = .error
      ∧ (run .usual refilledWhileDown fresh).1.state.error = none := by
  decide +kernel

end Session

end MentalPoker
