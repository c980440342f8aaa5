import Mathlib.Data.List.Induction
import Mathlib.Data.List.Nodup
import MentalPoker.Proofs.Session.Parts
import MentalPoker.Session.Task

/-!
# What listeners are told

The picture of a session is replaced in two places: by an action that fits, and when everything
about the hand is forgotten. In both all who listen are told at once, one after another. So whoever
is on the list while a session goes on is told every picture that it has in that time, in their
order, once for each time that he is on the list.

## The crux

An error that a listener raises is caught where he was told, before anything else of the task can
be lost by it. So a task comes to the same session and does the same outside as the reaction does
for which nobody raises anything, whoever fails at whatever moment.

## The architecture

* **`HandState.pictures`**: the pictures that come of what is asked, each from the one before.
* **`Accounts`**: what was asked, what was assigned and what was told belong together.
  `Accounts.trans` joins two parts.
* **`Does`**: a task does what a reaction does, whatever its surroundings raise, and accounts for
  it; with a lemma for each way in which tasks are joined.
* **`Does.react`** has one case for each kind of input, and `Does.run` is the induction.
-/

namespace MentalPoker

/-- The input puts a listener on the list, or takes him off. -/
def SessionInput.names (l : Nat) : SessionInput → Bool
  | listen l' | unlisten l' => l' = l
  | _ => false

/-- The pictures that come of what is asked of one, in order. An action that does not fit gives
none. -/
def HandState.pictures (s : HandState) : List Change → List HandState
  | [] => []
  | .action a :: rest =>
    match s.step? a with
    | none => s.pictures rest
    | some t => t :: t.pictures rest
  | .restart :: rest => .fresh :: HandState.fresh.pictures rest

theorem HandState.pictures_append (s : HandState) (xs ys : List Change) :
    s.pictures (xs ++ ys) = s.pictures xs ++ ((s.pictures xs).getLastD s).pictures ys := by
  induction xs generalizing s with
  | nil => rfl
  | cons change xs ih =>
    cases change with
    | restart =>
      rw [List.cons_append, pictures, pictures, ih, List.cons_append, List.getLastD_cons]
    | action a =>
      rw [List.cons_append, pictures, pictures]
      cases s.step? a with
      | none => exact ih s
      | some t => simp only [ih, List.cons_append, List.getLastD_cons]

namespace SessionEffect

/-- The picture that an effect puts in the place of the old one. -/
def assigned? : SessionEffect → Option HandState
  | changed state => some state
  | _ => none

/-- The pictures that some effects put in place, in order. -/
def assignedIn (effects : List SessionEffect) : List HandState := effects.filterMap assigned?

/-- The picture that a listener is told by an effect. -/
def heardBy? (l : Nat) : SessionEffect → Option HandState
  | told l' state => if l' = l then some state else none
  | _ => none

/-- The pictures that a listener is told by some effects, in order. -/
def heardBy (l : Nat) (effects : List SessionEffect) : List HandState :=
  effects.filterMap (heardBy? l)

/-- The effect has to do with no picture. -/
def isQuiet : SessionEffect → Bool
  | changed _ | told .. => false
  | _ => true

theorem assignedIn_append (xs ys : List SessionEffect) :
    assignedIn (xs ++ ys) = assignedIn xs ++ assignedIn ys := List.filterMap_append

theorem heardBy_append (l : Nat) (xs ys : List SessionEffect) :
    heardBy l (xs ++ ys) = heardBy l xs ++ heardBy l ys := List.filterMap_append

theorem assignedIn_of_isQuiet {effects : List SessionEffect} (h : ∀ e ∈ effects, e.isQuiet = true) :
    assignedIn effects = [] := by
  refine List.filterMap_eq_nil_iff.mpr fun e he => ?_
  cases e with
  | changed => cases h _ he
  | _ => rfl

theorem heardBy_of_isQuiet {effects : List SessionEffect} (h : ∀ e ∈ effects, e.isQuiet = true)
    (l : Nat) : heardBy l effects = [] := by
  refine List.filterMap_eq_nil_iff.mpr fun e he => ?_
  cases e with
  | told => cases h _ he
  | _ => rfl

theorem heardBy_map_told (l : Nat) (state : HandState) (listeners : List Nat) :
    heardBy l (listeners.map fun l' => .told l' state)
      = List.replicate (listeners.count l) state := by
  induction listeners with
  | nil => rfl
  | cons l' listeners ih =>
    rw [List.map_cons, heardBy, List.filterMap_cons]
    by_cases hl : l' = l
    · subst hl
      rw [heardBy?, if_pos rfl, List.count_cons_self, List.replicate_succ]
      exact congrArg _ ih
    · rw [heardBy?, if_neg hl, List.count_cons_of_ne hl]
      exact ih

end SessionEffect

namespace Session

open SessionEffect (assignedIn heardBy)

/-! ## Accounts -/

/-- What is asked of a session, what it comes to and what it does outside belong together: the
pictures that are put in place are those that come of what is asked, the last of them stays, and
every listener concerned is told each of them once for every time he is on the list, on which he
stays. -/
structure Accounts (concerned : Nat → Prop) (s : Session) (changes : List Change)
    (r : Session × List SessionEffect) : Prop where
  assigned : assignedIn r.2 = s.state.pictures changes
  state : r.1.state = (assignedIn r.2).getLastD s.state
  listening : ∀ l, concerned l → r.1.listeners.count l = s.listeners.count l
  heard : ∀ l, concerned l → heardBy l r.2
    = (assignedIn r.2).flatMap fun state => List.replicate (s.listeners.count l) state

namespace Accounts

variable {concerned : Nat → Prop} {s t : Session} {changes more : List Change}
  {effects : List SessionEffect}

theorem trans {r : Session × List SessionEffect} (h : Accounts concerned s changes (t, effects))
    (h' : Accounts concerned t more r) :
    Accounts concerned s (changes ++ more) (r.1, effects ++ r.2) where
  assigned := by
    have hstate : (s.state.pictures changes).getLastD s.state = t.state := by
      rw [← h.assigned]
      exact h.state.symm
    rw [SessionEffect.assignedIn_append, HandState.pictures_append, hstate, h'.assigned]
    exact congrArg (· ++ _) h.assigned
  state := by
    have hlast : (assignedIn effects).getLast?.getD s.state = t.state := by
      rw [← List.getLastD_eq_getLast?]
      exact h.state.symm
    rw [SessionEffect.assignedIn_append, List.getLastD_eq_getLast?, List.getLast?_append,
      Option.getD_or, hlast, ← List.getLastD_eq_getLast?]
    exact h'.state
  listening l hl := (h'.listening l hl).trans (h.listening l hl)
  heard l hl := by
    have hfirst := h.heard l hl
    have hsecond := h'.heard l hl
    rw [h.listening l hl] at hsecond
    rw [SessionEffect.heardBy_append, SessionEffect.assignedIn_append, List.flatMap_append,
      hsecond, ← hfirst]

/-- What has to do with no picture. -/
theorem quiet {r : Session × List SessionEffect} (hstate : r.1.state = s.state)
    (hlisteners : ∀ l, concerned l → r.1.listeners.count l = s.listeners.count l)
    (hquiet : ∀ e ∈ r.2, e.isQuiet = true) : Accounts concerned s [] r := by
  have hnone := SessionEffect.assignedIn_of_isQuiet hquiet
  refine ⟨hnone, ?_, hlisteners, fun l _ => ?_⟩
  · rw [hnone]
    exact hstate
  · rw [hnone]
    exact SessionEffect.heardBy_of_isQuiet hquiet l

/-- A picture that is put in place, and told to all who listen. -/
theorem assign {state : HandState} (h : s.state.pictures changes = [state]) :
    Accounts concerned s changes (assign state s) := by
  have hassigned : assignedIn (Session.assign state s).2 = [state] := by
    have htold : assignedIn (s.listeners.map fun l => .told l state) = [] := by
      refine List.filterMap_eq_nil_iff.mpr fun e he => ?_
      obtain ⟨l, -, rfl⟩ := List.mem_map.mp he
      rfl
    show state :: assignedIn (s.listeners.map fun l => .told l state) = [state]
    rw [htold]
  refine ⟨hassigned.trans h.symm, ?_, fun l _ => rfl, fun l _ => ?_⟩
  · rw [hassigned]
    rfl
  · rw [hassigned, List.flatMap_cons, List.flatMap_nil, List.append_nil]
    exact SessionEffect.heardBy_map_told l state s.listeners

end Accounts

/-! ## Tasks -/

namespace Task

variable {α β : Type}

theorem exec_bind (m : Task α) (f : α → Task β) (st : TaskState) :
    exec (m >>= f) st = match exec m st with
      | (.ok a, st) => exec (f a) st
      | (.error e, st) => (.error e, st) := by
  unfold exec ExceptT.run StateT.run
  simp only [bind, ExceptT.bind, ExceptT.mk, StateT.bind, ExceptT.bindCont]
  cases m st with
  | mk result st => cases result <;> rfl

theorem exec_tryCatch (m : Task α) (f : Raised → Task α) (st : TaskState) :
    exec (tryCatch m f) st = match exec m st with
      | (.ok a, st) => (.ok a, st)
      | (.error e, st) => exec (f e) st := by
  unfold exec ExceptT.run StateT.run
  simp only [tryCatch, tryCatchThe, MonadExceptOf.tryCatch, ExceptT.tryCatch, ExceptT.mk, bind,
    StateT.bind]
  cases m st with
  | mk result st => cases result <;> rfl

/-- **A call** ends well, whether or not something is raised. -/
theorem exec_safeCall (w : Surroundings) (e : SessionEffect) (st : TaskState) :
    exec (safeCall w e) st = (.ok (), { st with done := st.done ++ [e] }) := by
  have hcall : exec (call w e) st
      = ((w (st.done ++ [e])).elim (.ok ()) .error, { st with done := st.done ++ [e] }) := by
    show exec ((w (st.done ++ [e])).elim (pure ()) throw) _ = _
    cases w (st.done ++ [e]) <;> rfl
  rw [safeCall, exec_tryCatch, hcall]
  cases w (st.done ++ [e]) with
  | none => rfl
  | some raised => rfl

/-- All are told, also those who come after one who fails. Induction on the list. -/
theorem exec_notify (w : Surroundings) (listeners : List Nat) (st : TaskState) :
    exec (notify w listeners) st = (.ok (), { st with
      done := st.done ++ listeners.map fun l => .told l st.session.state }) := by
  induction listeners generalizing st with
  | nil =>
    rw [List.map_nil, List.append_nil]
    rfl
  | cons l listeners ih =>
    show exec (safeCall w (.told l st.session.state) >>= fun _ => notify w listeners) st = _
    rw [exec_bind, exec_safeCall]
    simp only [ih, List.map_cons, List.append_assoc, List.singleton_append]

theorem exec_assign (w : Surroundings) (state : HandState) (st : TaskState) :
    exec (assign w state) st = (.ok (), { st with
      session := (Session.assign state st.session).1
      done := st.done ++ (Session.assign state st.session).2 }) := by
  show exec (notify w st.session.listeners) { st with
    session := { st.session with state := state }, done := st.done ++ [.changed state] } = _
  rw [exec_notify]
  simp only [Session.assign, List.append_assoc, List.singleton_append]

/-- At a session the task comes to what is given and accounts for it, whatever is raised. -/
def DoesAt (concerned : Nat → Prop) (s : Session) (m : Surroundings → Task Unit)
    (r : Session × List SessionEffect) : Prop :=
  ∃ changes, Accounts concerned s changes r
    ∧ ∀ w asked done, exec (m w) ⟨s, asked, done⟩ = (.ok (), ⟨r.1, asked ++ changes, done ++ r.2⟩)

/-- The task does what the part of a reaction does. -/
def Does (concerned : Nat → Prop) (m : Surroundings → Task Unit) (f : Step) : Prop :=
  ∀ s, DoesAt concerned s m (f s)

variable {concerned : Nat → Prop} {s : Session} {m n : Surroundings → Task Unit} {f g : Step}
  {r : Session × List SessionEffect}

namespace DoesAt

/-- What calls nobody and has to do with no picture. -/
theorem quiet (hstate : (f s).1.state = s.state)
    (hlisteners : ∀ l, concerned l → (f s).1.listeners.count l = s.listeners.count l)
    (hquiet : ∀ e ∈ (f s).2, e.isQuiet = true) :
    DoesAt concerned s (fun _ => perform f) (f s) :=
  ⟨[], .quiet hstate hlisteners hquiet, fun w asked done => by rw [List.append_nil]; rfl⟩

theorem bind {t : Session} {effects : List SessionEffect}
    (h : DoesAt concerned s m (t, effects)) (h' : DoesAt concerned t n r) :
    DoesAt concerned s (fun w => do m w; n w) (r.1, effects ++ r.2) := by
  obtain ⟨changes, haccounts, hexec⟩ := h
  obtain ⟨more, haccounts', hexec'⟩ := h'
  refine ⟨changes ++ more, haccounts.trans haccounts', fun w asked done => ?_⟩
  -- the first part raises nothing, so the second takes place where it left off
  rw [exec_bind, hexec]
  simp only [hexec', List.append_assoc]

/-- Nothing is raised that could be caught farther out. -/
theorem tryCatch (h : DoesAt concerned s m r) (handler : Raised → Task Unit) :
    DoesAt concerned s (fun w => tryCatch (m w) handler) r := by
  obtain ⟨changes, haccounts, hexec⟩ := h
  refine ⟨changes, haccounts, fun w asked done => ?_⟩
  rw [exec_tryCatch, hexec]

/-- A picture is put in place because of what is asked. -/
theorem change {change : Change} {state : HandState} (h : s.state.pictures [change] = [state]) :
    DoesAt concerned s (fun w => do ask change; assign w state) (Session.assign state s) := by
  refine ⟨[change], .assign h, fun w asked done => ?_⟩
  show exec (assign w state) ⟨s, asked ++ [change], done⟩ = _
  rw [exec_assign]

end DoesAt

namespace Does

theorem skip : Does concerned (fun _ => pure ()) Session.skip := fun s =>
  ⟨[], .quiet rfl (fun _ _ => rfl) (fun _ he => nomatch he), fun w asked done => by
    show _ = (Except.ok (), TaskState.mk s (asked ++ []) (done ++ []))
    rw [List.append_nil, List.append_nil]
    rfl⟩

theorem thenDo (hf : Does concerned m f) (hg : Does concerned n g) :
    Does concerned (fun w => do m w; n w) (thenDo f g) := fun s => (hf s).bind (hg (f s).1)

theorem triple {k : Surroundings → Task Unit} {h : Step} (hf : Does concerned m f)
    (hg : Does concerned n g) (hh : Does concerned k h) :
    Does concerned (fun w => do m w; n w; k w) (inOrder [f, g, h]) := by
  rw [inOrder_three]
  exact hf.thenDo (hg.thenDo hh)

theorem ifElse (b : Bool) (hf : Does concerned m f) (hg : Does concerned n g) :
    Does concerned (fun w => if b then m w else n w) (if b then f else g) := by
  cases b with
  | true => exact hf
  | false => exact hg

theorem modify {f : Session → Session} (hstate : ∀ s, (f s).state = s.state)
    (hlisteners : ∀ s, (f s).listeners = s.listeners) :
    Does concerned (fun _ => perform (Session.modify f)) (Session.modify f) := fun s =>
  .quiet (hstate s) (fun _ _ => congrArg _ (hlisteners s)) (fun _ he => nomatch he)

/-- **An action** is asked for; if it fits, its picture is put in place. -/
theorem dispatch (a : Action) : Does concerned (fun w => dispatch w a) (Session.dispatch a) := by
  intro s
  cases hstep : s.state.step? a with
  | none =>
    have hnothing : Session.dispatch a s = (s, []) := by rw [Session.dispatch, hstep]
    have hpictures : s.state.pictures [.action a] = [] := by
      simp only [HandState.pictures, hstep]
    rw [hnothing]
    refine ⟨[.action a], ⟨hpictures.symm, rfl, fun _ _ => rfl, fun _ _ => rfl⟩,
      fun w asked done => ?_⟩
    show exec (match s.state.step? a with | none => pure () | some state => assign w state)
      ⟨s, asked ++ [.action a], done⟩ = _
    rw [hstep, List.append_nil]
    rfl
  | some state =>
    have hassign : Session.dispatch a s = Session.assign state s := by rw [Session.dispatch, hstep]
    have hpictures : s.state.pictures [.action a] = [state] := by
      simp only [HandState.pictures, hstep]
    rw [hassign]
    have hchange : DoesAt concerned s (fun w => do ask (.action a); assign w state)
        (Session.assign state s) := .change hpictures
    obtain ⟨changes, haccounts, hexec⟩ := hchange
    refine ⟨changes, haccounts, fun w asked done => ?_⟩
    rw [← hexec w asked done]
    show exec (match s.state.step? a with | none => pure () | some state => assign w state)
      ⟨s, asked ++ [.action a], done⟩ = exec (assign w state) ⟨s, asked ++ [.action a], done⟩
    rw [hstep]

theorem follow (e : Narrator.Effect) : Does concerned (fun w => follow w e) (Session.follow e) := by
  cases e with
  | remember c => exact modify (fun _ => rfl) fun _ => rfl
  | dispatch a => exact dispatch a
  | cue c =>
    refine fun s => ⟨[], .quiet rfl (fun _ _ => rfl) (by simp [Session.follow, SessionEffect.isQuiet]),
      fun w asked done => ?_⟩
    show exec (safeCall w (.cue c)) ⟨s, asked, done⟩ = _
    rw [exec_safeCall, List.append_nil]
    rfl

theorem followAll (effects : List Narrator.Effect) :
    Does concerned (fun w => followAll w effects) (Session.followAll effects) := by
  induction effects with
  | nil => exact skip
  | cons e effects ih => exact (follow e).thenDo ih

theorem narrated (effects : List Narrator.Effect) :
    Does concerned (fun w => narrated w effects) (Session.followAll effects) := fun s =>
  (followAll effects s).tryCatch passOver

/-! ### Stalls and resets -/

theorem emit {e : SessionEffect} (h : e.isQuiet = true) :
    Does concerned (fun _ => perform (emit e)) (Session.emit e) := fun _ =>
  .quiet rfl (fun _ _ => rfl) (List.forall_mem_singleton.mpr h)

theorem cancelRecovery :
    Does concerned (fun _ => perform cancelRecovery) Session.cancelRecovery :=
  modify (fun _ => rfl) fun _ => rfl

theorem clearStall : Does concerned (fun w => clearStall w) Session.clearStall := by
  intro s
  have hfirst : Does concerned _ _ :=
    modify (f := fun s => { s with stallRounds := 0, stalled := false })
      (fun _ => rfl) fun _ => rfl
  show DoesAt concerned s (fun w => do
      perform (Session.modify fun s => { s with stallRounds := 0, stalled := false })
      if s.stalled then Task.dispatch w (.setError none) else pure ())
    (if s.stalled then
        Session.dispatch (.setError none) { s with stallRounds := 0, stalled := false }
      else ({ s with stallRounds := 0, stalled := false }, []))
  cases s.stalled with
  | true => exact hfirst.thenDo (dispatch (.setError none)) s
  | false => exact hfirst.thenDo skip s

/-- **Forgetting everything** puts a fresh picture in place, also where there was one. -/
theorem resetPipeline : Does concerned (fun w => resetPipeline w) Session.resetPipeline :=
  triple cancelRecovery (modify (fun _ => rfl) fun _ => rfl) fun _ => .change rfl

/-! ### Events -/

theorem applyReady (deck : List Card) (ready : List (Int × Finalized)) :
    Does concerned (fun w => applyReady w deck ready) (Session.applyReady deck ready) := by
  induction ready with
  | nil => exact skip
  | cons entry ready ih =>
    have hone : Does concerned (fun w => applyOne w deck entry.2)
        (Session.applyOne deck entry.2) :=
      (emit rfl).thenDo fun s => narrated (Narrator.envelope deck s.context entry.2) s
    exact hone.thenDo ih

theorem requestRecovery (r : Recovery) :
    Does concerned (fun _ => perform (requestRecovery r)) (Session.requestRecovery r) := by
  intro s
  cases hround : s.recovery with
  | some _ =>
    refine .quiet ?_ (fun l _ => ?_) ?_ <;> simp [Session.requestRecovery, hround]
  | none =>
    refine .quiet ?_ (fun l _ => ?_) ?_ <;>
      simp [Session.requestRecovery, hround, SessionEffect.isQuiet]

theorem afterEnvelope (f : Finalized) (arrival : GapBuffer.Arrival Finalized) :
    Does concerned (fun w => afterEnvelope w f arrival)
      (if arrival.hasGap then
        Session.requestRecovery ⟨f.envelope.gameId, f.envelope.handId, arrival.missing⟩
      else Session.depending fun s => if s.buffer.hasPending then Session.skip
        else Session.clearStall) := by
  intro s
  show DoesAt concerned s (fun w => if arrival.hasGap then _
    else if s.buffer.hasPending then _ else _) _
  cases arrival.hasGap with
  | true => exact requestRecovery _ s
  | false => exact ifElse s.buffer.hasPending skip clearStall s

theorem envelope (deck : List Card) (f : Finalized) :
    Does concerned (fun w => envelope w deck f) (Session.envelope deck f) := fun s =>
  triple (modify (f := fun t => { t with buffer := (s.buffer.arrive f.seqId f).buffer })
    (fun _ => rfl) fun _ => rfl) (applyReady deck _) (afterEnvelope f _) s

theorem prepareHand : Does concerned (fun w => prepareHand w) Session.prepareHand :=
  triple cancelRecovery (modify (fun _ => rfl) fun _ => rfl) clearStall

theorem narrate (deck : List Card) (e : FeedEvent) :
    Does concerned (fun w => narrate w deck e)
      (Session.depending fun s => Session.followAll (Narrator.effects deck s.context e)) :=
  fun s => narrated (Narrator.effects deck s.context e) s

theorem event (deck : List Card) (e : FeedEvent) :
    Does concerned (fun w => event w deck e) (Session.event deck e) := by
  cases e with
  | gameEvent f => exact envelope deck f
  | handCreated hand => exact prepareHand.thenDo (narrate deck (.handCreated hand))
  | _ => exact narrate deck _

theorem kindOnly (kind : FeedEvent.Kind) :
    Does concerned (fun w => kindOnly w kind) (Session.kindOnly kind) := by
  cases kind with
  | handCreated => exact prepareHand
  | _ => exact fun s => narrated (Narrator.effectsOfKind s.context _) s

theorem beginHand (deck : List Card) (e : FeedEvent) (key : Option Text) :
    Does concerned (fun w => beginHand w deck e key) (Session.beginHand deck e key) := by
  match key with
  | some (c :: cs) =>
    exact thenDo (modify (f := fun s =>
      { s with context := { s.context with viewerKey := .str (c :: cs) } })
      (fun _ => rfl) fun _ => rfl) (event deck e)
  | some [] | none => exact event deck e

/-! ### Recovery -/

theorem countRound (attempts : Int) :
    Does concerned (fun w => countRound w attempts) (Session.countRound attempts) := by
  intro s
  show DoesAt concerned s (fun w => countMissing w attempts s s.buffer.missing) _
  rw [Session.countRound]
  cases s.buffer.missing with
  | nil => exact clearStall s
  | cons first rest =>
    show DoesAt concerned s (fun w =>
        if attempts ≤ ((s.stallRounds + 1 : Nat) : Int) && !s.stalled then _ else _)
      (if attempts ≤ ((s.stallRounds + 1 : Nat) : Int) && !s.stalled then _ else _)
    cases attempts ≤ ((s.stallRounds + 1 : Nat) : Int) && !s.stalled with
    | true =>
      exact thenDo (modify (f := fun s => { s with stallRounds := s.stallRounds + 1, stalled := true })
        (fun _ => rfl) fun _ => rfl) (dispatch _) s
    | false =>
      exact modify (f := fun s => { s with stallRounds := s.stallRounds + 1 })
        (fun _ => rfl) (fun _ => rfl) s

theorem mergeRound (deck : List Card) (result : Except Failure RecoveryResult) :
    Does concerned (fun w => mergeRound w deck result)
      (match result with
      | .ok r => Session.mergeFetched deck r.envelopes
      | .error _ => Session.skip) := by
  cases result with
  | error failure => exact skip
  | ok r =>
    intro s
    have hmerge : DoesAt concerned s (fun w => mergeFetched w deck r.envelopes)
        (Session.mergeFetched deck r.envelopes s) :=
      thenDo (modify (f := fun t => { t with
        buffer := (s.buffer.fetched (r.envelopes.map fun f => ((f.seqId : Int), f))).1 })
        (fun _ => rfl) fun _ => rfl) (applyReady deck _) s
    exact hmerge.tryCatch _

theorem recovered (settings : SessionSettings) (result : Except Failure RecoveryResult) :
    Does concerned (fun w => recovered w settings result) (Session.recovered settings result) := by
  intro s
  show DoesAt concerned s (fun w => endRound w settings result s.recovery) _
  unfold Session.recovered
  cases s.recovery with
  | none => exact skip s
  | some _ =>
    exact triple cancelRecovery (mergeRound settings.deck result)
      (countRound settings.stallAttempts) s

/-! ### Connection -/

theorem opening : Does concerned (fun w => opening w) Session.opening := by
  intro s
  have hforget : DoesAt concerned s (fun w => forgetOld w)
      ((if s.opened then Session.resetPipeline else Session.skip) s) := by
    show DoesAt concerned s (fun w => if s.opened then _ else _) _
    exact ifElse s.opened resetPipeline skip s
  have hopen : Does concerned _ _ :=
    thenDo (modify (f := fun s => { s with opened := true, status := .connected })
      (fun _ => rfl) fun _ => rfl) (dispatch (.setError none))
  rw [Session.opening, inOrder_three]
  exact hforget.bind (hopen _)

theorem failed (message : Text) :
    Does concerned (fun w => failed w message) (Session.failed message) := by
  exact thenDo (modify (f := fun s => { s with status := .error }) (fun _ => rfl) fun _ => rfl)
    (dispatch (.setError (some message)))

theorem reset : Does concerned (fun w => reset w) Session.reset := by
  have hdisconnect : Does concerned (fun _ => perform disconnect) Session.disconnect := by
    intro s
    refine .quiet ?_ (fun l _ => ?_) ?_
    all_goals
      cases hactive : s.active <;> simp [Session.disconnect, hactive, SessionEffect.isQuiet]
  exact hdisconnect.triple (modify (fun _ => rfl) fun _ => rfl) resetPipeline

/-- **Any input.** The lists of listeners before and after it hold whoever it does not name equally
often. -/
theorem react (settings : SessionSettings) (input : SessionInput)
    (h : ∀ l, concerned l → input.names l = false) :
    Does concerned (fun w => react w settings input) (Session.react settings input) := by
  cases input with
  | start =>
    intro s
    refine .quiet ?_ (fun l _ => ?_) ?_
    all_goals
      simp only [Session.start]
      split <;> simp [SessionEffect.isQuiet]
  | opened => exact opening
  | failed message => exact failed message
  | completed => exact modify (fun _ => rfl) fun _ => rfl
  | event e => exact event settings.deck e
  | kindOnly kind => exact kindOnly kind
  | beginHand e key => exact beginHand settings.deck e key
  | recovered result => exact recovered settings result
  | listen l' =>
    refine fun s => .quiet rfl (fun l hl => ?_) fun _ he => nomatch he
    have hother : l' ≠ l := by simpa [SessionInput.names] using h l hl
    show (s.listeners ++ [l']).count l = _
    rw [List.count_append, List.count_singleton, if_neg (by simpa using hother), Nat.add_zero]
  | unlisten l' =>
    refine fun s => .quiet rfl (fun l hl => ?_) fun _ he => nomatch he
    have hother : l' ≠ l := by simpa [SessionInput.names] using h l hl
    exact List.count_erase_of_ne hother.symm
  | reset => exact reset
  | close =>
    have hclose : Does concerned
        (fun _ => perform (if settings.hasTransport then Session.emit .close else Session.skip))
        (if settings.hasTransport then Session.emit .close else Session.skip) := by
      cases settings.hasTransport with
      | true => exact emit rfl
      | false => exact modify (fun _ => rfl) fun _ => rfl
    exact thenDo reset hclose

/-- **A run**, by induction on its inputs. -/
theorem run (settings : SessionSettings) (inputs : List SessionInput)
    (h : ∀ l, concerned l → ∀ input ∈ inputs, input.names l = false) :
    Does concerned (fun w => run w settings inputs) (Session.run settings inputs) := by
  induction inputs with
  | nil => exact skip
  | cons input inputs ih =>
    have hfirst : ∀ l, concerned l → input.names l = false := fun l hl =>
      h l hl input List.mem_cons_self
    exact (react settings input hfirst).thenDo
      (ih fun l hl i hi => h l hl i (List.mem_cons_of_mem _ hi))

end Does

end Task

/-! ## Who listens -/

/-- The list of listeners after an input. -/
def subscribersAfter (listeners : List Nat) : SessionInput → List Nat
  | .listen l => listeners ++ [l]
  | .unlisten l => listeners.erase l
  | _ => listeners

/-- Who listens after some inputs: those who were put on the list and not taken off again. -/
def subscribers (inputs : List SessionInput) : List Nat := inputs.foldl subscribersAfter []

theorem count_listeners_react (settings : SessionSettings) (input : SessionInput) (s : Session)
    (l : Nat) :
    (react settings input s).1.listeners.count l = (subscribersAfter s.listeners input).count l := by
  have hother (h : ∀ l, input.names l = false) :
      (react settings input s).1.listeners.count l = s.listeners.count l := by
    have hdoes : Task.Does (fun _ => True) (fun w => Task.react w settings input)
        (react settings input) := .react settings input fun l _ => h l
    obtain ⟨_, haccounts, -⟩ := hdoes s
    exact haccounts.listening l trivial
  cases input with
  | listen | unlisten => rfl
  | _ => exact hother fun _ => rfl

/-- The list of a session has just those who listen. Induction from the last input back. -/
theorem count_listeners_run (settings : SessionSettings) (inputs : List SessionInput) (l : Nat) :
    (run settings inputs fresh).1.listeners.count l = (subscribers inputs).count l := by
  induction inputs using List.reverseRecOn with
  | nil => rfl
  | append_singleton inputs input ih =>
    rw [run_append, thenDo_fst, subscribers, List.foldl_append]
    show (react settings input (run settings inputs fresh).1).1.listeners.count l
      = (subscribersAfter (subscribers inputs) input).count l
    rw [count_listeners_react]
    cases input with
    | listen l' =>
      show (_ ++ [l']).count l = (_ ++ [l']).count l
      rw [List.count_append, List.count_append, ih]
    | unlisten l' =>
      show (List.erase _ l').count l = (List.erase _ l').count l
      rw [List.count_erase, List.count_erase, ih]
    | _ => exact ih

/-- **Listeners miss nothing**, and one who fails disturbs nobody. Some inputs come after others,
by which nobody was put on the list twice; whoever is called may raise any error at any moment.
(What is no error, such as a cancellation, goes past the call, and is not among what can be
`Raised`.) The task of the session ends well with the session that the reactions come to, and does
outside just what they do. The pictures that it puts in place are those that come of what is asked
of it, one after another: one for each action that fits, and one for each time that everything is
forgotten. The last of them is the picture that the session has at the end. A listener who is on the
list, and neither put on it nor taken off meanwhile, is told just these pictures in this order, so
the last that he was told is the one that the session has; and one who is not on the list is told
nothing. -/
theorem listeners_miss_nothing (settings : SessionSettings) (before during : List SessionInput)
    (hdistinct : (subscribers before).Nodup) :
    let s := (run settings before fresh).1
    let t := (run settings during s).1
    let effects := (run settings during s).2
    (∀ l, l ∈ subscribers (before ++ [.listen l]) ∧ l ∉ subscribers (before ++ [.unlisten l]))
      ∧ ∃ asked past changes,
        (∀ w, Task.exec (Task.run w settings before) ⟨fresh, [], []⟩ = (.ok (), ⟨s, asked, past⟩)
          ∧ Task.exec (Task.run w settings during) ⟨s, asked, past⟩
            = (.ok (), ⟨t, asked ++ changes, past ++ effects⟩))
        ∧ assignedIn effects = s.state.pictures changes
        ∧ t.state = (assignedIn effects).getLastD s.state
        ∧ ∀ l, (∀ input ∈ during, input.names l = false) →
          (l ∈ subscribers before → heardBy l effects = assignedIn effects
            ∧ (assignedIn effects ≠ [] → (heardBy l effects).getLast? = some t.state))
          ∧ (l ∉ subscribers before → heardBy l effects = []) := by
  intro s t effects
  have hlist : ∀ l, l ∈ subscribers (before ++ [.listen l])
      ∧ l ∉ subscribers (before ++ [.unlisten l]) := by
    intro l
    rw [subscribers, subscribers, List.foldl_append, List.foldl_append]
    exact ⟨List.mem_append_right _ List.mem_cons_self, hdistinct.not_mem_erase⟩
  -- what went before concerns nobody here, but it ends well too
  have hfirst : Task.Does (fun _ => False) (fun w => Task.run w settings before)
      (run settings before) := .run settings before fun _ h => nomatch h
  have hthen : Task.Does (fun l => ∀ input ∈ during, input.names l = false)
      (fun w => Task.run w settings during) (run settings during) := .run settings during fun _ h => h
  obtain ⟨asked, -, hbefore⟩ := hfirst fresh
  obtain ⟨changes, haccounts, hduring⟩ := hthen s
  refine ⟨hlist, asked, _, changes, fun w => ⟨hbefore w [] [], hduring w asked _⟩,
    haccounts.assigned, haccounts.state, fun l hl => ⟨fun hlistens => ?_, fun hlistens => ?_⟩⟩
  · -- he is on the list once
    have hcount : s.listeners.count l = 1 := by
      rw [count_listeners_run]
      exact List.count_eq_one_of_mem hdistinct hlistens
    have hheard : heardBy l effects = assignedIn effects := by
      have hall := haccounts.heard l hl
      rw [hcount] at hall
      exact hall.trans (List.flatMap_singleton' _)
    refine ⟨hheard, fun hsome => ?_⟩
    obtain ⟨last, hlast⟩ := Option.isSome_iff_exists.mp (List.getLast?_isSome.mpr hsome)
    have hstate : t.state = (assignedIn effects).getLastD s.state := haccounts.state
    rw [hheard, hstate, List.getLastD_eq_getLast?, hlast, Option.getD_some]
  · have hcount : s.listeners.count l = 0 := by
      rw [count_listeners_run]
      exact List.count_eq_zero_of_not_mem hlistens
    have hall := haccounts.heard l hl
    rw [hcount] at hall
    exact hall.trans (List.flatMap_eq_nil_iff.mpr fun _ _ => rfl)

/-- The feed opens and a hand is announced, while the first of two listeners leaves. -/
def openedHand : List SessionInput := [.opened, .unlisten 1, .event (.handCreated .ofTwo)]

/-- Both listeners fail whenever they are told something, and so does whoever takes the cues. The
second is told all five pictures. -/
theorem listeners_miss_nothing_failing :
    ∃ asked past,
      (∀ raised, (Task.exec (Task.run (fun _ => some raised) .usual openedHand)
        ⟨(run .usual [.listen 1, .listen 2] fresh).1, asked, past⟩).1 = .ok ())
      ∧ (heardBy 2 (run .usual openedHand (run .usual [.listen 1, .listen 2] fresh).1).2).length
        = 5 := by
  have hdistinct : (subscribers [.listen 1, .listen 2]).Nodup := by decide
  have hlistens : 2 ∈ subscribers [.listen 1, .listen 2] := by decide
  have hstays : ∀ input ∈ openedHand, input.names 2 = false := by
    simp [openedHand, SessionInput.names]
  obtain ⟨-, asked, past, changes, hexec, -, -, hheard⟩ :=
    listeners_miss_nothing .usual [.listen 1, .listen 2] openedHand hdistinct
  refine ⟨asked, past, fun raised => ?_, ?_⟩
  · rw [(hexec fun _ => some raised).2]
  · rw [((hheard 2 hstays).1 hlistens).1]
    decide +kernel

end Session

end MentalPoker
