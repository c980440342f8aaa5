import MentalPoker.Proofs.Session.Forgetting
import MentalPoker.Proofs.Session.OtherHands

/-!
# A new hand owes nothing to the one before

The announcement of a hand does not go through a reset. It gives up the round under way, empties
the gap buffer, takes back a stall, and leaves the rest to the narrator, whose first action starts
a fresh picture. Two sessions that are connected alike and know the same keys of the viewer are
alike after it, whatever gap, stall or round each of them had, and stay alike in every run.

They may have different listeners, so it is shown first that no reaction looks at these: they are
told what happens and have no part in it.

## The architecture

* **`Alike`**: two reactions that differ at most in who listens and is told.
* **`Deaf`**: a part of a reaction that does not look at the listeners, with a lemma for each part.
* **`runShuffled_deaf`**: a whole run. Induction along the inputs.
* **`begun_alone`**: what is left after an announcement, field for field.
-/

namespace MentalPoker

/-- The effects without what listeners are told. -/
def SessionEffect.untold (effects : List SessionEffect) : List SessionEffect :=
  effects.filter fun
    | told _ _ => false
    | _ => true

theorem SessionEffect.untold_append (xs ys : List SessionEffect) :
    untold (xs ++ ys) = untold xs ++ untold ys :=
  List.filter_append xs ys

/-- The input announces a hand, on the feed or outside of it. -/
inductive SessionInput.Announces (hand : HandCreated) : SessionInput → Prop
  | onFeed : Announces hand (event (.handCreated hand))
  | outside (key : Option Text) : Announces hand (beginHand (.handCreated hand) key)

namespace Session

open SessionEffect (untold)

/-- The session with nobody listening. -/
def alone (s : Session) : Session := { s with listeners := [] }

/-- Two reactions that differ at most in who listens and is told. -/
structure Alike (r r' : Session × List SessionEffect) : Prop where
  session : r.1.alone = r'.1.alone
  effects : untold r.2 = untold r'.2

theorem eq_of_alone {s s' : Session} (h : s.alone = s'.alone) :
    s' = { s with listeners := s'.listeners } := by
  cases s
  cases s'
  simp only [alone, mk.injEq] at h
  simp [h]

/-! ## Parts -/

/-- A part of a reaction that does not look at the listeners. -/
def Deaf (f : Step) : Prop := ∀ s ls, Alike (f s) (f { s with listeners := ls })

namespace Deaf

theorem alike {f : Step} (hf : Deaf f) {s s' : Session} (h : s.alone = s'.alone) :
    Alike (f s) (f s') := by
  rw [eq_of_alone h]
  exact hf s s'.listeners

theorem skip : Deaf skip := fun _ _ => ⟨rfl, rfl⟩

theorem emit (e : SessionEffect) : Deaf (emit e) := fun _ _ => ⟨rfl, rfl⟩

theorem modify {f : Session → Session}
    (h : ∀ s ls, (f s).alone = (f { s with listeners := ls }).alone) : Deaf (modify f) :=
  fun s ls => ⟨h s ls, rfl⟩

theorem thenDo {f g : Step} (hf : Deaf f) (hg : Deaf g) : Deaf (thenDo f g) := by
  intro s ls
  have hfirst := hf s ls
  have hsecond := hg.alike hfirst.session
  refine ⟨hsecond.session, ?_⟩
  rw [thenDo_snd, thenDo_snd, SessionEffect.untold_append, SessionEffect.untold_append,
    hfirst.effects, hsecond.effects]

theorem inOrder {fs : List Step} (h : ∀ f ∈ fs, Deaf f) : Deaf (inOrder fs) := by
  induction fs with
  | nil => exact skip
  | cons f fs ih =>
    obtain ⟨hf, hfs⟩ := List.forall_mem_cons.mp h
    exact hf.thenDo (ih hfs)

theorem triple {f g h : Step} (hf : Deaf f) (hg : Deaf g) (hh : Deaf h) :
    Deaf (Session.inOrder [f, g, h]) := by
  rw [inOrder_three]
  exact hf.thenDo (hg.thenDo hh)

theorem untold_assign (state : HandState) (s : Session) :
    untold (assign state s).2 = [.changed state] := by
  have htold : untold (s.listeners.map fun l => .told l state) = [] := by
    rw [untold, List.filter_eq_nil_iff]
    rintro e he
    obtain ⟨l, _, rfl⟩ := List.mem_map.mp he
    exact Bool.false_ne_true
  show SessionEffect.changed state :: untold (s.listeners.map fun l => .told l state) = _
  rw [htold]

theorem assign (state : HandState) : Deaf (assign state) := by
  intro s ls
  refine ⟨rfl, ?_⟩
  rw [untold_assign, untold_assign]

theorem dispatch (a : Action) : Deaf (dispatch a) := by
  intro s ls
  simp only [Session.dispatch]
  cases s.state.step? a with
  | none => exact skip s ls
  | some state => exact assign state s ls

theorem followAll (effects : List Narrator.Effect) : Deaf (followAll effects) := by
  refine inOrder fun f hf => ?_
  obtain ⟨e, _, rfl⟩ := List.mem_map.mp hf
  cases e with
  | remember c => exact modify fun _ _ => rfl
  | cue c => exact emit (.cue c)
  | dispatch a => exact dispatch a

/-- What the narrator says depends on the context. -/
theorem narrated (effects : HandContext → List Narrator.Effect) :
    Deaf (depending fun s => Session.followAll (effects s.context)) :=
  fun s ls => followAll (effects s.context) s ls

theorem applyReady (deck : List Card) (ready : List (Int × Finalized)) :
    Deaf (applyReady deck ready) := by
  refine inOrder fun f hf => ?_
  obtain ⟨entry, _, rfl⟩ := List.mem_map.mp hf
  exact (emit (.applied entry.2)).thenDo (narrated fun c => Narrator.envelope deck c entry.2)

theorem cancelRecovery : Deaf cancelRecovery := modify fun _ _ => rfl

theorem clearStall : Deaf clearStall := by
  intro s ls
  simp only [Session.clearStall]
  cases s.stalled with
  | false => exact ⟨rfl, rfl⟩
  | true => exact dispatch (.setError none) { s with stallRounds := 0, stalled := false } ls

theorem resetPipeline : Deaf resetPipeline := by
  refine triple cancelRecovery ?_ (assign .fresh)
  exact modify fun _ _ => rfl

theorem requestRecovery (r : Recovery) : Deaf (requestRecovery r) := by
  intro s ls
  simp only [Session.requestRecovery]
  split
  · exact ⟨rfl, rfl⟩
  · exact ⟨rfl, rfl⟩

/-! ## Events and rounds -/

theorem envelope (deck : List Card) (f : Finalized) : Deaf (envelope deck f) := by
  intro s ls
  refine triple ?_ (applyReady deck _) ?_ s ls
  · exact modify fun _ _ => rfl
  · split
    · exact requestRecovery _
    · intro s ls
      simp only [depending_apply]
      split
      · exact skip s ls
      · exact clearStall s ls

theorem prepareHand : Deaf prepareHand := by
  refine triple cancelRecovery ?_ clearStall
  exact modify fun _ _ => rfl

theorem event (deck : List Card) (e : FeedEvent) : Deaf (event deck e) := by
  have hnarrated := narrated fun c => Narrator.effects deck c e
  cases e with
  | gameEvent f => exact envelope deck f
  | handCreated hand => exact prepareHand.thenDo hnarrated
  | _ => exact hnarrated

theorem kindOnly (kind : FeedEvent.Kind) : Deaf (kindOnly kind) := by
  cases kind with
  | handCreated => exact prepareHand
  | _ => exact narrated fun c => Narrator.effectsOfKind c _

theorem beginHand (deck : List Card) (e : FeedEvent) (key : Option Text) :
    Deaf (beginHand deck e key) := by
  unfold Session.beginHand
  split
  · refine thenDo ?_ (event deck e)
    exact modify fun _ _ => rfl
  · exact event deck e

theorem countRound (attempts : Int) : Deaf (countRound attempts) := by
  intro s ls
  simp only [Session.countRound]
  cases s.buffer.missing with
  | nil => exact clearStall s ls
  | cons m ms =>
    simp only
    split
    · exact dispatch _ { s with stallRounds := s.stallRounds + 1, stalled := true } ls
    · exact ⟨rfl, rfl⟩

theorem mergeFetched (deck : List Card) (envelopes : List Finalized) :
    Deaf (mergeFetched deck envelopes) :=
  fun s ls => applyReady deck _ { s with buffer := _ } ls

theorem recovered (settings : SessionSettings) (result : Except Failure RecoveryResult) :
    Deaf (recovered settings result) := by
  intro s ls
  simp only [Session.recovered]
  split
  · exact skip s ls
  · refine triple cancelRecovery ?_ (countRound settings.stallAttempts) s ls
    cases result with
    | ok r => exact mergeFetched settings.deck r.envelopes
    | error failure => exact skip

/-! ## Connection -/

theorem start (settings : SessionSettings) : Deaf (start settings) := by
  intro s ls
  simp only [Session.start]
  split
  · exact ⟨rfl, rfl⟩
  · exact ⟨rfl, rfl⟩

theorem opening : Deaf opening := by
  intro s ls
  simp only [Session.opening]
  refine triple ?_ ?_ (dispatch _) s ls
  · split
    · exact resetPipeline
    · exact skip
  · exact modify fun _ _ => rfl

theorem failed (message : Text) : Deaf (failed message) := by
  refine thenDo ?_ (dispatch _)
  exact modify fun _ _ => rfl

theorem disconnect : Deaf disconnect := by
  intro s ls
  simp only [Session.disconnect]
  split
  · exact ⟨rfl, rfl⟩
  · exact ⟨rfl, rfl⟩

theorem reset : Deaf reset := by
  refine triple disconnect ?_ resetPipeline
  exact modify fun _ _ => rfl

end Deaf

/-! ## Inputs and runs -/

/-- **One input.** A listener that comes or goes changes nothing either. -/
theorem react_deaf (settings : SessionSettings) (i : SessionInput) : Deaf (react settings i) := by
  cases i with
  | start => exact .start settings
  | opened => exact .opening
  | failed message => exact .failed message
  | completed | listen | unlisten => exact .modify fun _ _ => rfl
  | event e => exact .event settings.deck e
  | kindOnly kind => exact .kindOnly kind
  | beginHand e key => exact .beginHand settings.deck e key
  | recovered result => exact .recovered settings result
  | reset => exact .reset
  | close =>
    have hclose : Deaf (if settings.hasTransport then emit .close else skip) := by
      split
      · exact .emit .close
      · exact .skip
    exact Deaf.reset.thenDo hclose

/-- **A run.** -/
theorem runShuffled_deaf (settings : SessionSettings) (inputs : List ShuffledInput) :
    Deaf (runShuffled settings inputs) := by
  refine Deaf.inOrder fun f hf => ?_
  obtain ⟨i, _, rfl⟩ := List.mem_map.mp hf
  exact react_deaf { settings with deck := i.deck } i.input

/-! ## Announcements -/

theorem clearStall_counts (s : Session) :
    (clearStall s).1.stallRounds = 0 ∧ (clearStall s).1.stalled = false := by
  simp only [clearStall]
  split
  · rw [dispatch_fst]
    exact ⟨rfl, rfl⟩
  · exact ⟨rfl, rfl⟩

/-- The announcement of a hand takes back a stall. -/
theorem begun_counts (settings : SessionSettings) (hand : HandCreated) (s : Session) :
    (begun settings hand s).stallRounds = 0 ∧ (begun settings hand s).stalled = false := by
  have hbegun : begun settings hand s
      = (followAll (Narrator.effects settings.deck (prepareHand s).1.context (.handCreated hand))
        (prepareHand s).1).1 := rfl
  rw [hbegun, followAll_fst, prepareHand, inOrder_three]
  exact clearStall_counts _

/-- **What an announcement leaves** of a session depends on the keys of the viewer and on how the
session is connected. -/
theorem begun_alone (settings : SessionSettings) (hand : HandCreated) {s s' : Session}
    (hpicture : s.state.viewerKey = s'.state.viewerKey)
    (hcontext : s.context.viewerKey = s'.context.viewerKey) (hline : s.line = s'.line) :
    (begun settings hand s).alone = (begun settings hand s').alone := by
  have hstate := begun_state_congr settings hand hpicture hcontext
  have hkeys : (begun settings hand s).context = (begun settings hand s').context := by
    rw [begun_context, begun_context, Narrator.contextOfHand, Narrator.contextOfHand, hcontext]
  have hkept (u : Session) : (begun settings hand u).line = u.line :=
    KeepsLine.event settings.deck (.handCreated hand) u
  have hconnected : (begun settings hand s).line = (begun settings hand s').line := by
    rw [hkept, hkept, hline]
  simp only [line, Line.mk.injEq] at hconnected
  simp only [alone, hstate, hkeys, hconnected, begun_buffer, begun_recovery,
    begun_counts]

/-- **A new hand owes nothing to the one before.** Two sessions that are connected alike and know
the same keys of the viewer are the same after the announcement of a hand, whatever each of them
went through, and go through every later run, with the same deck for every deal of it, with the
same effects; only their listeners are their own. -/
theorem announced_hands_are_isolated (settings : SessionSettings) {s s' : Session}
    (hpicture : s.state.viewerKey = s'.state.viewerKey)
    (hcontext : s.context.viewerKey = s'.context.viewerKey) (hline : s.line = s'.line)
    {hand : HandCreated} {i : SessionInput} (hi : i.Announces hand) (later : List ShuffledInput) :
    Alike (runShuffled settings later (react settings i s).1)
      (runShuffled settings later (react settings i s').1) := by
  have hbegun (t t' : Session) (hpicture : t.state.viewerKey = t'.state.viewerKey)
      (hcontext : t.context.viewerKey = t'.context.viewerKey) (hline : t.line = t'.line) :
      Alike (runShuffled settings later (begun settings hand t))
        (runShuffled settings later (begun settings hand t')) :=
    (runShuffled_deaf settings later).alike (begun_alone settings hand hpicture hcontext hline)
  cases hi with
  | onFeed => exact hbegun s s' hpicture hcontext hline
  | outside key =>
    show Alike (runShuffled settings later (beginHand settings.deck (.handCreated hand) key s).1)
      (runShuffled settings later (beginHand settings.deck (.handCreated hand) key s').1)
    unfold beginHand
    -- a key that comes with the hand takes the place of the one that was known
    split
    · next c cs =>
      simp only [thenDo_fst, modify_apply]
      exact hbegun { s with context := { s.context with viewerKey := .str (c :: cs) } }
        { s' with context := { s'.context with viewerKey := .str (c :: cs) } } hpicture rfl hline
    · exact hbegun s s' hpicture hcontext hline

/-- Settings in which one round that leaves a gap is a stall. -/
def impatient : SessionSettings := { SessionSettings.usual with stallAttempts := 1 }

/-- A hand in which a round left the gap open, so that a stall was said, and another round was
started. -/
def stuckHand : List SessionInput :=
  [.start, .opened, .event (.handCreated .ofTwo),
    .event (.gameEvent (.ofTwo 1 (.shareAt 2))), .recovered (.ok ⟨[0], [], none⟩),
    .event (.gameEvent (.ofTwo 2 (.shareAt 1)))]

/-- A share of the next hand, and the round that it starts. -/
def nextHand : List ShuffledInput :=
  ShuffledInput.ofDeck Card.ordered.reverse
    [.event (.gameEvent (.ofTwo 1 (.shareAt 2))),
      .recovered (.ok ⟨[0], [.ofTwo 0 (.shareAt 0)], none⟩)]

theorem announced_hands_are_isolated_stuck :
    let s := (run impatient stuckHand fresh).1
    let s' := (run impatient [.listen 4, .start, .opened] fresh).1
    (s.stalled = true ∧ s.recovery ≠ none ∧ s.buffer.hasPending = true)
      ∧ Alike (runShuffled impatient nextHand (react impatient (.event (.handCreated .ofTwo)) s).1)
        (runShuffled impatient nextHand
          (react impatient (.event (.handCreated .ofTwo)) s').1) := by
  intro s s'
  have hpicture : s.state.viewerKey = s'.state.viewerKey := by decide +kernel
  have hcontext : s.context.viewerKey = s'.context.viewerKey := by decide +kernel
  have hline : s.line = s'.line := by decide +kernel
  exact ⟨by decide +kernel,
    announced_hands_are_isolated impatient hpicture hcontext hline .onFeed nextHand⟩

end Session

end MentalPoker
