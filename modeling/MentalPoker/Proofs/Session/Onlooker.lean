import MentalPoker.Proofs.Session.Parts

/-!
# Onlookers of a session

An onlooker sees a session from outside: how its picture changes, which envelopes it applies, and
which cues it gives, each at its time. What an onlooker makes of them is data of his own, beside the
session. A statement that ties this data to the session has to be checked for a few things that can
happen, and then holds after any inputs.

## The crux

Nearly all that a session does outside itself, it does on the narrator's word. What an onlooker
makes of a part that follows the narrator is what he would make of the narrator's words themselves
(`view_followAll`), so the statement is checked on these words (`Onlooker.Sound`).

## The architecture

* **`Onlooker`**, **`Onlooker.seesAll`**: data that follow the effects of a session.
* **`Onlooker.View`**, **`Onlooker.hearsAll`**: the same, following the narrator's words.
* **`Onlooker.Sound`**: what has to be checked; **`Onlooker.Keeps`**: what a part keeps.
* **`Sound.react`** has one case for each kind of input, and `Sound.run` is the induction.
-/

namespace MentalPoker

/-- Data that follow what a session does outside itself. -/
structure Onlooker (σ : Type) where
  changed : σ → HandState → σ
  applied : σ → Finalized → σ
  cue : σ → Cue → σ

namespace Onlooker

variable {σ : Type}

/-- What is made of an effect. All but three kinds are passed over. -/
def sees (o : Onlooker σ) (seen : σ) : SessionEffect → σ
  | .changed state => o.changed seen state
  | .applied f => o.applied seen f
  | .cue cue => o.cue seen cue
  | _ => seen

def seesAll (o : Onlooker σ) (seen : σ) (effects : List SessionEffect) : σ :=
  effects.foldl o.sees seen

theorem seesAll_append (o : Onlooker σ) (seen : σ) (xs ys : List SessionEffect) :
    o.seesAll seen (xs ++ ys) = o.seesAll (o.seesAll seen xs) ys :=
  List.foldl_append

/-- The data of an onlooker beside what the narrator works on. -/
structure View (σ : Type) where
  seen : σ
  context : HandContext
  picture : HandState

/-- What one of the narrator's words leads to. An action that does not fit is not seen. -/
def hears (o : Onlooker σ) (v : View σ) : Narrator.Effect → View σ
  | .remember c => { v with context := c }
  | .dispatch a =>
    match v.picture.step? a with
    | none => v
    | some picture => { v with seen := o.changed v.seen picture, picture := picture }
  | .cue cue => { v with seen := o.cue v.seen cue }

def hearsAll (o : Onlooker σ) (v : View σ) (effects : List Narrator.Effect) : View σ :=
  effects.foldl o.hears v

theorem hearsAll_append (o : Onlooker σ) (v : View σ) (xs ys : List Narrator.Effect) :
    o.hearsAll v (xs ++ ys) = o.hearsAll (o.hearsAll v xs) ys :=
  List.foldl_append

/-- The context and the picture are those that the narrator leaves. -/
theorem hearsAll_context_picture (o : Onlooker σ) (v : View σ) (effects : List Narrator.Effect) :
    (o.hearsAll v effects).context = Narrator.contextAfter v.context effects
      ∧ (o.hearsAll v effects).picture = v.picture.run (Narrator.actionsOf effects) := by
  induction effects generalizing v with
  | nil => exact ⟨rfl, rfl⟩
  | cons e effects ih =>
    obtain ⟨hcontext, hpicture⟩ := ih (o.hears v e)
    have hstep : (o.hears v e).context = Narrator.contextAfter v.context [e]
        ∧ (o.hears v e).picture = v.picture.run (Narrator.actionsOf [e]) := by
      cases e with
      | remember | cue => exact ⟨rfl, rfl⟩
      | dispatch a =>
        show _ ∧ _ = v.picture.step a
        rw [hears, HandState.step]
        cases v.picture.step? a <;> exact ⟨rfl, rfl⟩
    have hactions : Narrator.actionsOf (e :: effects)
        = Narrator.actionsOf [e] ++ Narrator.actionsOf effects :=
      List.filterMap_append (l := [e])
    rw [hactions, HandState.run_append, ← hstep.2, ← hpicture]
    refine ⟨?_, rfl⟩
    show (o.hearsAll (o.hears v e) effects).context
      = Narrator.contextAfter (Narrator.contextAfter v.context [e]) effects
    rw [← hstep.1, hcontext]

end Onlooker

namespace Session

variable {σ : Type}

/-- What an onlooker has before him. -/
def view (s : Session) (seen : σ) : Onlooker.View σ := ⟨seen, s.context, s.state⟩

theorem seesAll_assign (o : Onlooker σ) (seen : σ) (state : HandState) (s : Session) :
    o.seesAll seen (assign state s).2 = o.changed seen state := by
  have htold (seen : σ) (listeners : List Nat) :
      o.seesAll seen (listeners.map fun l => .told l state) = seen := by
    induction listeners with
    | nil => rfl
    | cons l listeners ih => exact ih
  exact htold _ _

theorem view_dispatch (o : Onlooker σ) (a : Action) (s : Session) (seen : σ) :
    view (dispatch a s).1 (o.seesAll seen (dispatch a s).2)
      = o.hears (s.view seen) (.dispatch a) := by
  simp only [dispatch, Onlooker.hears, view]
  cases s.state.step? a with
  | none => rfl
  | some state =>
    simp only [seesAll_assign]
    rfl

theorem view_follow (o : Onlooker σ) (e : Narrator.Effect) (s : Session) (seen : σ) :
    view (follow e s).1 (o.seesAll seen (follow e s).2) = o.hears (s.view seen) e := by
  cases e with
  | remember | cue => rfl
  | dispatch a => exact view_dispatch o a s seen

/-- **Following the narrator.** Induction along his words. -/
theorem view_followAll (o : Onlooker σ) (effects : List Narrator.Effect) (s : Session) (seen : σ) :
    view (followAll effects s).1 (o.seesAll seen (followAll effects s).2)
      = o.hearsAll (s.view seen) effects := by
  induction effects generalizing s seen with
  | nil => rfl
  | cons e effects ih =>
    show view (followAll effects (follow e s).1).1
        (o.seesAll seen ((follow e s).2 ++ (followAll effects (follow e s).1).2))
      = o.hearsAll (o.hears (s.view seen) e) effects
    rw [Onlooker.seesAll_append, ih, view_follow]

end Session

namespace Onlooker

variable {σ : Type} {o : Onlooker σ} {I : View σ → Prop}

/-- What has to be checked of a statement: it outlasts a line on errors, a key from outside the
feed, a fresh start, an event that is told, and an envelope that is applied. -/
structure Sound (o : Onlooker σ) (I : View σ → Prop) : Prop where
  error : ∀ v error, I v → I (o.hears v (.dispatch (.setError error)))
  key : ∀ v key, I v → I { v with context := { v.context with viewerKey := key } }
  restart : ∀ v, I v → I ⟨o.changed v.seen .fresh, .fresh, .fresh⟩
  told : ∀ deck v e, e.kind ≠ .gameEvent → I v →
    I (o.hearsAll v (Narrator.effects deck v.context e))
  applied : ∀ deck v f, I v →
    I (o.hearsAll { v with seen := o.applied v.seen f } (Narrator.envelope deck v.context f))

/-- A part of a reaction keeps the statement. -/
def Keeps (o : Onlooker σ) (I : View σ → Prop) (f : Session.Step) : Prop :=
  ∀ s seen, I (s.view seen) → I ((f s).1.view (o.seesAll seen (f s).2))

namespace Keeps

theorem skip : o.Keeps I Session.skip := fun _ _ h => h

theorem modify {f : Session → Session} (hstate : ∀ s, (f s).state = s.state)
    (hcontext : ∀ s, (f s).context = s.context) : o.Keeps I (Session.modify f) := by
  intro s seen h
  show I ⟨seen, (f s).context, (f s).state⟩
  rw [hstate, hcontext]
  exact h

theorem thenDo {f g : Session.Step} (hf : o.Keeps I f) (hg : o.Keeps I g) :
    o.Keeps I (Session.thenDo f g) := by
  intro s seen h
  rw [Session.thenDo_fst, Session.thenDo_snd, seesAll_append]
  exact hg _ _ (hf s seen h)

theorem inOrder {fs : List Session.Step} (h : ∀ f ∈ fs, o.Keeps I f) :
    o.Keeps I (Session.inOrder fs) := by
  induction fs with
  | nil => exact skip
  | cons f fs ih =>
    obtain ⟨hf, hfs⟩ := List.forall_mem_cons.mp h
    exact hf.thenDo (ih hfs)

theorem triple {f g h : Session.Step} (hf : o.Keeps I f) (hg : o.Keeps I g) (hh : o.Keeps I h) :
    o.Keeps I (Session.inOrder [f, g, h]) := by
  rw [Session.inOrder_three]
  exact hf.thenDo (hg.thenDo hh)

/-- An effect that nobody looks at. -/
theorem unseen {f : Session.Step} (hstate : ∀ s, (f s).1.state = s.state)
    (hcontext : ∀ s, (f s).1.context = s.context)
    (hunseen : ∀ s seen, o.seesAll seen (f s).2 = seen) : o.Keeps I f := by
  intro s seen h
  show I ⟨o.seesAll seen (f s).2, (f s).1.context, (f s).1.state⟩
  rw [hunseen, hstate, hcontext]
  exact h

end Keeps

namespace Sound

/-! ## Parts of reactions -/

theorem setError (h : o.Sound I) (error : Option Text) :
    o.Keeps I (Session.dispatch (.setError error)) := by
  intro s seen hs
  rw [Session.view_dispatch]
  exact h.error _ error hs

theorem clearStall (h : o.Sound I) : o.Keeps I Session.clearStall := by
  intro s seen hs
  simp only [Session.clearStall]
  split
  · exact h.setError none _ seen hs
  · exact hs

theorem countRound (h : o.Sound I) (attempts : Int) : o.Keeps I (Session.countRound attempts) := by
  intro s seen hs
  simp only [Session.countRound]
  split
  · exact h.clearStall s seen hs
  · split
    · exact h.setError _ _ seen hs
    · exact hs

theorem resetPipeline (h : o.Sound I) : o.Keeps I Session.resetPipeline := by
  intro s seen hs
  have hseen : o.seesAll seen (Session.resetPipeline s).2 = o.changed seen .fresh :=
    (congrArg (o.seesAll seen) (List.append_nil _)).trans (Session.seesAll_assign o seen .fresh s)
  rw [hseen]
  exact h.restart _ hs

theorem applyReady (h : o.Sound I) (deck : List Card) (ready : List (Int × Finalized)) :
    o.Keeps I (Session.applyReady deck ready) := by
  refine Keeps.inOrder fun f hf => ?_
  obtain ⟨⟨_, envelope⟩, _, rfl⟩ := List.mem_map.mp hf
  intro s seen hs
  show I (Session.view (Session.followAll (Narrator.envelope deck s.context envelope) s).1
    (o.seesAll seen ([.applied envelope]
      ++ (Session.followAll (Narrator.envelope deck s.context envelope) s).2)))
  rw [seesAll_append, Session.view_followAll]
  exact h.applied deck (s.view seen) envelope hs

/-- An event that is no envelope is told as it stands. -/
theorem narrated (h : o.Sound I) (deck : List Card) {e : FeedEvent} (he : e.kind ≠ .gameEvent) :
    o.Keeps I (Session.depending fun s =>
      Session.followAll (Narrator.effects deck s.context e)) := by
  intro s seen hs
  rw [Session.depending_apply, Session.view_followAll]
  exact h.told deck (s.view seen) e he hs

theorem envelope (h : o.Sound I) (deck : List Card) (f : Finalized) :
    o.Keeps I (Session.envelope deck f) := by
  intro s seen hs
  refine Keeps.triple ?_ (h.applyReady deck _) ?_ s seen hs
  · exact .modify (fun _ => rfl) fun _ => rfl
  · split
    · intro s seen hs
      unfold Session.requestRecovery
      split <;> exact hs
    · intro s seen hs
      simp only [Session.depending_apply]
      split
      · exact hs
      · exact h.clearStall s seen hs

theorem prepareHand (h : o.Sound I) : o.Keeps I Session.prepareHand := by
  refine .triple ?_ ?_ h.clearStall
  · exact .modify (fun _ => rfl) fun _ => rfl
  · exact .modify (fun _ => rfl) fun _ => rfl

/-! ## Inputs -/

theorem event (h : o.Sound I) (deck : List Card) (e : FeedEvent) :
    o.Keeps I (Session.event deck e) := by
  cases e with
  | gameEvent f => exact h.envelope deck f
  | handCreated hand => exact h.prepareHand.thenDo (h.narrated deck (e := .handCreated hand) nofun)
  | playerCreated gameId seat displayName key =>
    exact h.narrated deck (e := .playerCreated gameId seat displayName key) nofun
  | communityDecrypted gameId handId cards =>
    exact h.narrated deck (e := .communityDecrypted gameId handId cards) nofun
  | cardDecryptable gameId handId seat index =>
    exact h.narrated deck (e := .cardDecryptable gameId handId seat index) nofun
  | holeCardDecrypted gameId handId seat index card =>
    exact h.narrated deck (e := .holeCardDecrypted gameId handId seat index card) nofun
  | handCompleted gameId handId =>
    exact h.narrated deck (e := .handCompleted gameId handId) nofun

theorem kindOnly (h : o.Sound I) (kind : FeedEvent.Kind) : o.Keeps I (Session.kindOnly kind) := by
  cases kind with
  | handCreated => exact h.prepareHand
  | handCompleted => exact h.narrated [] (e := .handCompleted 0 0) nofun
  | _ => exact fun _ _ hs => hs

theorem beginHand (h : o.Sound I) (deck : List Card) (e : FeedEvent) (key : Option Text) :
    o.Keeps I (Session.beginHand deck e key) := by
  unfold Session.beginHand
  split
  · exact .thenDo (fun s seen hs => h.key (s.view seen) _ hs) (h.event deck e)
  · exact h.event deck e

theorem recovered (h : o.Sound I) (settings : SessionSettings)
    (result : Except Failure RecoveryResult) : o.Keeps I (Session.recovered settings result) := by
  intro s seen hs
  simp only [Session.recovered]
  split
  · exact hs
  · refine Keeps.triple ?_ ?_ (h.countRound _) s seen hs
    · exact .modify (fun _ => rfl) fun _ => rfl
    · cases result with
      | ok r => exact fun s seen hs => h.applyReady settings.deck _ _ seen hs
      | error failure => exact .skip

theorem opening (h : o.Sound I) : o.Keeps I Session.opening := by
  intro s seen hs
  refine Keeps.triple ?_ ?_ (h.setError none) s seen hs
  · split
    · exact h.resetPipeline
    · exact .skip
  · exact .modify (fun _ => rfl) fun _ => rfl

theorem reset (h : o.Sound I) : o.Keeps I Session.reset := by
  refine .triple ?_ ?_ h.resetPipeline
  · refine .unseen ?_ ?_ ?_
    all_goals
      intro s
      unfold Session.disconnect
      split <;> first | rfl | exact fun _ => rfl
  · exact .modify (fun _ => rfl) fun _ => rfl

/-- **Any input** keeps a sound statement. -/
theorem react (h : o.Sound I) (settings : SessionSettings) (input : SessionInput) :
    o.Keeps I (Session.react settings input) := by
  cases input with
  | start =>
    refine .unseen ?_ ?_ ?_
    all_goals
      intro s
      simp only [Session.react, Session.start]
      split <;> first | rfl | exact fun _ => rfl
  | opened => exact h.opening
  | failed message => exact .thenDo (.modify (fun _ => rfl) fun _ => rfl) (h.setError _)
  | completed => exact .modify (fun _ => rfl) fun _ => rfl
  | event e => exact h.event settings.deck e
  | kindOnly kind => exact h.kindOnly kind
  | beginHand e key => exact h.beginHand settings.deck e key
  | recovered result => exact h.recovered settings result
  | listen l => exact .modify (fun _ => rfl) fun _ => rfl
  | unlisten l => exact .modify (fun _ => rfl) fun _ => rfl
  | reset => exact h.reset
  | close =>
    have hclose : o.Keeps I
        (if settings.hasTransport then Session.emit .close else Session.skip) := by
      split
      · exact .unseen (fun _ => rfl) (fun _ => rfl) fun _ _ => rfl
      · exact .skip
    exact h.reset.thenDo hclose

/-- **A run** keeps a sound statement. -/
theorem run (h : o.Sound I) (settings : SessionSettings) (inputs : List SessionInput) :
    o.Keeps I (Session.run settings inputs) := by
  refine .inOrder fun f hf => ?_
  obtain ⟨input, _, rfl⟩ := List.mem_map.mp hf
  exact h.react settings input

end Sound

end Onlooker

end MentalPoker
