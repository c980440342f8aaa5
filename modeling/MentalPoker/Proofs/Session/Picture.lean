import MentalPoker.Proofs.Session.Parts

/-!
# Pictures that a session can have

A session does nothing to its picture but actions and fresh starts. So what a fresh picture has and
every action keeps is kept by every reaction, and so along every run: `KeepsPicture.react`. There is
one case for each part of a reaction, and one for each kind of input.
-/

namespace MentalPoker

namespace Session

/-- A part that keeps a property of the picture. -/
def KeepsPicture (P : HandState → Prop) (f : Step) : Prop := ∀ s, P s.state → P (f s).1.state

namespace KeepsPicture

variable {P : HandState → Prop}

theorem skip : KeepsPicture P skip := fun _ h => h

theorem emit (e : SessionEffect) : KeepsPicture P (emit e) := fun _ h => h

theorem modify {f : Session → Session} (hf : ∀ s, (f s).state = s.state) :
    KeepsPicture P (modify f) := by
  intro s h
  rw [modify_apply, hf]
  exact h

theorem thenDo {f g : Step} (hf : KeepsPicture P f) (hg : KeepsPicture P g) :
    KeepsPicture P (thenDo f g) := fun s h => hg _ (hf s h)

theorem inOrder {fs : List Step} (h : ∀ f ∈ fs, KeepsPicture P f) :
    KeepsPicture P (inOrder fs) := by
  induction fs with
  | nil => exact skip
  | cons f fs ih =>
    obtain ⟨hf, hfs⟩ := List.forall_mem_cons.mp h
    exact hf.thenDo (ih hfs)

theorem triple {f g h : Step} (hf : KeepsPicture P f) (hg : KeepsPicture P g)
    (hh : KeepsPicture P h) : KeepsPicture P (Session.inOrder [f, g, h]) := by
  rw [inOrder_three]
  exact hf.thenDo (hg.thenDo hh)

theorem dispatch (hstep : ∀ s a, P s → P (s.step a)) (a : Action) :
    KeepsPicture P (dispatch a) := by
  intro s h
  rw [dispatch_fst]
  exact hstep _ a h

theorem followAll (hstep : ∀ s a, P s → P (s.step a)) (effects : List Narrator.Effect) :
    KeepsPicture P (followAll effects) := by
  intro s h
  rw [followAll_fst]
  exact HandState.run_keeps hstep h _

theorem applyReady (hstep : ∀ s a, P s → P (s.step a)) (deck : List Card)
    (ready : List (Int × Finalized)) : KeepsPicture P (applyReady deck ready) := by
  refine inOrder fun f hf => ?_
  obtain ⟨entry, _, rfl⟩ := List.mem_map.mp hf
  exact (emit _).thenDo fun s h => followAll hstep _ s h

theorem resetPipeline (hfresh : P .fresh) : KeepsPicture P resetPipeline :=
  fun _ _ => hfresh

theorem clearStall (hstep : ∀ s a, P s → P (s.step a)) : KeepsPicture P clearStall := by
  intro s h
  simp only [Session.clearStall]
  split
  · exact dispatch hstep _ _ h
  · exact h

theorem countRound (hstep : ∀ s a, P s → P (s.step a)) (attempts : Int) :
    KeepsPicture P (countRound attempts) := by
  intro s h
  simp only [Session.countRound]
  split
  · exact clearStall hstep s h
  · split
    · exact dispatch hstep _ _ h
    · exact h

/-! ## Events -/

theorem envelope (hstep : ∀ s a, P s → P (s.step a)) (deck : List Card) (f : Finalized) :
    KeepsPicture P (envelope deck f) := by
  intro s h
  refine triple ?_ (applyReady hstep deck _) ?_ s h
  · exact modify fun _ => rfl
  · split
    · intro s h
      unfold requestRecovery
      split <;> exact h
    · intro s h
      simp only [depending_apply]
      split
      · exact h
      · exact clearStall hstep s h

theorem prepareHand (hstep : ∀ s a, P s → P (s.step a)) : KeepsPicture P prepareHand := by
  refine triple ?_ ?_ (clearStall hstep)
  · exact modify fun _ => rfl
  · exact modify fun _ => rfl

theorem narrated (hstep : ∀ s a, P s → P (s.step a))
    (effects : Session → List Narrator.Effect) :
    KeepsPicture P (depending fun s => Session.followAll (effects s)) :=
  fun s h => followAll hstep (effects s) s h

theorem event (hstep : ∀ s a, P s → P (s.step a)) (deck : List Card) (e : FeedEvent) :
    KeepsPicture P (event deck e) := by
  cases e with
  | gameEvent f => exact envelope hstep deck f
  | handCreated hand => exact (prepareHand hstep).thenDo (narrated hstep _)
  | _ => exact narrated hstep _

theorem kindOnly (hstep : ∀ s a, P s → P (s.step a)) (kind : FeedEvent.Kind) :
    KeepsPicture P (kindOnly kind) := by
  cases kind with
  | handCreated => exact prepareHand hstep
  | _ => exact narrated hstep _

theorem beginHand (hstep : ∀ s a, P s → P (s.step a)) (deck : List Card) (e : FeedEvent)
    (key : Option Text) : KeepsPicture P (beginHand deck e key) := by
  unfold Session.beginHand
  split
  · refine thenDo ?_ (event hstep deck e)
    exact modify fun _ => rfl
  · exact event hstep deck e

/-! ## Recovery and connection -/

theorem recovered (hstep : ∀ s a, P s → P (s.step a)) (settings : SessionSettings)
    (result : Except Failure RecoveryResult) : KeepsPicture P (recovered settings result) := by
  intro s h
  simp only [Session.recovered]
  split
  · exact h
  · refine triple ?_ ?_ (countRound hstep _) s h
    · exact modify fun _ => rfl
    · cases result with
      | ok r => exact fun s h => applyReady hstep _ _ _ h
      | error failure => exact skip

theorem opening (hfresh : P .fresh) (hstep : ∀ s a, P s → P (s.step a)) :
    KeepsPicture P opening := by
  intro s h
  refine triple ?_ ?_ (dispatch hstep _) s h
  · split
    · exact resetPipeline hfresh
    · exact skip
  · exact modify fun _ => rfl

theorem reset (hfresh : P .fresh) : KeepsPicture P reset := fun _ _ => hfresh

/-- **Every reaction** does no more to the picture than actions and a fresh start do. -/
theorem react (hfresh : P .fresh) (hstep : ∀ s a, P s → P (s.step a))
    (settings : SessionSettings) (input : SessionInput) :
    KeepsPicture P (react settings input) := by
  cases input with
  | start =>
    intro s h
    simp only [Session.react, Session.start]
    split <;> exact h
  | opened => exact opening hfresh hstep
  | failed message =>
    refine thenDo ?_ (dispatch hstep _)
    exact modify fun _ => rfl
  | completed => exact modify fun _ => rfl
  | event e => exact event hstep _ e
  | kindOnly kind => exact kindOnly hstep kind
  | beginHand e key => exact beginHand hstep _ e key
  | recovered result => exact recovered hstep settings result
  | listen l => exact modify fun _ => rfl
  | unlisten l => exact modify fun _ => rfl
  | reset => exact reset hfresh
  | close =>
    have hclose : KeepsPicture P
        (if settings.hasTransport then Session.emit .close else Session.skip) := by
      split
      · exact emit _
      · exact skip
    exact (reset hfresh).thenDo hclose

end KeepsPicture

end Session

end MentalPoker
