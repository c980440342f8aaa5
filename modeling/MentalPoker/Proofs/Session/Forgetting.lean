import MentalPoker.Proofs.Session.Rounds

/-!
# Resets and reopenings forget everything

What a session knows is spread over its picture, the context, the gap buffer, the round under way
and the counts of a stall. A reset sets all of it back in separate parts, and so does a feed that
opens anew. Nothing is left behind but who listens: the session is then, field for field, one that
was just built, or one that was just built, started and opened. So no later input can tell the two
apart, and neither can anybody outside.

## The architecture

* **`Line`**, **`KeepsLine`**: how a session is connected, and the parts that leave that alone.
* **`hasTransport_of_active`**: only a session with a transport is ever active. Induction along the
  inputs.
* **`reset_fst`**, **`opening_again`**: what the two leave, with every field named.
-/

namespace MentalPoker

/-- How a session is connected. -/
structure Line where
  status : ConnectionStatus
  active : Bool
  opened : Bool
  deriving DecidableEq

namespace Session

def line (s : Session) : Line := ⟨s.status, s.active, s.opened⟩

/-! ## Parts that leave the line alone -/

def KeepsLine (f : Step) : Prop := ∀ s, (f s).1.line = s.line

namespace KeepsLine

theorem modify {f : Session → Session} (h : ∀ s, (f s).line = s.line) : KeepsLine (modify f) := h

theorem thenDo {f g : Step} (hf : KeepsLine f) (hg : KeepsLine g) : KeepsLine (thenDo f g) :=
  fun s => (hg _).trans (hf s)

theorem triple {f g h : Step} (hf : KeepsLine f) (hg : KeepsLine g) (hh : KeepsLine h) :
    KeepsLine (inOrder [f, g, h]) := by
  rw [inOrder_three]
  exact hf.thenDo (hg.thenDo hh)

theorem dispatch (a : Action) : KeepsLine (dispatch a) := by
  intro s
  rw [dispatch_fst]
  rfl

theorem followAll (effects : List Narrator.Effect) : KeepsLine (followAll effects) := by
  intro s
  rw [followAll_fst]
  rfl

theorem applyReady (deck : List Card) (ready : List (Int × Finalized)) :
    KeepsLine (applyReady deck ready) := by
  intro s
  obtain ⟨state, context, h⟩ := applyReady_frame deck ready s
  rw [h]
  rfl

theorem requestRecovery (r : Recovery) : KeepsLine (requestRecovery r) := by
  intro s
  unfold Session.requestRecovery
  split <;> rfl

theorem clearStall : KeepsLine clearStall := by
  intro s
  simp only [Session.clearStall]
  split
  · exact dispatch _ _
  · rfl

theorem countRound (attempts : Int) : KeepsLine (countRound attempts) := by
  intro s
  simp only [Session.countRound]
  split
  · exact clearStall s
  · split
    · exact dispatch _ _
    · rfl

theorem prepareHand : KeepsLine prepareHand := by
  refine triple ?_ ?_ clearStall
  · exact modify fun _ => rfl
  · exact modify fun _ => rfl

theorem envelope (deck : List Card) (f : Finalized) : KeepsLine (envelope deck f) := by
  intro s
  refine triple ?_ (applyReady deck _) ?_ s
  · exact modify fun _ => rfl
  split
  · exact requestRecovery _
  · intro s
    rw [depending_apply]
    split
    · rfl
    · exact clearStall s

theorem event (deck : List Card) (e : FeedEvent) : KeepsLine (event deck e) := by
  cases e with
  | gameEvent f => exact envelope deck f
  | handCreated hand => exact prepareHand.thenDo fun s => followAll _ s
  | _ => exact fun s => followAll _ s

theorem kindOnly (kind : FeedEvent.Kind) : KeepsLine (kindOnly kind) := by
  cases kind with
  | handCreated => exact prepareHand
  | _ => exact fun s => followAll _ s

theorem beginHand (deck : List Card) (e : FeedEvent) (key : Option Text) :
    KeepsLine (beginHand deck e key) := by
  unfold Session.beginHand
  split
  · refine thenDo ?_ (event deck e)
    exact modify fun _ => rfl
  · exact event deck e

theorem recovered (settings : SessionSettings) (result : Except Failure RecoveryResult) :
    KeepsLine (recovered settings result) := by
  intro s
  unfold Session.recovered
  split
  · rfl
  · refine triple ?_ ?_ (countRound _) s
    · exact modify fun _ => rfl
    · cases result with
      | ok r => exact fun s => applyReady settings.deck _ _
      | error failure => exact fun _ => rfl

theorem active {f : Step} (hf : KeepsLine f) (s : Session) : (f s).1.active = s.active :=
  congrArg Line.active (hf s)

end KeepsLine

/-! ## What a reset leaves -/

theorem disconnect_fst (s : Session) : (disconnect s).1 = { s with active := false } := by
  unfold disconnect
  cases h : s.active with
  | true => rfl
  | false =>
    -- there was nothing to take off
    rw [if_neg Bool.false_ne_true, ← h]

/-- **A reset** leaves nothing but who listens. -/
theorem reset_fst (s : Session) :
    (reset s).1 = { fresh with listeners := s.listeners } := by
  rw [reset, inOrder_three, thenDo_fst, disconnect_fst]
  rfl

/-- **A feed that opens anew** leaves that it is open, and who listens. -/
theorem opening_again {s : Session} (h : s.opened = true) :
    (opening s).1 = { fresh with
      status := .connected
      active := s.active
      opened := true
      listeners := s.listeners } := by
  simp only [opening, h, if_true, inOrder_three, thenDo_fst, modify_apply, dispatch_fst]
  rfl

theorem opening_line (s : Session) : (opening s).1.line = ⟨.connected, s.active, true⟩ := by
  cases h : s.opened with
  | true => rw [opening_again h]; rfl
  | false =>
    simp only [opening, h, Bool.false_eq_true, if_false, inOrder_three, thenDo_fst, skip_apply,
      modify_apply]
    exact KeepsLine.dispatch _ _

/-! ## Who is ever active -/

/-- **One input** makes no session active that has no transport. -/
theorem react_active (settings : SessionSettings) (i : SessionInput) {s : Session}
    (hs : s.active = true → settings.hasTransport = true) :
    (react settings i s).1.active = true → settings.hasTransport = true := by
  have hkept {f : Step} (hf : KeepsLine f) :
      (f s).1.active = true → settings.hasTransport = true := by
    rw [hf.active]
    exact hs
  have hreset : (reset s).1.active = true → settings.hasTransport = true := by
    rw [reset_fst]
    exact fun h => absurd h Bool.false_ne_true
  cases i with
  | start =>
    intro h
    simp only [react, start] at h
    -- a session that connects has just found its transport
    split at h
    · exact hs h
    · next hidle => simpa using (not_or.mp (mt (Bool.or_eq_true _ _).mpr hidle)).2
  | opened =>
    have hactive : (opening s).1.active = s.active := congrArg Line.active (opening_line s)
    rw [react, hactive]
    exact hs
  | failed message =>
    rw [react, failed, thenDo_fst, (KeepsLine.dispatch _).active]
    exact hs
  | completed => exact fun h => absurd h Bool.false_ne_true
  | event e => exact hkept (.event settings.deck e)
  | kindOnly kind => exact hkept (.kindOnly kind)
  | beginHand e key => exact hkept (.beginHand settings.deck e key)
  | recovered result => exact hkept (.recovered settings result)
  | listen | unlisten => exact hs
  | reset => exact hreset
  | close =>
    rw [react, thenDo_fst]
    split
    · exact hreset
    · exact hreset

/-- **A run** makes no session active that has no transport. Induction along the inputs. -/
theorem runShuffled_active (settings : SessionSettings) (inputs : List ShuffledInput)
    {s : Session} (hs : s.active = true → settings.hasTransport = true) :
    (runShuffled settings inputs s).1.active = true → settings.hasTransport = true := by
  induction inputs generalizing s with
  | nil => exact hs
  | cons i rest ih => exact ih (react_active { settings with deck := i.deck } i.input hs)

/-! ## Sessions that were just built -/

/-- The inputs that add listeners. -/
def listening (listeners : List Nat) : List SessionInput := listeners.map .listen

theorem run_listening (settings : SessionSettings) (listeners : List Nat) (s : Session) :
    (run settings (listening listeners) s).1
      = { s with listeners := s.listeners ++ listeners } := by
  induction listeners generalizing s with
  | nil => rw [List.append_nil]; rfl
  | cons l rest ih =>
    have hrest := ih { s with listeners := s.listeners ++ [l] }
    rw [List.append_assoc] at hrest
    exact hrest

/-- The inputs that make a session that was just built one whose feed has just opened; `started`
says whether it is to be started before. -/
def justOpened (listeners : List Nat) (started : Bool) : List SessionInput :=
  listening listeners ++ (if started then [.start, .opened] else [.opened])

theorem run_justOpened (settings : SessionSettings) (listeners : List Nat) {started : Bool}
    (h : started = true → settings.hasTransport = true) :
    (run settings (justOpened listeners started) fresh).1 = { fresh with
      status := .connected
      active := started
      opened := true
      listeners := listeners } := by
  rw [justOpened, run_append, thenDo_fst, run_listening]
  cases started with
  | false => rfl
  | true =>
    have hstart : (start settings { fresh with listeners := listeners }).1
        = { fresh with status := .connecting, active := true, listeners := listeners } := by
      rw [start, h rfl]
      rfl
    show (opening (start settings { fresh with listeners := listeners }).1).1 = _
    rw [hstart]
    rfl

/-- **Resets and reopenings forget everything.** Whatever a session went through, after a reset
every run of it is, to the last field and effect, the run of a session that was just built and has
the same listeners; and when its feed opens anew, it is from then on a session that was just built,
started and opened. (It was started itself, if it is active. No transport opens the feed of a
session that is not, but should one do so, then the two agree without a start.) A round that was
under way is given up in both cases, and its result finds nothing to end. Every deal has a deck of
its own, before and later. -/
theorem resets_and_reopenings_forget (settings : SessionSettings)
    (before later : List ShuffledInput) :
    let s := (runShuffled settings before fresh).1
    runShuffled settings later (react settings .reset s).1
        = runShuffled settings later (run settings (listening s.listeners) fresh).1
      ∧ (s.opened = true →
        runShuffled settings later (react settings .opened s).1
          = runShuffled settings later
            (run settings (justOpened s.listeners s.active) fresh).1) := by
  intro s
  constructor
  · rw [run_listening, react, reset_fst]
    rfl
  · intro hopened
    have hactive : s.active = true → settings.hasTransport = true :=
      runShuffled_active settings before fun h => absurd h Bool.false_ne_true
    rw [run_justOpened settings s.listeners hactive, react, opening_again hopened]

/-- A hand in which a share arrived early, so that a round of recovery is under way, and a
connection that failed afterwards. -/
def interrupted : List ShuffledInput :=
  ShuffledInput.ofDeck Card.ordered
    [.listen 1, .start, .opened, .event (.handCreated .ofTwo),
      .event (.gameEvent (.ofTwo 1 (.shareAt 2))), .failed (text "gone")]

/-- The round ends after all, and the hand is announced again and dealt from another deck. -/
def resumed : List ShuffledInput :=
  ShuffledInput.ofDeck Card.ordered.reverse
    [.recovered (.ok ⟨[0], [.ofTwo 0 (.shareAt 0)], none⟩), .event (.handCreated .ofTwo),
      .event (.gameEvent (.ofTwo 0 (.shareAt 0)))]

theorem resets_and_reopenings_forget_interrupted :
    let s := (runShuffled .usual interrupted fresh).1
    (s.opened = true ∧ s.recovery ≠ none)
      ∧ runShuffled .usual resumed (react .usual .opened s).1
        = runShuffled .usual resumed
          (run .usual (justOpened s.listeners s.active) fresh).1 := by
  have hopened : (runShuffled .usual interrupted fresh).1.opened = true
      ∧ (runShuffled .usual interrupted fresh).1.recovery ≠ none := by decide +kernel
  exact ⟨hopened, (resets_and_reopenings_forget .usual interrupted resumed).2 hopened.1⟩

end Session

end MentalPoker
