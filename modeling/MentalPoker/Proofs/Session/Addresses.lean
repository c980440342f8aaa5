import MentalPoker.Proofs.Gap.Relabel
import MentalPoker.Proofs.Session.Parts

/-!
# Addresses are not looked at

Events and envelopes are addressed: they name a game and a hand. A session never compares an
address with that of the hand that it follows. It passes the address of an envelope on to the round
of recovery that the envelope starts, and that is all: with the addresses taken off, from what
comes in and from what waits, it reacts as before (`run_unaddressed`).

## The architecture

* **`unaddressed`**: envelopes, events, inputs, effects and sessions without their addresses. The
  announcement of a hand keeps its address, since it goes into the picture.
* **`Blind`**: a part of a reaction that does not look at addresses, with a lemma for each part.
* **`react_unaddressed`**: one input; `run_unaddressed` is the induction.
-/

namespace MentalPoker

/-! ## Without addresses -/

def Finalized.unaddressed (f : Finalized) : Finalized :=
  { f with envelope := { f.envelope with gameId := 0, handId := 0 } }

/-- The event without its address, unless it announces a hand. -/
def FeedEvent.unaddressed : FeedEvent → FeedEvent
  | playerCreated _ seat displayName publicKey => playerCreated 0 seat displayName publicKey
  | handCreated hand => handCreated hand
  | gameEvent f => gameEvent f.unaddressed
  | communityDecrypted _ _ cards => communityDecrypted 0 0 cards
  | cardDecryptable _ _ seat index => cardDecryptable 0 0 seat index
  | holeCardDecrypted _ _ seat index card => holeCardDecrypted 0 0 seat index card
  | handCompleted _ _ => handCompleted 0 0

def Recovery.unaddressed (r : Recovery) : Recovery := { r with gameId := 0, handId := 0 }

def RecoveryResult.unaddressed (r : RecoveryResult) : RecoveryResult :=
  { r with envelopes := r.envelopes.map Finalized.unaddressed }

def SessionInput.unaddressed : SessionInput → SessionInput
  | event e => event e.unaddressed
  | beginHand e key => beginHand e.unaddressed key
  | recovered result => recovered (result.map RecoveryResult.unaddressed)
  | i => i

def SessionEffect.unaddressed : SessionEffect → SessionEffect
  | applied f => applied f.unaddressed
  | recover r => recover r.unaddressed
  | e => e

/-- Envelopes that wait and the round under way without their addresses; all else is kept. -/
def Session.unaddressed (s : Session) : Session :=
  { s with
    buffer := s.buffer.map Finalized.unaddressed
    recovery := s.recovery.map Recovery.unaddressed }

/-- The narrator says the same of an event without its address. -/
theorem Narrator.effects_unaddressed (deck : List Card) (c : HandContext) (e : FeedEvent) :
    effects deck c e.unaddressed = effects deck c e := by
  cases e <;> rfl

namespace Session

/-! ## Parts -/

/-- A part of a reaction that does not look at addresses: `f` with them does what `g` does
without. -/
def Blind (f g : Step) : Prop :=
  ∀ s, g s.unaddressed = ((f s).1.unaddressed, (f s).2.map SessionEffect.unaddressed)

namespace Blind

theorem skip : Blind skip skip := fun _ => rfl

theorem emit (e : SessionEffect) : Blind (emit e) (emit e.unaddressed) := fun _ => rfl

theorem modify {f g : Session → Session} (h : ∀ s, g s.unaddressed = (f s).unaddressed) :
    Blind (modify f) (modify g) :=
  fun s => congrArg (·, []) (h s)

theorem thenDo {f f' g g' : Step} (hf : Blind f f') (hg : Blind g g') :
    Blind (thenDo f g) (thenDo f' g') := by
  intro s
  simp only [Session.thenDo, hf s, hg (f s).1, List.map_append]

theorem triple {f f' g g' h h' : Step} (hf : Blind f f') (hg : Blind g g') (hh : Blind h h') :
    Blind (inOrder [f, g, h]) (inOrder [f', g', h']) := by
  rw [inOrder_three, inOrder_three]
  exact hf.thenDo (hg.thenDo hh)

theorem inOrder_map {ι : Type} {f g : ι → Step} (items : List ι) (h : ∀ i, Blind (f i) (g i)) :
    Blind (inOrder (items.map f)) (inOrder (items.map g)) := by
  induction items with
  | nil => exact skip
  | cons i items ih => exact (h i).thenDo ih

theorem depending {f g : Session → Step} (h : ∀ s, Blind (f s) (g s.unaddressed)) :
    Blind (depending f) (depending g) :=
  fun s => h s s

theorem assign (state : HandState) : Blind (assign state) (assign state) := by
  intro s
  simp only [Session.assign, List.map_cons, List.map_map]
  rfl

theorem dispatch (a : Action) : Blind (dispatch a) (dispatch a) := by
  intro s
  have hstate : s.unaddressed.state = s.state := rfl
  rw [Session.dispatch, Session.dispatch, hstate]
  cases s.state.step? a with
  | none => rfl
  | some state => exact assign state s

theorem followAll (effects : List Narrator.Effect) :
    Blind (followAll effects) (followAll effects) := by
  refine inOrder_map effects fun e => ?_
  cases e with
  | remember c => exact modify fun _ => rfl
  | cue c => exact emit (.cue c)
  | dispatch a => exact dispatch a

theorem narrated (deck : List Card) (e : FeedEvent) :
    Blind (Session.depending fun s => Session.followAll (Narrator.effects deck s.context e))
      (Session.depending fun s =>
        Session.followAll (Narrator.effects deck s.context e.unaddressed)) := by
  refine depending fun s => ?_
  rw [Narrator.effects_unaddressed]
  exact followAll _

theorem cancelRecovery : Blind cancelRecovery cancelRecovery := modify fun _ => rfl

theorem clearStall : Blind clearStall clearStall := by
  intro s
  have hstalled : s.unaddressed.stalled = s.stalled := rfl
  simp only [Session.clearStall, hstalled]
  cases s.stalled with
  | false => rfl
  | true => exact dispatch (.setError none) { s with stallRounds := 0, stalled := false }

theorem resetPipeline : Blind resetPipeline resetPipeline :=
  triple cancelRecovery (modify fun _ => rfl) (assign .fresh)

/-! ## Envelopes -/

theorem applyReady (deck : List Card) (ready : List (Int × Finalized)) :
    Blind (applyReady deck ready)
      (applyReady deck (Table.mapValues Finalized.unaddressed ready)) := by
  rw [Session.applyReady, Session.applyReady, Table.mapValues, List.map_map]
  exact inOrder_map ready fun entry =>
    (emit (.applied entry.2)).thenDo (narrated deck (.gameEvent entry.2))

theorem requestRecovery (r : Recovery) :
    Blind (requestRecovery r) (requestRecovery r.unaddressed) := by
  intro s
  have hrecovery : s.unaddressed.recovery = s.recovery.map Recovery.unaddressed := rfl
  rw [Session.requestRecovery, Session.requestRecovery, hrecovery]
  cases s.recovery <;> rfl

theorem envelope (deck : List Card) (f : Finalized) :
    Blind (envelope deck f) (envelope deck f.unaddressed) := by
  intro s
  have harrive : s.unaddressed.buffer.arrive f.unaddressed.seqId f.unaddressed
      = (s.buffer.arrive f.seqId f).map Finalized.unaddressed :=
    GapBuffer.arrive_map Finalized.unaddressed s.buffer f.seqId f
  rw [Session.envelope, Session.envelope, harrive]
  refine triple ?_ (applyReady deck _) ?_ s
  · exact modify fun _ => rfl
  · -- whether a round is asked for depends on numbers alone; its address is that of the envelope
    have hgap : ((s.buffer.arrive f.seqId f).map Finalized.unaddressed).hasGap
        = (s.buffer.arrive f.seqId f).hasGap := rfl
    rw [hgap]
    split
    · exact requestRecovery _
    · refine depending fun s => ?_
      have hpending : s.unaddressed.buffer.hasPending = s.buffer.hasPending :=
        GapBuffer.hasPending_map Finalized.unaddressed s.buffer
      rw [hpending]
      split
      · exact skip
      · exact clearStall

theorem prepareHand : Blind prepareHand prepareHand :=
  triple cancelRecovery (modify fun _ => rfl) clearStall

theorem event (deck : List Card) (e : FeedEvent) :
    Blind (event deck e) (event deck e.unaddressed) := by
  cases e with
  | gameEvent f => exact envelope deck f
  | handCreated hand => exact prepareHand.thenDo (narrated deck (.handCreated hand))
  | _ => exact narrated deck _

theorem kindOnly (kind : FeedEvent.Kind) : Blind (kindOnly kind) (kindOnly kind) := by
  cases kind with
  | handCreated => exact prepareHand
  | _ => exact depending fun s => followAll _

theorem beginHand (deck : List Card) (e : FeedEvent) (key : Option Text) :
    Blind (beginHand deck e key) (beginHand deck e.unaddressed key) := by
  unfold Session.beginHand
  split
  · refine thenDo ?_ (event deck e)
    exact modify fun _ => rfl
  · exact event deck e

/-! ## Rounds of recovery -/

theorem countRound (attempts : Int) : Blind (countRound attempts) (countRound attempts) := by
  intro s
  have hmissing : s.unaddressed.buffer.missing = s.buffer.missing :=
    GapBuffer.missing_map Finalized.unaddressed s.buffer
  have hstalls : s.unaddressed.stallRounds = s.stallRounds
      ∧ s.unaddressed.stalled = s.stalled := ⟨rfl, rfl⟩
  simp only [Session.countRound, hmissing, hstalls]
  cases s.buffer.missing with
  | nil => exact clearStall s
  | cons m ms =>
    simp only
    split
    · exact dispatch _ { s with stallRounds := s.stallRounds + 1, stalled := true }
    · rfl

theorem mergeFetched (deck : List Card) (envelopes : List Finalized) :
    Blind (mergeFetched deck envelopes)
      (mergeFetched deck (envelopes.map Finalized.unaddressed)) := by
  intro s
  -- merging looks at the numbers of the envelopes, which they keep
  have hfetched := GapBuffer.fetched_map Finalized.unaddressed s.buffer
    (envelopes.map fun f => ((f.seqId : Int), f))
  have hbuffer : s.unaddressed.buffer.fetched
      ((envelopes.map Finalized.unaddressed).map fun f => ((f.seqId : Int), f))
        = ((s.buffer.fetched (envelopes.map fun f => ((f.seqId : Int), f))).1.map
            Finalized.unaddressed,
          Table.mapValues Finalized.unaddressed
            (s.buffer.fetched (envelopes.map fun f => ((f.seqId : Int), f))).2) := by
    rw [← hfetched, Table.mapValues, List.map_map, List.map_map]
    rfl
  rw [Session.mergeFetched, Session.mergeFetched, hbuffer]
  exact applyReady deck _ { s with buffer := _ }

theorem recovered (settings : SessionSettings) (result : Except Failure RecoveryResult) :
    Blind (recovered settings result)
      (recovered settings (result.map RecoveryResult.unaddressed)) := by
  intro s
  have hrecovery : s.unaddressed.recovery = s.recovery.map Recovery.unaddressed := rfl
  unfold Session.recovered
  rw [hrecovery]
  cases s.recovery with
  | none => rfl
  | some round =>
    refine triple cancelRecovery ?_ (countRound settings.stallAttempts) s
    cases result with
    | ok r => exact mergeFetched settings.deck r.envelopes
    | error failure => exact skip

/-! ## Connection -/

theorem start (settings : SessionSettings) : Blind (start settings) (start settings) := by
  intro s
  have hactive : s.unaddressed.active = s.active := rfl
  rw [Session.start, Session.start, hactive]
  split <;> rfl

theorem opening : Blind opening opening := by
  intro s
  have hopened : s.unaddressed.opened = s.opened := rfl
  rw [Session.opening, Session.opening, hopened]
  refine triple ?_ ?_ (dispatch _) s
  · split
    · exact resetPipeline
    · exact skip
  · exact modify fun _ => rfl

theorem failed (message : Text) : Blind (failed message) (failed message) := by
  refine thenDo ?_ (dispatch _)
  exact modify fun _ => rfl

theorem disconnect : Blind disconnect disconnect := by
  intro s
  have hactive : s.unaddressed.active = s.active := rfl
  rw [Session.disconnect, Session.disconnect, hactive]
  split <;> rfl

theorem reset : Blind reset reset := by
  refine triple disconnect ?_ resetPipeline
  exact modify fun _ => rfl

end Blind

/-! ## Inputs and runs -/

/-- **One input** without its address does the same without addresses. -/
theorem react_unaddressed (settings : SessionSettings) (i : SessionInput) :
    Blind (react settings i) (react settings i.unaddressed) := by
  cases i with
  | start => exact .start settings
  | opened => exact .opening
  | failed message => exact .failed message
  | completed | listen | unlisten => exact .modify fun _ => rfl
  | event e => exact .event settings.deck e
  | kindOnly kind => exact .kindOnly kind
  | beginHand e key => exact .beginHand settings.deck e key
  | recovered result => exact .recovered settings result
  | reset => exact .reset
  | close =>
    have hclose : Blind (if settings.hasTransport then emit .close else skip)
        (if settings.hasTransport then emit .close else skip) := by
      split
      · exact .emit .close
      · exact .skip
    exact Blind.reset.thenDo hclose

/-- **A run** does the same without addresses. Induction along the inputs. -/
theorem run_unaddressed (settings : SessionSettings) (inputs : List SessionInput) :
    Blind (run settings inputs) (run settings (inputs.map SessionInput.unaddressed)) := by
  induction inputs with
  | nil => exact .skip
  | cons i rest ih => exact (react_unaddressed settings i).thenDo ih

end Session

end MentalPoker
