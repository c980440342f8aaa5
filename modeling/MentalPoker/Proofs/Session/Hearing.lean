import MentalPoker.Proofs.Gap.History
import MentalPoker.Proofs.Hand.Telling
import MentalPoker.Proofs.Session.Numbering

/-!
# What the narrator hears of a hand

While a hand goes on, a session does two things with its feed. Envelopes, live or fetched, are
delivered to the gap buffer; and the narrator hears of notices at once and of envelopes when they
are released. All the rest (rounds of recovery, stalls, the life of the connection) moves neither
the buffer nor the tale of the narrator. So over a whole run the buffer is that of the deliveries,
and the tale is that of the events that were heard, in the order in which they were heard.

## The architecture

* **`SessionInput.continues`**, **`goesOn`**: inputs of a hand that goes on.
* **`deliveries`**, **`received`**: what comes to the gap buffer.
* **`heard`**: the events that the narrator hears of.
* **`Aside`**: the parts of a reaction that leave the tale alone.
* **`react_follows`**: one input; **`run_follows`** is the induction.
* **`begun`**: a session in which a hand was just announced.
-/

namespace MentalPoker

/-! ## A hand that goes on -/

/-- The hand goes on with the input: no hand is announced, the feed does not open anew, and the
session is not reset. What the feed brings is readable. -/
def SessionInput.continues (s : Session) : SessionInput → Bool
  | event e => e.kind ≠ .handCreated
  | opened => !s.opened
  | recovered _ | start | failed _ | completed | listen _ | unlisten _ => true
  | kindOnly _ | beginHand .. | reset | close => false

/-- The notices among an input: events that go past the gap buffer. -/
def SessionInput.notices : SessionInput → List FeedEvent
  | event (.gameEvent _) => []
  | event e => [e]
  | _ => []

/-- An envelope with its number, as the gap buffer takes it. -/
def Finalized.numbered (f : Finalized) : Int × Finalized := (f.seqId, f)

/-- What an input delivers to the gap buffer. What comes of a round that is not under way is not
taken. -/
def SessionInput.deliveries (s : Session) : SessionInput → List (GapBuffer.Delivery Finalized)
  | event (.gameEvent f) | beginHand (.gameEvent f) _ => [.live f.seqId f]
  | recovered (.ok r) =>
    if s.recovery.isSome then [.batch (r.envelopes.map Finalized.numbered)] else []
  | _ => []

namespace Session

open SessionEffect (appliedIn)

/-- A hand goes on through some inputs. -/
def goesOn (settings : SessionSettings) (s : Session) : List SessionInput → Bool
  | [] => true
  | i :: rest => i.continues s && goesOn settings (react settings i s).1 rest

/-- What some inputs deliver to the gap buffer. -/
def deliveries (settings : SessionSettings) (s : Session) :
    List SessionInput → List (GapBuffer.Delivery Finalized)
  | [] => []
  | i :: rest => i.deliveries s ++ deliveries settings (react settings i s).1 rest

/-- The envelopes that some inputs bring, live or from rounds of recovery. -/
def received (settings : SessionSettings) (s : Session) (inputs : List SessionInput) :
    List Finalized :=
  (GapBuffer.history (deliveries settings s inputs)).map Prod.snd

/-- The events that the narrator hears of: notices when they come, envelopes when they are
released. -/
def heard (settings : SessionSettings) (s : Session) : List SessionInput → List FeedEvent
  | [] => []
  | i :: rest =>
    i.notices ++ (appliedIn (react settings i s).2).map .gameEvent
      ++ heard settings (react settings i s).1 rest

/-- Where the narrator of a session stands. -/
def tale (s : Session) : Tale := ⟨s.context, s.state.withoutError⟩

theorem tale_congr {s t : Session} (hcontext : s.context = t.context) (hstate : s.state = t.state) :
    s.tale = t.tale := by
  rw [tale, tale, hcontext, hstate]

/-! ## What comes -/

/-- Envelopes come to the gap buffer under their own numbers. -/
theorem numbered_of_mem_deliveries {s : Session} {i : SessionInput}
    {d : GapBuffer.Delivery Finalized} (hd : d ∈ i.deliveries s) {item : Int × Finalized}
    (h : item ∈ d.items) : item.2.numbered = item := by
  have hlive {f : Finalized} (hd : d ∈ [.live f.seqId f]) : item.2.numbered = item := by
    rw [List.mem_singleton.mp hd] at h
    rw [List.mem_singleton.mp h, Finalized.numbered]
  unfold SessionInput.deliveries at hd
  split at hd
  · exact hlive hd
  · exact hlive hd
  · split at hd
    · rw [List.mem_singleton.mp hd] at h
      obtain ⟨f, _, rfl⟩ := List.mem_map.mp h
      rfl
    · cases hd
  · cases hd

theorem numbered_of_mem_history {settings : SessionSettings} {s : Session}
    {inputs : List SessionInput} {item : Int × Finalized}
    (h : item ∈ GapBuffer.history (deliveries settings s inputs)) : item.2.numbered = item := by
  induction inputs generalizing s with
  | nil => cases h
  | cons i rest ih =>
    rw [deliveries, GapBuffer.history_append, List.mem_append] at h
    rcases h with hone | hlater
    · obtain ⟨d, hd, hitem⟩ := List.mem_flatMap.mp hone
      exact numbered_of_mem_deliveries hd hitem
    · exact ih hlater

/-- The history of the gap buffer, told by the envelopes that were received. -/
theorem mem_history_deliveries {settings : SessionSettings} {s : Session}
    {inputs : List SessionInput} {item : Int × Finalized} :
    item ∈ GapBuffer.history (deliveries settings s inputs)
      ↔ ∃ f ∈ received settings s inputs, f.numbered = item := by
  constructor
  · intro h
    exact ⟨item.2, List.mem_map_of_mem h, numbered_of_mem_history h⟩
  · rintro ⟨f, hf, rfl⟩
    obtain ⟨item, hitem, rfl⟩ := List.mem_map.mp hf
    rwa [numbered_of_mem_history hitem]

/-! ## Parts that leave the tale alone -/

/-- A part that leaves the tale of the narrator alone. -/
def Aside (f : Step) : Prop := ∀ s, (f s).1.tale = s.tale

namespace Aside

theorem skip : Aside skip := fun _ => rfl

theorem modify {f : Session → Session} (hcontext : ∀ s, (f s).context = s.context)
    (hstate : ∀ s, (f s).state = s.state) : Aside (modify f) :=
  fun s => tale_congr (hcontext s) (hstate s)

theorem thenDo {f g : Step} (hf : Aside f) (hg : Aside g) : Aside (thenDo f g) :=
  fun s => (hg _).trans (hf s)

theorem setError (error : Option Text) : Aside (dispatch (.setError error)) := fun s => by
  rw [dispatch_fst]
  rfl

theorem clearStall : Aside clearStall := by
  intro s
  simp only [Session.clearStall]
  split
  · exact setError none _
  · rfl

theorem countRound (attempts : Int) : Aside (countRound attempts) := by
  intro s
  simp only [Session.countRound]
  split
  · exact clearStall s
  · split
    · exact setError _ _
    · rfl

theorem requestRecovery (r : Recovery) : Aside (requestRecovery r) := by
  intro s
  unfold Session.requestRecovery
  split <;> rfl

theorem prepareHand : Aside prepareHand := by
  rw [Session.prepareHand, inOrder_three]
  exact fun s => clearStall _

theorem start (settings : SessionSettings) : Aside (start settings) := by
  intro s
  unfold Session.start
  split <;> rfl

end Aside

/-! ## What is told -/

/-- All that the narrator says of an event moves the tale by that event. -/
theorem tale_followAll (deck : List Card) (e : FeedEvent) (s : Session) :
    (followAll (Narrator.effects deck s.context e) s).1.tale = s.tale.tell deck e := by
  rw [followAll_fst]
  simp only [tale, Tale.tell, HandState.run_withoutError]

/-- Released envelopes are told one after another. -/
theorem tale_applyReady (deck : List Card) (ready : List (Int × Finalized)) (s : Session) :
    (applyReady deck ready s).1.tale
      = s.tale.tellAll deck (ready.map fun entry => .gameEvent entry.2) := by
  induction ready generalizing s with
  | nil => rfl
  | cons entry ready ih =>
    have hone : (applyOne deck entry.2 s).1.tale = s.tale.tell deck (.gameEvent entry.2) :=
      tale_followAll deck (.gameEvent entry.2) s
    rw [applyReady_cons, thenDo_fst, ih, hone, List.map_cons, Tale.tellAll_cons]

/-! ## One input -/

/-- How the buffer, the envelopes that are applied and the tale follow from what an input
delivers. -/
structure Follows (deck : List Card) (s : Session)
    (deliveries : List (GapBuffer.Delivery Finalized)) (notices : List FeedEvent)
    (r : Session × List SessionEffect) : Prop where
  buffer : r.1.buffer = (s.buffer.deliverAll deliveries).1
  applied : appliedIn r.2 = (s.buffer.deliverAll deliveries).2.map Prod.snd
  tale : r.1.tale = s.tale.tellAll deck (notices ++ (appliedIn r.2).map .gameEvent)

/-- What delivers nothing and has nothing told. -/
theorem Follows.of_quiet {f : Step} (hquiet : Quiet f) (haside : Aside f) (deck : List Card)
    (s : Session) : Follows deck s [] [] (f s) where
  buffer := (hquiet s).buffer
  applied := (hquiet s).applied
  tale := by
    rw [(hquiet s).applied, haside s]
    rfl

/-- Envelopes are released, and what comes afterwards says nothing. -/
theorem Follows.of_release {s : Session} {d : GapBuffer.Delivery Finalized}
    {b : GapBuffer Finalized} {ready : List (Int × Finalized)}
    (hb : s.buffer.deliver d = (b, ready)) {f : Step} (hquiet : Quiet f) (haside : Aside f)
    (deck : List Card) :
    Follows deck s [d] [] (thenDo (applyReady deck ready) f { s with buffer := b }) := by
  obtain ⟨state, context, hframe⟩ := applyReady_frame deck ready { s with buffer := b }
  have happlied : appliedIn (thenDo (applyReady deck ready) f { s with buffer := b }).2
      = ready.map Prod.snd := by
    rw [thenDo_snd, SessionEffect.appliedIn_append, appliedIn_applyReady, (hquiet _).applied,
      List.append_nil]
  refine ⟨?_, ?_, ?_⟩
  · rw [GapBuffer.deliverAll_singleton, hb, thenDo_fst, (hquiet _).buffer, hframe]
  · rw [GapBuffer.deliverAll_singleton, hb, happlied]
  · rw [happlied, thenDo_fst, haside, tale_applyReady, List.nil_append, List.map_map]
    rfl

/-- What follows the release of an arrival: a round of recovery when numbers are missing in front
of it, and else the end of a stall when nothing waits. -/
def afterArrival (f : Finalized) (arrival : GapBuffer.Arrival Finalized) : Step :=
  if arrival.hasGap then
    requestRecovery ⟨f.envelope.gameId, f.envelope.handId, arrival.missing⟩
  else depending fun s => if s.buffer.hasPending then skip else clearStall

/-- A live envelope: what it releases is applied, and then the gap is seen to. -/
theorem envelope_apply (deck : List Card) (f : Finalized) (s : Session) :
    envelope deck f s =
      thenDo (applyReady deck (s.buffer.arrive f.seqId f).ready)
        (afterArrival f (s.buffer.arrive f.seqId f))
        { s with buffer := (s.buffer.arrive f.seqId f).buffer } := by
  rw [envelope, inOrder_three]
  rfl

/-- The end of a round: what it brought goes through the gap buffer, and then it is counted. -/
theorem recovered_ok_apply (settings : SessionSettings) (r : RecoveryResult) {s : Session}
    (h : s.recovery.isSome = true) :
    recovered settings (.ok r) s =
      thenDo (applyReady settings.deck (s.buffer.fetched (r.envelopes.map Finalized.numbered)).2)
        (countRound settings.stallAttempts)
        { s with
          recovery := none
          buffer := (s.buffer.fetched (r.envelopes.map Finalized.numbered)).1 } := by
  obtain ⟨round, hround⟩ := Option.isSome_iff_exists.mp h
  simp only [recovered, hround, inOrder_three]
  rfl

theorem Quiet.afterArrival (f : Finalized) (arrival : GapBuffer.Arrival Finalized) :
    Quiet (afterArrival f arrival) := by
  unfold Session.afterArrival
  split
  · exact .requestRecovery _
  · intro s
    rw [depending_apply]
    split
    · exact Quiet.skip s
    · exact Quiet.clearStall s

theorem Aside.afterArrival (f : Finalized) (arrival : GapBuffer.Arrival Finalized) :
    Aside (afterArrival f arrival) := by
  unfold Session.afterArrival
  split
  · exact .requestRecovery _
  · intro s
    rw [depending_apply]
    split
    · rfl
    · exact Aside.clearStall s

theorem follows_envelope (deck : List Card) (f : Finalized) (s : Session) :
    Follows deck s [.live f.seqId f] [] (envelope deck f s) := by
  rw [envelope_apply]
  exact .of_release rfl (.afterArrival f _) (.afterArrival f _) deck

theorem follows_recovered (settings : SessionSettings)
    (result : Except Failure RecoveryResult) (s : Session) :
    Follows settings.deck s (SessionInput.deliveries s (.recovered result)) []
      (recovered settings result s) := by
  cases hround : s.recovery with
  | none =>
    -- nothing is under way, so nothing is delivered
    have hnothing : SessionInput.deliveries s (.recovered result) = [] := by
      cases result <;> simp [SessionInput.deliveries, hround]
    have hskip : recovered settings result s = skip s := by
      simp only [recovered, hround, skip_apply]
    rw [hnothing, hskip]
    exact .of_quiet .skip .skip settings.deck s
  | some round =>
    cases result with
    | ok r =>
      have hsome : s.recovery.isSome = true := by rw [hround, Option.isSome_some]
      rw [recovered_ok_apply settings r hsome, SessionInput.deliveries, if_pos hsome]
      -- the round that ends is neither in the buffer nor in the tale
      have hrelease := Follows.of_release (s := { s with recovery := none })
        (d := .batch (r.envelopes.map Finalized.numbered)) rfl
        (.countRound settings.stallAttempts) (.countRound settings.stallAttempts) settings.deck
      exact ⟨hrelease.buffer, hrelease.applied, hrelease.tale⟩
    | error failure =>
      have hquiet := Quiet.cancelRecovery.thenDo
        (Quiet.skip.thenDo (.countRound settings.stallAttempts))
      have hcancel : Aside cancelRecovery := .modify (fun _ => rfl) fun _ => rfl
      have haside := hcancel.thenDo (Aside.skip.thenDo (.countRound settings.stallAttempts))
      have hparts : recovered settings (.error failure) s =
          thenDo cancelRecovery (thenDo skip (countRound settings.stallAttempts)) s := by
        simp only [recovered, hround, inOrder_three]
      rw [hparts]
      exact .of_quiet hquiet haside settings.deck s

/-- A notice is told at once. -/
theorem follows_notice (deck : List Card) (e : FeedEvent) (s : Session) :
    Follows deck s [] [e] (followAll (Narrator.effects deck s.context e) s) := by
  refine ⟨?_, appliedIn_followAll _ s, ?_⟩
  · rw [followAll_fst]
    rfl
  · rw [appliedIn_followAll]
    exact tale_followAll deck e s

/-- **One input** of a hand that goes on. -/
theorem react_follows (settings : SessionSettings) {s : Session} {i : SessionInput}
    (h : i.continues s = true) :
    Follows settings.deck s (i.deliveries s) i.notices (react settings i s) := by
  cases i with
  | event e =>
    cases e with
    | handCreated hand => cases h
    | gameEvent f => exact follows_envelope settings.deck f s
    | _ => exact follows_notice settings.deck _ s
  | recovered result => exact follows_recovered settings result s
  | start => exact .of_quiet (.start settings) (.start settings) settings.deck s
  | opened =>
    have hopened : s.opened = false := by simpa [SessionInput.continues] using h
    have hmodify : Quiet (modify fun s => { s with opened := true, status := .connected }) :=
      fun _ => ⟨rfl, rfl, rfl⟩
    have hmodify' : Aside (modify fun s => { s with opened := true, status := .connected }) :=
      fun _ => rfl
    have hparts : react settings .opened s = thenDo skip
        (thenDo (modify fun s => { s with opened := true, status := .connected })
          (dispatch (.setError none))) s := by
      simp only [react, opening, hopened, Bool.false_eq_true, if_false, inOrder_three]
    rw [hparts]
    exact .of_quiet (Quiet.skip.thenDo (hmodify.thenDo (.dispatch rfl)))
      (Aside.skip.thenDo (hmodify'.thenDo (.setError none))) settings.deck s
  | failed message =>
    have hmodify : Quiet (modify fun s => { s with status := .error }) := fun _ => ⟨rfl, rfl, rfl⟩
    have hmodify' : Aside (modify fun s => { s with status := .error }) := fun _ => rfl
    exact .of_quiet (hmodify.thenDo (.dispatch rfl)) (hmodify'.thenDo (.setError _)) settings.deck s
  | completed =>
    exact .of_quiet (f := completed) (fun _ => ⟨rfl, rfl, rfl⟩) (fun _ => rfl) settings.deck s
  | listen l =>
    exact .of_quiet (f := react settings (.listen l)) (fun _ => ⟨rfl, rfl, rfl⟩) (fun _ => rfl)
      settings.deck s
  | unlisten l =>
    exact .of_quiet (f := react settings (.unlisten l)) (fun _ => ⟨rfl, rfl, rfl⟩) (fun _ => rfl)
      settings.deck s
  | kindOnly | beginHand | reset | close => cases h

/-! ## Runs -/

/-- **A run** of a hand that goes on: the buffer is that of the deliveries, what it releases is
applied, and the tale is told by what was heard. Induction along the inputs. -/
theorem run_follows (settings : SessionSettings) {inputs : List SessionInput} {s : Session}
    (h : goesOn settings s inputs = true) :
    (run settings inputs s).1.buffer
        = (s.buffer.deliverAll (deliveries settings s inputs)).1
      ∧ appliedIn (run settings inputs s).2
        = (s.buffer.deliverAll (deliveries settings s inputs)).2.map Prod.snd
      ∧ (run settings inputs s).1.tale
        = s.tale.tellAll settings.deck (heard settings s inputs) := by
  induction inputs generalizing s with
  | nil => exact ⟨rfl, rfl, rfl⟩
  | cons i rest ih =>
    rw [goesOn, Bool.and_eq_true] at h
    obtain ⟨hi, hrest⟩ := h
    have hone := react_follows settings hi
    obtain ⟨hbuffer, happlied, htale⟩ := ih hrest
    rw [run_cons, deliveries, heard, GapBuffer.deliverAll_append]
    refine ⟨?_, ?_, ?_⟩
    · rw [thenDo_fst, hbuffer, hone.buffer]
    · rw [thenDo_snd, SessionEffect.appliedIn_append, happlied, hone.applied, hone.buffer,
        List.map_append]
    · rw [thenDo_fst, htale, hone.tale]
      simp only [Tale.tellAll_append]

/-- Without notices the narrator hears of what is applied and of nothing else. -/
theorem heard_of_silent (settings : SessionSettings) {inputs : List SessionInput}
    (h : ∀ i ∈ inputs, i.notices = []) (s : Session) :
    heard settings s inputs = (appliedIn (run settings inputs s).2).map .gameEvent := by
  induction inputs generalizing s with
  | nil => rfl
  | cons i rest ih =>
    obtain ⟨hi, hrest⟩ := List.forall_mem_cons.mp h
    rw [heard, hi, ih hrest, run_cons, thenDo_snd, SessionEffect.appliedIn_append, List.map_append,
      List.nil_append]

/-! ## A hand that was just announced -/

/-- A session in which a hand was just announced. -/
def begun (settings : SessionSettings) (hand : HandCreated) (s : Session) : Session :=
  (react settings (.event (.handCreated hand)) s).1

theorem begun_buffer (settings : SessionSettings) (hand : HandCreated) (s : Session) :
    (begun settings hand s).buffer = .start 0 :=
  (setsBack_handCreated settings.deck hand).buffer s

/-- Its tale begins with the announcement. -/
theorem begun_tale (settings : SessionSettings) (hand : HandCreated) (s : Session) :
    (begun settings hand s).tale = s.tale.tell settings.deck (.handCreated hand) := by
  rw [← Aside.prepareHand s]
  exact tale_followAll settings.deck (.handCreated hand) (prepareHand s).1

end Session

end MentalPoker
