import MentalPoker.Proofs.Hand.Standing
import MentalPoker.Proofs.Session.Addresses
import MentalPoker.Proofs.Session.Intake

/-!
# What keeps hands apart

Two hands follow one another on one feed, and the numbers of envelopes start again. A session does
not tell their envelopes apart by their addresses (`run_unaddressed`), so a late event of the hand
before is taken for one of the hand that goes on. What does keep the hands apart is the
announcement. It empties the gap buffer and gives up the round under way, so whatever came before
it, or was asked for before it, is not used after it.

## The architecture

* **`react_keepsTo`**, **`run_keepsTo`**: what waits and what is applied comes from what came in.
* **`mem_recoveriesIn_react`**: a round has the address of a live envelope.
* **`begun_context`**, **`begun_state_congr`**: what an announcement keeps of the session before.
-/

namespace MentalPoker

namespace Session

open SessionEffect (appliedIn recoveriesIn)

/-! ## What is used came in -/

/-- What waits and what was applied has a property. -/
structure KeepsTo (P : Finalized → Prop) (r : Session × List SessionEffect) : Prop where
  waiting : r.1.buffer.Waiting P
  applied : ∀ f ∈ appliedIn r.2, P f

section Use

variable {P : Finalized → Prop}

theorem Restarted.keepsTo {r : Session × List SessionEffect} (h : Restarted r) : KeepsTo P r where
  waiting := by rw [h.buffer]; exact GapBuffer.waiting_start P 0
  applied := by rw [h.applied]; exact fun f hf => nomatch hf

theorem Delivered.keepsTo {s : Session} {ds : List (GapBuffer.Delivery Finalized)}
    {r : Session × List SessionEffect} (h : Delivered s ds r) (hs : s.buffer.Waiting P)
    (hin : ∀ d ∈ ds, ∀ item ∈ d.items, P item.2) : KeepsTo P r := by
  obtain ⟨hwaiting, hreleased⟩ := hs.deliverAll hin
  refine ⟨by rwa [h.buffer], fun f hf => ?_⟩
  rw [h.applied] at hf
  obtain ⟨item, hitem, rfl⟩ := List.mem_map.mp hf
  exact hreleased item hitem

/-- **One input.** What waits after it and what it applies waited before or came with it. -/
theorem react_keepsTo (settings : SessionSettings) {s : Session} (hs : s.buffer.Waiting P)
    {i : SessionInput} (hin : ∀ d ∈ i.deliveries s, ∀ item ∈ d.items, P item.2) :
    KeepsTo P (react settings i s) := by
  cases h : i.startsOver s with
  | true => exact (react_restarted settings h).keepsTo
  | false => exact (react_delivered settings h).keepsTo hs hin

/-- **A run.** What waits after it and what it applied waited before or came with it. -/
theorem run_keepsTo (settings : SessionSettings) {inputs : List SessionInput} {s : Session}
    (hs : s.buffer.Waiting P)
    (hin : ∀ d ∈ deliveries settings s inputs, ∀ item ∈ d.items, P item.2) :
    KeepsTo P (run settings inputs s) := by
  induction inputs generalizing s with
  | nil => exact ⟨hs, fun f hf => nomatch hf⟩
  | cons i rest ih =>
    obtain ⟨hone, hrest⟩ := List.forall_mem_append.mp hin
    have hreact := react_keepsTo settings hs hone
    have hrun := ih hreact.waiting hrest
    refine ⟨by rw [run_cons, thenDo_fst]; exact hrun.waiting, ?_⟩
    rw [run_cons, thenDo_snd, SessionEffect.appliedIn_append]
    exact List.forall_mem_append.mpr ⟨hreact.applied, hrun.applied⟩

end Use

/-- With nothing waiting, all that waits or is applied after a run was received in it. -/
theorem keepsTo_received (settings : SessionSettings) (inputs : List SessionInput) {s : Session}
    (hs : s.buffer = .start 0) :
    KeepsTo (· ∈ received settings s inputs) (run settings inputs s) :=
  run_keepsTo settings (hs ▸ GapBuffer.waiting_start _ 0) fun d hd _ hitem =>
    List.mem_map_of_mem (List.mem_flatMap.mpr ⟨d, hd, hitem⟩)

/-! ## Whom a round asks for -/

namespace StartsNone

theorem modify (f : Session → Session) : StartsNone (modify f) := fun _ => rfl

theorem triple {f g h : Step} (hf : StartsNone f) (hg : StartsNone g) (hh : StartsNone h) :
    StartsNone (inOrder [f, g, h]) := by
  rw [inOrder_three]
  exact hf.thenDo (hg.thenDo hh)

theorem resetPipeline : StartsNone resetPipeline :=
  triple (modify _) (modify _) (Idle.assign .fresh).starts

theorem prepareHand : StartsNone prepareHand := triple (modify _) (modify _) Idle.clearStall.starts

theorem reset : StartsNone reset := by
  refine triple (fun s => ?_) (modify _) resetPipeline
  unfold disconnect
  split <;> rfl

theorem countRound (attempts : Int) : StartsNone (countRound attempts) := by
  intro s
  simp only [Session.countRound]
  split
  · exact Idle.clearStall.starts s
  · split
    · exact (Idle.dispatch _).starts _
    · rfl

theorem recovered (settings : SessionSettings) (result : Except Failure RecoveryResult) :
    StartsNone (recovered settings result) := by
  intro s
  unfold Session.recovered
  split
  · rfl
  · refine triple (modify _) ?_ (countRound settings.stallAttempts) s
    cases result with
    | ok r => exact fun s => (Idle.applyReady settings.deck _).starts _
    | error failure => exact Idle.skip.starts

end StartsNone

/-- The events that do not go through the gap buffer start no round. -/
theorem startsNone_event (deck : List Card) {e : FeedEvent} (he : e.kind ≠ .gameEvent) :
    StartsNone (event deck e) := by
  cases e with
  | gameEvent f => exact absurd rfl he
  | handCreated hand =>
    exact StartsNone.prepareHand.thenDo fun s => (Idle.followAll _).starts s
  | _ => exact fun s => (Idle.followAll _).starts s

/-- Inputs that bring no live envelope start no round. -/
theorem startsNone_react (settings : SessionSettings) {i : SessionInput} (h : i.envelope? = none) :
    StartsNone (react settings i) := by
  have hevent {e : FeedEvent} (h : (SessionInput.event e).envelope? = none) :
      StartsNone (event settings.deck e) := by
    refine startsNone_event settings.deck fun hkind => ?_
    cases e with
    | gameEvent f => cases h
    | _ => cases hkind
  cases i with
  | event e => exact hevent h
  | beginHand e key =>
    have he : (SessionInput.event e).envelope? = none := by
      cases e with
      | gameEvent f => cases h
      | _ => rfl
    intro s
    obtain ⟨context, hbegin⟩ := beginHand_eq_event settings.deck e key s
    rw [react, hbegin]
    exact hevent he _
  | start => exact (Idle.start settings).starts
  | opened =>
    intro s
    refine StartsNone.triple ?_ (.modify _) (Idle.dispatch _).starts s
    split
    · exact .resetPipeline
    · exact Idle.skip.starts
  | failed message => exact (StartsNone.modify _).thenDo (Idle.dispatch _).starts
  | completed | listen | unlisten => exact .modify _
  | kindOnly kind =>
    cases kind with
    | handCreated => exact .prepareHand
    | _ => exact fun s => (Idle.followAll _).starts s
  | recovered result => exact .recovered settings result
  | reset => exact .reset
  | close =>
    have hclose : StartsNone (if settings.hasTransport then emit .close else skip) := by
      split
      · exact (Idle.emit rfl).starts
      · exact Idle.skip.starts
    exact StartsNone.reset.thenDo hclose

/-- An input that brings a live envelope starts the round that the envelope asks for. -/
theorem recoveriesIn_live (settings : SessionSettings) {i : SessionInput} {f : Finalized}
    (h : i.envelope? = some f) (s : Session) :
    recoveriesIn (react settings i s).2 = (roundFor f (s.buffer.arrive f.seqId f) s).toList
      ∧ (react settings i s).1.recovery
        = s.recovery.or (roundFor f (s.buffer.arrive f.seqId f) s) := by
  obtain ⟨context, henvelope⟩ := react_live settings h s
  rw [henvelope]
  exact recoveriesIn_envelope settings.deck f _

/-- The round has the address of the envelope. -/
def HasAddressOf (r : Recovery) (f : Finalized) : Prop :=
  r.gameId = f.envelope.gameId ∧ r.handId = f.envelope.handId

/-- **One input.** A round that it starts has the address of an envelope that it brings. -/
theorem mem_recoveriesIn_react {settings : SessionSettings} {i : SessionInput} {s : Session}
    {r : Recovery} (h : r ∈ recoveriesIn (react settings i s).2) :
    ∃ d ∈ i.deliveries s, ∃ item ∈ d.items, HasAddressOf r item.2 := by
  cases hlive : i.envelope? with
  | none =>
    rw [startsNone_react settings hlive] at h
    cases h
  | some f =>
    rw [(recoveriesIn_live settings hlive s).1] at h
    obtain ⟨_, rfl⟩ := roundFor_eq_some.mp (Option.mem_toList.mp h)
    refine ⟨.live f.seqId f, ?_, _, List.mem_singleton.mpr rfl, rfl, rfl⟩
    rw [SessionInput.deliveries_live hlive]
    exact List.mem_singleton.mpr rfl

/-- **A run.** A round that it starts has the address of an envelope that was received in it. -/
theorem mem_recoveriesIn_run {settings : SessionSettings} {inputs : List SessionInput}
    {s : Session} {r : Recovery} (h : r ∈ recoveriesIn (run settings inputs s).2) :
    ∃ f ∈ received settings s inputs, HasAddressOf r f := by
  induction inputs generalizing s with
  | nil => cases h
  | cons i rest ih =>
    rw [run_cons, thenDo_snd, SessionEffect.recoveriesIn_append, List.mem_append] at h
    rw [received, deliveries, GapBuffer.history_append, List.map_append]
    rcases h with hone | hlater
    · obtain ⟨d, hd, item, hitem, hf⟩ := mem_recoveriesIn_react hone
      have hcame := List.mem_map_of_mem (f := Prod.snd) (List.mem_flatMap.mpr ⟨d, hd, hitem⟩)
      exact ⟨item.2, List.mem_append_left _ hcame, hf⟩
    · obtain ⟨f, hf, hround⟩ := ih hlater
      exact ⟨f, List.mem_append_right _ hf, hround⟩

/-! ## Announcements -/

/-- The announcement of a hand gives up the round under way. -/
theorem begun_recovery (settings : SessionSettings) (hand : HandCreated) (s : Session) :
    (begun settings hand s).recovery = none := by
  show (followAll (Narrator.effects settings.deck (prepareHand s).1.context (.handCreated hand))
    (prepareHand s).1).1.recovery = none
  rw [(Idle.followAll _).recovery, prepareHand, inOrder_three]
  exact Idle.clearStall.recovery _

/-- The announcement of a hand starts the context of that hand. -/
theorem begun_context (settings : SessionSettings) (hand : HandCreated) (s : Session) :
    (begun settings hand s).context = Narrator.contextOfHand s.context hand :=
  (congrArg Tale.context (begun_tale settings hand s)).trans
    (Tale.tell_handCreated_context settings.deck s.tale hand)

/-- Of the picture that was, what the announcement of a hand says keeps the viewer's key at most. -/
theorem run_handCreated_congr {p p' : HandState} {c c' : HandContext}
    (hpicture : p.viewerKey = p'.viewerKey) (hcontext : c.viewerKey = c'.viewerKey)
    (hand : HandCreated) :
    p.run (Narrator.actionsOf (Narrator.handCreated c hand))
      = p'.run (Narrator.actionsOf (Narrator.handCreated c' hand)) := by
  have hsaid : Narrator.handCreated c hand = Narrator.handCreated c' hand := by
    simp only [Narrator.handCreated, Narrator.contextOfHand, hcontext]
  obtain ⟨rest, hrest⟩ : ∃ rest, Narrator.actionsOf (Narrator.handCreated c' hand)
      = .initGame hand.gameId hand.handId hand.playerCount
        (Narrator.contextOfHand c' hand).viewerKey :: rest := ⟨_, rfl⟩
  -- the first action starts a fresh picture, so the rest begins alike
  rw [hsaid, hrest, HandState.run_cons, HandState.run_cons]
  refine congrArg (HandState.run · rest) ?_
  show HandState.initGame p _ _ _ _ = HandState.initGame p' _ _ _ _
  simp only [HandState.initGame, hpicture]

/-- Sessions that know the same keys of the viewer show the same after an announcement. -/
theorem begun_state_congr (settings : SessionSettings) (hand : HandCreated) {s s' : Session}
    (hpicture : s.state.viewerKey = s'.state.viewerKey)
    (hcontext : s.context.viewerKey = s'.context.viewerKey) :
    (begun settings hand s).state = (begun settings hand s').state := by
  have hsaid (u : Session) : (begun settings hand u).state
      = (prepareHand u).1.state.run
        (Narrator.actionsOf (Narrator.handCreated (prepareHand u).1.context hand)) :=
    congrArg Session.state (followAll_fst _ _)
  have hkeys (u : Session) : (prepareHand u).1.state.viewerKey = u.state.viewerKey
      ∧ (prepareHand u).1.context.viewerKey = u.context.viewerKey :=
    have htale := Aside.prepareHand u
    ⟨congrArg (·.picture.viewerKey) htale, congrArg (·.context.viewerKey) htale⟩
  rw [hsaid s, hsaid s']
  refine run_handCreated_congr ?_ ?_ hand
  · rw [(hkeys s).1, (hkeys s').1, hpicture]
  · rw [(hkeys s).2, (hkeys s').2, hcontext]

/-- **Only announcements part hands.** Two runs whose inputs differ only in the addresses of events
and of fetched envelopes stay alike in everything but these addresses: an event of another hand is
taken for one of the hand that goes on. But nothing from before an announcement is used after it,
save the key of the viewer. The announcement leaves no envelope waiting, no round under way and
nothing counted, and a picture that does not depend on the one before. Every envelope that waits or
is applied later was received later, and every round that starts later has the address of such an
envelope. -/
theorem only_announcements_part_hands (settings : SessionSettings) (s : Session)
    {inputs inputs' : List SessionInput}
    (h : inputs.map SessionInput.unaddressed = inputs'.map SessionInput.unaddressed) (n : Nat) :
    ((run settings (inputs.take n) s).1.unaddressed
          = (run settings (inputs'.take n) s).1.unaddressed
        ∧ (run settings (inputs.take n) s).2.map SessionEffect.unaddressed
          = (run settings (inputs'.take n) s).2.map SessionEffect.unaddressed)
      ∧ ∀ hand later,
        let t := begun settings hand s
        (t.buffer = .start 0 ∧ t.recovery = none
            ∧ t.context = Narrator.contextOfHand s.context hand
            ∧ ∀ s' : Session, s.state.viewerKey = s'.state.viewerKey →
              s.context.viewerKey = s'.context.viewerKey →
              t.state = (begun settings hand s').state)
          ∧ (∀ f ∈ appliedIn (run settings later t).2, f ∈ received settings t later)
          ∧ (∀ id f, Table.get? id (run settings later t).1.buffer.pending = some f →
              f ∈ received settings t later)
          ∧ ∀ r ∈ recoveriesIn (run settings later t).2,
              ∃ f ∈ received settings t later, HasAddressOf r f := by
  constructor
  · -- without addresses both runs are the same run
    have htake : (inputs.take n).map SessionInput.unaddressed
        = (inputs'.take n).map SessionInput.unaddressed := by
      rw [List.map_take, List.map_take, h]
    have hone := run_unaddressed settings (inputs.take n) s
    have hother := run_unaddressed settings (inputs'.take n) s
    rw [htake] at hone
    exact Prod.mk.inj (hone.symm.trans hother)
  · intro hand later t
    have hkeeps := keepsTo_received settings later (begun_buffer settings hand s)
    exact ⟨⟨begun_buffer settings hand s, begun_recovery settings hand s,
        begun_context settings hand s, fun _ => begun_state_congr settings hand⟩,
      hkeeps.applied, hkeeps.waiting, fun _ => mem_recoveriesIn_run⟩

/-- The envelope, addressed to another hand of its game. -/
def ofHand (handId : Nat) (f : Finalized) : Finalized :=
  { f with envelope := { f.envelope with handId } }

/-- A share of the hand before, its end, and a share that a round brings. -/
def lateRun : List SessionInput :=
  [.event (.handCreated .ofTwo), .event (.gameEvent (ofHand 6 (.ofTwo 1 (.shareAt 2)))),
    .event (.handCompleted 1 6),
    .recovered (.ok ⟨[0], [ofHand 6 (.ofTwo 0 (.shareAt 0))], none⟩)]

/-- The same with the address of the hand that goes on. -/
def ownRun : List SessionInput :=
  [.event (.handCreated .ofTwo), .event (.gameEvent (.ofTwo 1 (.shareAt 2))),
    .event (.handCompleted 1 7), .recovered (.ok ⟨[0], [.ofTwo 0 (.shareAt 0)], none⟩)]

theorem only_announcements_part_hands_late :
    lateRun.map SessionInput.unaddressed = ownRun.map SessionInput.unaddressed
      ∧ (run .usual (lateRun.take 4) fresh).1.unaddressed
        = (run .usual (ownRun.take 4) fresh).1.unaddressed :=
  have hsame : lateRun.map SessionInput.unaddressed = ownRun.map SessionInput.unaddressed := rfl
  ⟨hsame, (only_announcements_part_hands .usual fresh hsame 4).1.1⟩

/-- Two envelopes of the hand before: one that the gap buffer waits for, and one ahead. -/
def lateShare : Finalized := ofHand 6 (.ofTwo 0 (.shareAt 0))

def lateAhead : Finalized := ofHand 6 (.ofTwo 1 (.shareAt 2))

/-- **Late events are taken in.** The seventh hand of a game was announced. A share of the sixth
changes the picture, is remembered as the begin of the deal and moves the buffer on, and one that
comes ahead starts a round of recovery of the sixth. -/
theorem late_events_are_taken_in :
    (lateShare.envelope.handId ≠ HandCreated.ofTwo.handId
        ∧ lateAhead.envelope.handId ≠ HandCreated.ofTwo.handId)
      ∧ (react .usual (.event (.gameEvent lateShare)) (begun .usual .ofTwo fresh)).1.state
        ≠ (begun .usual .ofTwo fresh).state
      ∧ ((begun .usual .ofTwo fresh).context.dealingStarted = false
        ∧ (react .usual (.event (.gameEvent lateShare))
          (begun .usual .ofTwo fresh)).1.context.dealingStarted = true)
      ∧ ((begun .usual .ofTwo fresh).buffer.expected = 0
        ∧ (react .usual (.event (.gameEvent lateShare))
          (begun .usual .ofTwo fresh)).1.buffer.expected = 1)
      ∧ recoveriesIn (react .usual (.event (.gameEvent lateAhead)) (begun .usual .ofTwo fresh)).2
        = [⟨1, 6, [0]⟩] := by
  refine ⟨⟨?_, ?_⟩, ?_, ⟨?_, ?_⟩, ⟨?_, ?_⟩, ?_⟩ <;> decide +kernel

end Session

end MentalPoker
