import MentalPoker.Feed.Broker
import MentalPoker.Proofs.Envelope.Refusals
import MentalPoker.Proofs.Feed.Contract

/-!
# The two transports are interchangeable

A feed comes over a stream of server-sent events or over a channel of the broker. The one names the
kind of an event beside it, comes in chunks, and ends with each connection of its own; the other
has the kind in the event alone, is looked at again and again, and breaks off. What they tell is
the same all the same: for one script of connections, of which each is refused or brings some
messages before it drops, the two make the same callbacks, and stand alike afterwards.

## The architecture

* **`Callback`**, **`callbacks`**: what a transport tells who is connected, with all arguments.
* **`FeedMessage`**, **`Connection`**: the script, and what it means to carry it out
  (`Frame.Carries`, `Broker.Content.Carries`, `Sse.Answer.Makes`, `Broker.Subscription.Makes`).
* **`Connection.Shows`**: a reading tells what the connection brings. Both transports read so.
* **`Connection.Shows.callbacks_eq`**: two readings of one connection tell the same.
* **`callbacks_run`**: the runs. Induction on the script.
-/

namespace MentalPoker

/-! ## Callbacks -/

/-- What a transport tells who is connected. -/
inductive Callback where
  | opened
  | event (d : Delivery)
  /-- An error, with the seconds until the next attempt if there is one. -/
  | error (message : Text) (retry : Option Binary64)
  | completed

namespace Callback

def ofStep? : TransportStep → Option Callback
  | .opened => some opened
  | .event d => some (event d)
  | .error message retry => some (error message (retry.map Backoff.seconds))
  | .complete => some completed
  | .connect | .wait | .sleep _ | .released => none

/-- The callback behind a call of the stream transport that is made while it reads. -/
def ofCall? : Sse.Call → Option Callback
  | .opened => some opened
  | .event e => some (event (.event e))
  | .attempt | .error _ | .completed => none

end Callback

def callbacks (steps : List TransportStep) : List Callback := steps.filterMap Callback.ofStep?

theorem callbacks_append (xs ys : List TransportStep) :
    callbacks (xs ++ ys) = callbacks xs ++ callbacks ys :=
  List.filterMap_append

/-- Steps of reading: no row of the table comes, and nothing is said of how the reading ends. -/
def TransportStep.isReading : TransportStep → Bool
  | .connect | .opened | .wait | .event (.event _) => true
  | .event (.row _) | .error .. | .complete | .sleep _ | .released => false

/-- While a transport reads, its calls tell all that is told. -/
theorem callbacks_of_isReading {steps : List TransportStep}
    (h : ∀ step ∈ steps, step.isReading = true) :
    callbacks steps = (Sse.calls steps).filterMap Callback.ofCall? := by
  rw [callbacks, Sse.calls, List.filterMap_filterMap]
  refine List.filterMap_congr fun step hstep => ?_
  have hreading := h step hstep
  match step with
  | .connect | .opened | .wait | .event (.event _) => rfl
  | .event (.row _) | .error .. | .complete | .sleep _ | .released => cases hreading

/-! ## Messages -/

/-- A message that either transport can carry: an object with the name of a kind as its type, and
with no row wrapped in it. It need not decode. -/
structure FeedMessage where
  kind : FeedEvent.Kind
  members : Table Text Json
  typed : Table.get? (text "type") members = some (.str kind.name)
  bare : Table.has (text "new") members = false

namespace FeedMessage

variable [Json.Room] (m : FeedMessage)

/-- What the message decodes to. -/
def decoded : Decoded FeedEvent := FeedEvent.decode none (.value (.obj m.members))

def event? : Option FeedEvent := m.decoded.toOption

/-- The type in the message is what counts, whatever the feed calls the event. -/
theorem decode_of_load {p : Payload} (hp : p.load = .ok m.members) (name : Option Text) :
    FeedEvent.decode name p = m.decoded := by
  have htype : Table.has (text "type") m.members = true := by rw [Table.has, m.typed]; rfl
  have harrange : FeedEvent.arrange name m.members = FeedEvent.arrange none m.members := by
    simp only [FeedEvent.arrange, FeedEvent.withType, if_pos htype]
  rw [decoded, FeedEvent.decode, FeedEvent.decode, hp]
  simp only [Payload.load, Payload.read, harrange]

/-- A message that does not decode is refused: nothing stops whoever asked for it. -/
theorem refused_of_decoded {fault : DecodeFault} (h : m.decoded = .error fault) :
    fault.failure? = none := by
  have hsettles := FeedEvent.settles_decode none (.value (.obj m.members))
  rcases hsettles.within fun l hl => nomatch hl with ⟨e, he⟩ | ⟨fault', hfault, hrefused⟩
  · cases h.symm.trans he
  · cases h.symm.trans hfault
    exact hrefused

end FeedMessage

/-- The frame carries the message, under the name of its kind. -/
structure Frame.Carries [Json.Room] (f : Frame) (m : FeedMessage) : Prop where
  event : f.event = m.kind.name
  data : Json.ofText f.data = .ok (.obj m.members)

def Broker.Content.Carries [Json.Room] (c : Content) (m : FeedMessage) : Prop :=
  c.read = .ok (.obj m.members)

theorem FeedEvent.Kind.ofName?_name (k : Kind) : ofName? k.name = some k := by
  cases k <;> decide +kernel

theorem Frame.Carries.decode [Json.Room] {f : Frame} {m : FeedMessage} (h : f.Carries m) :
    FeedEvent.decode (some f.event) (.text f.data) = m.decoded := by
  apply m.decode_of_load
  rw [Payload.load, Payload.read, h.data]
  rfl

theorem Frame.Carries.event? [Json.Room] {f : Frame} {m : FeedMessage} (h : f.Carries m) :
    f.event? = m.event? := by
  rw [Frame.event?, h.decode, h.event, FeedEvent.Kind.ofName?_name]
  rfl

theorem Frame.Carries.settles [Json.Room] {f : Frame} {m : FeedMessage} (h : f.Carries m) :
    f.settles = true := by
  rw [Frame.settles, h.decode, h.event, FeedEvent.Kind.ofName?_name]
  cases hdecoded : m.decoded with
  | ok e => rfl
  | error fault => exact Option.isNone_iff_eq_none.mpr (m.refused_of_decoded hdecoded)

theorem Broker.Content.Carries.decode [Json.Room] {c : Content} {m : FeedMessage}
    (h : c.Carries m) : Broker.decode c = m.decoded.map .event := by
  have hbare : unwrap (.obj m.members) = .obj m.members := by
    have hnone : Table.get? (MentalPoker.text "new") m.members = none := by
      simpa only [Table.has, Option.isSome_eq_false_iff, Option.isNone_iff_eq_none] using m.bare
    simp only [unwrap, Json.member, hnone, Option.getD_none]
  have hevent : isEvent (.obj m.members) = true := by
    simp only [isEvent, Json.member, m.typed, Option.getD_some, FeedEvent.Kind.ofName?_name,
      Option.isSome_some]
  rw [Broker.decode, h]
  simp only [hbare, if_pos hevent]
  rfl

/-! ## Scripts -/

/-- One connection: it is refused, or it opens and brings messages before it drops. -/
inductive Connection where
  | refused
  | opened (messages : List FeedMessage)

namespace Connection

def opens : Connection → Bool
  | refused => false
  | opened _ => true

def messages : Connection → List FeedMessage
  | refused => []
  | opened messages => messages

def events [Json.Room] (c : Connection) : List FeedEvent := c.messages.filterMap FeedMessage.event?

/-- The feed is over with a message of this connection. -/
def completes [Json.Room] (c : Connection) : Bool := c.events.any FeedEvent.isTerminal

/-- What is told of the connection before it ends. -/
def calls [Json.Room] (c : Connection) : List Sse.Call :=
  .attempt :: ((if c.opens then [.opened] else [])
    ++ (through FeedEvent.isTerminal c.events).map .event)

end Connection

/-- The server carries out the connection: it fails before a stream opens, or its frames carry the
messages, and then the stream is cut or closed. -/
def Sse.Answer.Makes [Json.Room] (a : Answer) (c : Connection) : Prop :=
  ∃ t, a.attempt? = some t ∧ t.opens = c.opens ∧ List.Forall₂ Frame.Carries t.frames c.messages

def Broker.Look.content? : Look → Option Content
  | idle => none
  | message content => some content

/-- The broker carries out the connection: it refuses the subscription, or the looks find the
messages, and then the subscription breaks off. -/
structure Broker.Subscription.Makes [Json.Room] (s : Subscription) (c : Connection) : Prop where
  opens : s.refused = !c.opens
  messages : c.opens = true →
    List.Forall₂ Content.Carries (s.looks.filterMap Look.content?) c.messages
  drops : c.opens = true → c.completes = false → s.breaks = true
  givenBack : s.stuck = none

/-! ## Readings -/

/-- All steps of the reading are steps of reading. -/
def Reading.Plain (r : Reading) : Prop := ∀ step ∈ r.steps, step.isReading = true

/-- A reading tells what the connection brings, and ends with it. -/
structure Connection.Shows [Json.Room] (c : Connection) (r : Reading) : Prop where
  plain : r.Plain
  calls : Sse.calls r.steps = c.calls
  completed : c.completes = true → r.ending = .completed
  dropped : c.completes = false → ∃ reason, r.ending = .dropped reason

/-- **Two readings of one connection** tell the same. -/
theorem Connection.Shows.callbacks_eq [Json.Room] {c : Connection} {r r' : Reading} (h : c.Shows r)
    (h' : c.Shows r') : callbacks r.steps = callbacks r'.steps := by
  rw [callbacks_of_isReading h.plain, callbacks_of_isReading h'.plain, h.calls, h'.calls]

namespace Reading.Plain

theorem nothing : Reading.nothing.Plain := fun _ h => absurd h List.not_mem_nil

theorem andThen {r : Reading} {more : Unit → Reading} (h : r.Plain) (hmore : (more ()).Plain) :
    (r.andThen more).Plain := by
  by_cases hgoes : r.ending = .goesOn
  · rw [Reading.andThen_of_goesOn hgoes]
    exact List.forall_mem_append.mpr ⟨h, hmore⟩
  · rw [Reading.andThen_of_ended hgoes]
    exact h

theorem ofDecoded (d : Decoded FeedEvent) : (Reading.ofDecoded (d.map .event)).Plain := by
  cases d with
  | ok e => exact List.forall_mem_singleton.mpr rfl
  | error fault =>
    show (Reading.ofDecoded (.error fault)).Plain
    unfold Reading.ofDecoded
    dsimp only
    cases fault.failure? with
    | none => exact nothing
    | some failure => exact nothing

theorem wait (ending : ReadEnd) : Reading.Plain ⟨[.wait], ending⟩ :=
  List.forall_mem_singleton.mpr rfl

theorem connect (ending : ReadEnd) : Reading.Plain ⟨[.connect], ending⟩ :=
  List.forall_mem_singleton.mpr rfl

theorem connectOpened (ending : ReadEnd) : Reading.Plain ⟨[.connect, .opened], ending⟩ :=
  List.forall_mem_cons.mpr ⟨rfl, List.forall_mem_singleton.mpr rfl⟩

end Reading.Plain

/-! ## The stream -/

namespace Sse

variable [Json.Room]

theorem plain_readFrames (frames : List Frame) : (readFrames frames).Plain := by
  induction frames with
  | nil => exact .nothing
  | cons f rest ih =>
    have hframe : (readFrame f).Plain := by
      unfold readFrame
      split
      · exact .nothing
      · exact .ofDecoded _
    exact hframe.andThen ih

theorem plain_readChunks (s : Settings) (cut : Option Loss) (d : FrameDecoder)
    (chunks : List Bytes) : (readChunks s cut d chunks).Plain := by
  induction chunks generalizing d with
  | nil =>
    unfold readChunks
    split
    · exact .wait _
    · refine Reading.Plain.andThen (.andThen (.wait _) ?_) .nothing
      cases d.flush with
      | error fault => exact .nothing
      | ok frames => exact plain_readFrames frames
  | cons chunk rest ih =>
    unfold readChunks
    split
    · exact .wait _
    · exact .andThen (.andThen (.wait _) (plain_readFrames _)) (ih _)

theorem plain_read (s : Settings) (a : Answer) : (read s a).Plain := by
  unfold read
  split
  · exact .connect _
  · split
    · exact .connect _
    · split
      · dsimp only
        split
        · refine Reading.Plain.andThen (.connectOpened _) ?_
          cases ContentType.charset _ with
          | error fault => exact .nothing
          | ok charset => exact plain_readChunks s _ _ _
        · exact .connectOpened _
      · exact .connect _

/-- The frames bring what the messages decode to. -/
theorem filterMap_event? {frames : List Frame} {messages : List FeedMessage}
    (h : List.Forall₂ Frame.Carries frames messages) :
    frames.filterMap Frame.event? = messages.filterMap FeedMessage.event? := by
  induction h with
  | nil => rfl
  | cons hfirst _ ih => rw [List.filterMap_cons, List.filterMap_cons, hfirst.event?, ih]

theorem settles_of_carries {frames : List Frame} {messages : List FeedMessage}
    (h : List.Forall₂ Frame.Carries frames messages) : ∀ f ∈ frames, f.settles = true := by
  induction h with
  | nil => exact fun f hf => absurd hf List.not_mem_nil
  | cons hfirst _ ih => exact List.forall_mem_cons.mpr ⟨hfirst.settles, ih⟩

/-- **The stream transport** reads what the connection brings. -/
theorem Answer.Makes.shows {s : Settings} (hclose : s.completeOnClose = false) {a : Answer}
    {c : Connection} (h : a.Makes c) : c.Shows (read s a) := by
  obtain ⟨t, ht, hopens, hframes⟩ := h
  have hfollows := follows_read s ht (settles_of_carries hframes)
  have hevents : t.events = through FeedEvent.isTerminal c.events := by
    rw [Attempt.events, filterMap_event? hframes, Connection.events]
  -- a stream that is closed is not over
  have hcompletes : t.completes s = c.completes := by
    rw [Attempt.completes, hclose, Bool.and_false, Bool.or_false, hevents, any_through]
    rfl
  refine ⟨plain_read s a, ?_, fun hdone => ?_, fun hdone => ?_⟩
  · rw [hfollows.calls, Attempt.told, hopens, hevents]
    rfl
  · exact hfollows.completed (hcompletes.trans hdone)
  · exact hfollows.dropped (hcompletes.trans hdone)

theorem Answer.Makes.schedule (s : Settings) {a : Answer} {c : Connection} (h : a.Makes c)
    (b : Backoff) : scheduleAfter b (read s a).steps = if c.opens then b.reset else b := by
  obtain ⟨t, ht, hopens, hframes⟩ := h
  rw [(follows_read s ht (settles_of_carries hframes)).schedule, hopens]

end Sse

/-! ## The broker -/

namespace Broker

variable [Json.Room]

/-- A look that finds a message brings what it decodes to. -/
theorem Content.Carries.brings {content : Content} {m : FeedMessage} (h : content.Carries m) :
    Sse.Brings (readLook (.message content)) m.event?.toList .goesOn := by
  obtain ⟨hcalls, hending⟩ := Sse.brings_ofDecoded fun _ => m.refused_of_decoded
  unfold readLook FeedMessage.event?
  dsimp only
  rw [h.decode]
  refine ⟨hcalls, ?_⟩
  -- nothing fails, so that the look ends as its message does
  dsimp only
  rw [hending]
  cases m.decoded.toOption.toList.any FeedEvent.isTerminal <;> rfl

theorem Content.Carries.plain {content : Content} {m : FeedMessage} (h : content.Carries m) :
    (readLook (.message content)).Plain := by
  unfold readLook
  dsimp only
  rw [h.decode]
  exact List.forall_mem_cons.mpr ⟨rfl, Reading.Plain.ofDecoded m.decoded⟩

/-- How a subscription ends that is looked at to its end. -/
def closing (breaks : Bool) : ReadEnd := if breaks then .dropped [] else .goesOn

/-- Looks one after another; those that find nothing leave no trace. Induction on the looks. -/
theorem brings_readLooks (breaks : Bool) {looks : List Look} {messages : List FeedMessage}
    (h : List.Forall₂ Content.Carries (looks.filterMap Look.content?) messages) :
    Sse.Brings (readLooks breaks looks) (messages.filterMap FeedMessage.event?) (closing breaks)
      ∧ (readLooks breaks looks).Plain := by
  induction looks generalizing messages with
  | nil =>
    cases h
    exact ⟨⟨rfl, rfl⟩, .wait _⟩
  | cons look rest ih =>
    cases look with
    | idle =>
      obtain ⟨hbrings, hplain⟩ := ih h
      exact ⟨hbrings.afterWait, .andThen (.wait _) hplain⟩
    | message content =>
      have hcarried : List.Forall₂ Content.Carries
          (content :: rest.filterMap Look.content?) messages := h
      cases hcarried with
      | @cons _ m _ messages hfirst hrest =>
        obtain ⟨hbrings, hplain⟩ := ih hrest
        have hboth := hfirst.brings.andThen (g := fun _ => readLooks breaks rest) hbrings
        have hevents : (m :: messages).filterMap FeedMessage.event?
            = m.event?.toList ++ messages.filterMap FeedMessage.event? := by
          rw [List.filterMap_cons]
          cases m.event? <;> rfl
        rw [hevents]
        exact ⟨hboth, hfirst.plain.andThen hplain⟩

/-- **The broker transport** reads what the connection brings. -/
theorem Subscription.Makes.shows {s : Subscription} {c : Connection} (h : s.Makes c) :
    c.Shows (read s) := by
  cases c with
  | refused =>
    have hrefused : s.refused = true := h.opens
    rw [read, if_pos hrefused]
    exact ⟨Reading.Plain.connect _, rfl, (nomatch ·), fun _ => ⟨_, rfl⟩⟩
  | opened messages =>
    have hopened : s.refused = false := h.opens
    obtain ⟨⟨hcalls, hending⟩, hplain⟩ := brings_readLooks s.breaks (h.messages rfl)
    rw [read, hopened, if_neg Bool.false_ne_true, Reading.andThen_of_goesOn rfl]
    have hsteps : ∀ step ∈ [.connect, .opened] ++ (readLooks s.breaks s.looks).steps,
        step.isReading = true :=
      List.forall_mem_append.mpr ⟨Reading.Plain.connectOpened .goesOn, hplain⟩
    refine ⟨hsteps, ?_, fun hdone => ?_, fun hdone => ?_⟩
    · show .attempt :: .opened :: Sse.calls (readLooks s.breaks s.looks).steps = _
      rw [hcalls]
      rfl
    · exact hending.trans (if_pos hdone)
    · refine ⟨[], hending.trans ?_⟩
      rw [closing, h.drops rfl hdone, if_pos rfl]
      exact if_neg (Bool.eq_false_iff.mp hdone)

theorem Subscription.Makes.schedule {s : Subscription} {c : Connection} (h : s.Makes c)
    (b : Backoff) : scheduleAfter b s = if c.opens then b.reset else b := by
  rw [scheduleAfter, h.opens]
  cases c.opens <;> rfl

end Broker

/-! ## Runs -/

/-- **The runs.** A connection that completes is the last one on either side; after any other both
announce the same delay, or both stop at one that cannot be counted. Induction on the script. -/
theorem callbacks_run [Json.Room] {s : Sse.Settings} (hagain : s.reconnect = true)
    (hclose : s.completeOnClose = false) {script : List Connection} {answers : List Sse.Answer}
    {subscriptions : List Broker.Subscription}
    (ha : List.Forall₂ Sse.Answer.Makes answers script)
    (hs : List.Forall₂ Broker.Subscription.Makes subscriptions script) (b : Backoff) :
    callbacks (Sse.run s b answers).steps = callbacks (Broker.run b subscriptions).steps
      ∧ (Sse.run s b answers).ending = (Broker.run b subscriptions).ending := by
  induction ha generalizing b subscriptions with
  | nil =>
    cases hs
    exact ⟨rfl, rfl⟩
  | @cons a c answers script hanswer _ ih =>
    cases hs with
    | @cons sub _ subscriptions _ hsub hsubs =>
      have hread := hanswer.shows hclose
      have hlooked := hsub.shows
      have htold := hread.callbacks_eq hlooked
      unfold Sse.run Broker.run
      dsimp only
      rw [hanswer.schedule, hsub.schedule]
      cases hdone : c.completes with
      | true =>
        rw [hread.completed hdone, hlooked.completed hdone]
        simp only [Broker.Subscription.endOr, hsub.givenBack]
        simp only [callbacks_append, htold]
        exact ⟨rfl, rfl⟩
      | false =>
        obtain ⟨reason, hlost⟩ := hread.dropped hdone
        obtain ⟨reason', hlost'⟩ := hlooked.dropped hdone
        rw [hlost, hlost']
        dsimp only
        rw [hagain]
        -- from here on only the schedule matters that the connection leaves
        generalize (if c.opens then b.reset else b) = b'
        rw [if_neg (by decide)]
        cases hendless : Backoff.isEndless b'.delay with
        | true =>
          rw [if_pos rfl, if_pos rfl]
          simp only [Broker.Subscription.endOr, hsub.givenBack, callbacks_append, htold]
          exact ⟨(List.append_nil _).symm, rfl⟩
        | false =>
          rw [if_neg Bool.false_ne_true, if_neg Bool.false_ne_true]
          obtain ⟨hsteps, hending⟩ := ih hsubs b'.next
          -- a broker that does no more keeps the last subscription, about which nothing is told
          cases subscriptions with
          | nil =>
            rw [List.isEmpty_nil, if_pos rfl]
            simp only [TransportRun.after, callbacks_append, htold, hsteps, hending]
            exact ⟨List.append_nil _, rfl⟩
          | cons next subscriptions =>
            simp only [hsub.givenBack, List.isEmpty_cons, Bool.false_eq_true, if_false,
              TransportRun.after, callbacks_append, htold, hsteps, hending]
            simp only [List.append_assoc]
            exact ⟨rfl, trivial⟩

/-- **The transports are interchangeable.** Carry out one script of connections over a stream, with
a transport that connects again and does not take a clean close for the end, and over a broker's
channel: with the same schedule of delays, the two make the same callbacks with equal arguments,
in the same order, and stand alike afterwards. -/
theorem transports_interchangeable [Json.Room] (url : Text) (b : Backoff) {script : List Connection}
    {answers : List Sse.Answer} {subscriptions : List Broker.Subscription}
    (ha : List.Forall₂ Sse.Answer.Makes answers script)
    (hs : List.Forall₂ Broker.Subscription.Makes subscriptions script) :
    callbacks (Sse.run ⟨url, true, false⟩ b answers).steps
        = callbacks (Broker.run b subscriptions).steps
      ∧ (Sse.run ⟨url, true, false⟩ b answers).ending = (Broker.run b subscriptions).ending :=
  callbacks_run rfl rfl ha hs b

/-- The end of a hand, which names no game. -/
def namelessEnd : FeedMessage where
  kind := .handCompleted
  members := [(text "type", .str (text "hand_completed"))]
  typed := by decide +kernel
  bare := by decide +kernel

def handEnd : FeedMessage where
  kind := .handCompleted
  members := [(text "game_id", .int 1), (text "type", .str (text "hand_completed")),
    (text "hand_id", .int 7)]
  typed := by decide +kernel
  bare := by decide +kernel

def namelessText : Text := text "\x7b\"type\": \"hand_completed\"\x7d"

def handText : Text :=
  text "\x7b\"game_id\": 1, \"type\": \"hand_completed\", \"hand_id\": 7\x7d"

/-- A refusal, a message that does not decode before a drop, and one that does, before another. -/
def brokenConnections : List Connection :=
  [.refused, .opened [namelessEnd], .opened [handEnd, namelessEnd]]

def brokenAnswers : List Sse.Answer :=
  [.stream 503 Sse.mediaType [] none,
    .stream 200 Sse.mediaType [Sse.written ⟨text "hand_completed", namelessText⟩] none,
    .stream 200 Sse.mediaType
      ([⟨text "hand_completed", handText⟩, ⟨text "hand_completed", namelessText⟩].map Sse.written)
      (some (.dropped (text "reset")))]

def brokenSubscriptions : List Broker.Subscription :=
  [⟨true, [], false, none⟩, ⟨false, [.idle, .message (.text namelessText)], true, none⟩,
    ⟨false, [.message (.bytes (handText.map UInt8.ofNat)), .idle, .message (.text namelessText)],
      true, none⟩]

/-- An error, an opening and an error, an opening, an event and the completion: all that is told of
these connections, by either transport. -/
theorem transports_interchangeable_broken :
    let sse := Sse.run ⟨text "http://ledger.test/stream", true, false⟩ .usual brokenAnswers
    let broker := Broker.run .usual brokenSubscriptions
    (callbacks sse.steps = callbacks broker.steps ∧ sse.ending = broker.ending)
      ∧ (callbacks broker.steps).length = 6 ∧ broker.ending = .finished := by
  intro sse broker
  have hnameless : Frame.Carries ⟨text "hand_completed", namelessText⟩ namelessEnd :=
    ⟨by decide +kernel, by decide +kernel⟩
  have hhand : Frame.Carries ⟨text "hand_completed", handText⟩ handEnd :=
    ⟨by decide +kernel, by decide +kernel⟩
  have hanswers : List.Forall₂ Sse.Answer.Makes brokenAnswers brokenConnections := by
    refine .cons ⟨.refused, rfl, rfl, .nil⟩ (.cons ?_ (.cons ?_ .nil))
    · exact ⟨.stream [⟨text "hand_completed", namelessText⟩] true, by decide +kernel, rfl,
        .cons hnameless .nil⟩
    · exact ⟨.stream [⟨text "hand_completed", handText⟩, ⟨text "hand_completed", namelessText⟩]
        false, by decide +kernel, rfl, .cons hhand (.cons hnameless .nil)⟩
  have hsubscriptions : List.Forall₂ Broker.Subscription.Makes brokenSubscriptions
      brokenConnections := by
    have hread : Broker.Content.Carries (.text namelessText) namelessEnd := by
      rw [Broker.Content.Carries, Broker.Content.read, hnameless.data]
      rfl
    have hutf : Utf8.decode false (handText.map UInt8.ofNat) = .ok handText := by decide +kernel
    have hbytes : Broker.Content.Carries (.bytes (handText.map UInt8.ofNat)) handEnd := by
      rw [Broker.Content.Carries, Broker.Content.read, hutf]
      dsimp only
      rw [hhand.data]
      rfl
    refine .cons ⟨rfl, (nomatch ·), (nomatch ·), rfl⟩ (.cons ?_ (.cons ?_ .nil))
    · exact ⟨rfl, fun _ => .cons hread .nil, fun _ _ => rfl, rfl⟩
    · exact ⟨rfl, fun _ => .cons hbytes (.cons hread .nil), fun _ _ => rfl, rfl⟩
  exact ⟨transports_interchangeable _ .usual hanswers hsubscriptions, by decide +kernel,
    by decide +kernel⟩

end MentalPoker
