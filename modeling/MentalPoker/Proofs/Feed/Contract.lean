import MentalPoker.Proofs.Feed.Disturbance
import Mathlib.Algebra.Order.Ring.Rat
import Mathlib.Data.List.Forall2
import Mathlib.Data.List.TakeWhile

/-!
# What the stream transport promises its subscribers

A script says of each attempt to connect whether a stream opens, which frames come, and how it
ends. It decides all that a subscriber is told. Each attempt brings an opening if there is one, then
the events that its frames decode to, and then either the end of the feed or an error. An error is
followed by another attempt as long as the transport connects again, and what it announces depends
on the errors since the last opening alone. Neither failing subscribers nor frames that do not
decode leave a trace, and nothing is told after a disconnection.

The one thing that may come in between is a delay with more seconds than can be counted.

## The architecture

* **`Call`**, **`calls`**: what subscribers see of the steps of a transport.
* **`Attempt`**, **`Answer.attempt?`**: the script of an attempt, and the answer that it stands for.
* **`contract`**: all calls of a script, the events first and the delays filled in afterwards.
* **`contract_cons`**: the contract, one attempt after another.
* **`Brings`**, **`Follows`**: what reading frames, and reading one answer, amounts to in calls.
* **`calls_run`**: the calls of a run. Induction on the script.
-/

namespace MentalPoker

/-! ## Lists up to an element -/

section Through

variable {α : Type} (p : α → Bool)

/-- The elements up to the first that passes the test, that one included. -/
def through : List α → List α
  | [] => []
  | a :: rest => if p a then [a] else a :: through rest

theorem through_append (xs ys : List α) :
    through p (xs ++ ys) = if xs.any p then through p xs else xs ++ through p ys := by
  induction xs with
  | nil => rfl
  | cons a rest ih =>
    rw [List.cons_append, through, through, ih, List.any_cons]
    cases p a with
    | true => rfl
    | false =>
      cases rest.any p with
      | true => rfl
      | false => rfl

theorem any_through (xs : List α) : (through p xs).any p = xs.any p := by
  induction xs with
  | nil => rfl
  | cons a rest ih =>
    rw [through, List.any_cons, ← ih]
    cases h : p a with
    | true => rw [if_pos rfl, List.any_cons, h, Bool.true_or, Bool.true_or]
    | false => rw [if_neg Bool.false_ne_true, List.any_cons, h]

theorem through_eq_self {xs : List α} (h : xs.any p = false) : through p xs = xs := by
  have happend := through_append p xs []
  rw [h, List.append_nil] at happend
  exact happend.trans (List.append_nil xs)

end Through

/-! ## Frames -/

namespace Frame

/-- The event in a frame, if its name is a kind and it decodes. -/
def event? [Json.Room] (f : Frame) : Option FeedEvent :=
  match FeedEvent.Kind.ofName? f.event with
  | none => none
  | some _ => (FeedEvent.decode (some f.event) (.text f.data)).toOption

/-- A frame whose name is a kind decodes or is refused; nothing else is raised over it. -/
def settles [Json.Room] (f : Frame) : Bool :=
  match FeedEvent.Kind.ofName? f.event with
  | none => true
  | some _ =>
    match FeedEvent.decode (some f.event) (.text f.data) with
    | .ok _ => true
    | .error fault => fault.failure?.isNone

end Frame

/-- The delay is the doubled base, or the limit where that is less. -/
theorem Backoff.delay_eq_min (b : Backoff) : b.delay = min (b.base * 2 ^ b.attempt) b.limit := by
  rw [Backoff.delay]
  by_cases h : b.limit < b.base * 2 ^ b.attempt
  · rw [if_pos h, min_eq_right h.le]
  · rw [if_neg h, min_eq_left (not_lt.mp h)]

namespace Sse

/-! ## Calls -/

/-- What subscribers are told, and the attempts in between. -/
inductive Call where
  | attempt
  | opened
  | event (e : FeedEvent)
  /-- An error, with the seconds until the next attempt if there is one. -/
  | error (retry : Option Binary64)
  | completed

namespace Call

def ofStep? : TransportStep → Option Call
  | .connect => some attempt
  | .opened => some opened
  | .event d => some (event d.toEvent)
  | .error _ retry => some (error (retry.map Backoff.seconds))
  | .complete => some completed
  | .wait | .sleep _ | .released => none

/-- A call after which nothing comes. -/
def isFinal : Call → Bool
  | completed | error none => true
  | _ => false

/-- The seconds that are announced can be counted. -/
def isCountable : Call → Bool
  | error (some seconds) => seconds.isFinite
  | _ => true

end Call

def calls (steps : List TransportStep) : List Call := steps.filterMap Call.ofStep?

theorem calls_append (xs ys : List TransportStep) : calls (xs ++ ys) = calls xs ++ calls ys :=
  List.filterMap_append

/-! ## Scripts -/

/-- One attempt to connect. -/
inductive Attempt where
  /-- It fails before a stream opens. -/
  | refused
  /-- A stream opens, brings frames, and is closed by the server or dropped. -/
  | stream (frames : List Frame) (closed : Bool)
  deriving DecidableEq, Repr

namespace Attempt

variable [Json.Room]

def opens : Attempt → Bool
  | refused => false
  | stream .. => true

def frames : Attempt → List Frame
  | refused => []
  | stream frames _ => frames

def closed : Attempt → Bool
  | refused => false
  | stream _ closed => closed

/-- The events of the attempt: what its frames decode to, up to the end of the feed. -/
def events (t : Attempt) : List FeedEvent :=
  through FeedEvent.isTerminal (t.frames.filterMap Frame.event?)

/-- The feed is over with this attempt. -/
def completes (s : Settings) (t : Attempt) : Bool :=
  t.events.any FeedEvent.isTerminal || (t.closed && s.completeOnClose)

/-- No other attempt follows. -/
def isLast (s : Settings) (t : Attempt) : Bool := t.completes s || !s.reconnect

/-- What is told before it is known how the attempt ends. -/
def told (t : Attempt) : List Call :=
  .attempt :: ((if t.opens then [.opened] else []) ++ t.events.map .event)

/-- What is told of the attempt, apart from the delay before the next. -/
def calls (s : Settings) (t : Attempt) : List Call :=
  t.told ++ [if t.completes s then .completed else .error none]

end Attempt

/-- The frames in the chunks of a stream. A stream that is cut ends without its last lines. -/
def framesOf (cut : Option Loss) (d : FrameDecoder) : List Bytes → Except CharsetFault (List Frame)
  | [] =>
    match cut with
    | some _ => .ok []
    | none => d.flush
  | chunk :: rest => do
    let (d, frames) ← d.feed chunk
    return frames ++ (← framesOf cut d rest)

/-- The attempt that an answer makes, unless something besides the connection fails. -/
def Answer.attempt? : Answer → Option Attempt
  | .refused (.dropped _) => some .refused
  | .refused (.broken _) | .stream _ _ _ (some (.broken _)) => none
  | .stream status contentType chunks cut =>
    if (ContentType.fault? contentType).isSome then none
    else if Status.isSuccess status then
      if Text.hasInfix mediaType (typeOf contentType) then
        match ContentType.charset contentType with
        | .error _ => none
        | .ok charset =>
          (framesOf cut (.start charset) chunks).toOption.map fun frames =>
            .stream frames cut.isNone
      else some (.stream [] false)
    else some .refused

/-! ## The contract -/

/-- Calls with their delays: an error announces what belongs to the number of errors since the last
opening. -/
def scheduled (retry : Nat → Option Binary64) : Nat → List Call → List Call
  | _, [] => []
  | _, .opened :: rest => .opened :: scheduled retry 0 rest
  | k, .error _ :: rest => .error (retry k) :: scheduled retry (k + 1) rest
  | k, call :: rest => call :: scheduled retry k rest

/-- The seconds before the next attempt after so many errors. -/
def retryIn (s : Settings) (b : Backoff) (k : Nat) : Option Binary64 :=
  if s.reconnect then some (Backoff.seconds (min (b.base * 2 ^ k) b.limit)) else none

/-- All calls of a script, after so many errors. -/
def contract [Json.Room] (s : Settings) (b : Backoff) (k : Nat) (script : List Attempt) :
    List Call :=
  scheduled (retryIn s b) k ((through (Attempt.isLast s) script).flatMap (Attempt.calls s))

section Contract

variable (s : Settings) (b : Backoff)

theorem scheduled_events (retry : Nat → Option Binary64) (k : Nat) (events : List FeedEvent)
    (rest : List Call) :
    scheduled retry k (events.map .event ++ rest) = events.map .event ++ scheduled retry k rest := by
  induction events with
  | nil => rfl
  | cons e events ih =>
    rw [List.map_cons, List.cons_append, List.cons_append, ← ih]
    rfl

/-- The number of errors that counts when an attempt ends. -/
def Attempt.errorsBefore (t : Attempt) (k : Nat) : Nat := if t.opens then 0 else k

variable [Json.Room]

theorem scheduled_told (retry : Nat → Option Binary64) (k : Nat) (t : Attempt)
    (rest : List Call) :
    scheduled retry k (t.told ++ rest) = t.told ++ scheduled retry (t.errorsBefore k) rest := by
  cases t with
  | refused => rfl
  | stream frames closed =>
    show .attempt :: .opened :: scheduled retry 0 (List.map .event _ ++ rest) = _
    rw [scheduled_events]
    rfl

/-- **The contract, one attempt after another.** -/
theorem contract_cons (k : Nat) (t : Attempt) (rest : List Attempt) :
    contract s b k (t :: rest) = t.told ++
      if t.completes s then [.completed]
      else .error (retryIn s b (t.errorsBefore k)) ::
        if s.reconnect then contract s b (t.errorsBefore k + 1) rest else [] := by
  -- what follows the last attempt of a script has no part in it
  have hlast {rest : List Attempt} (h : t.isLast s = true) :
      contract s b k (t :: rest) = scheduled (retryIn s b) k (t.calls s) := by
    rw [contract, through, if_pos h, List.flatMap_singleton]
  cases hdone : t.completes s with
  | true =>
    rw [hlast (by rw [Attempt.isLast, hdone]; rfl), Attempt.calls, scheduled_told, hdone]
    rfl
  | false =>
    cases hagain : s.reconnect with
    | false =>
      rw [hlast (by rw [Attempt.isLast, hagain, Bool.not_false, Bool.or_true]), Attempt.calls,
        scheduled_told, hdone]
      rfl
    | true =>
      have hmore : t.isLast s = false := by rw [Attempt.isLast, hdone, hagain]; rfl
      rw [contract, through, hmore, if_neg Bool.false_ne_true, List.flatMap_cons, Attempt.calls,
        List.append_assoc, scheduled_told, hdone]
      rfl

theorem mem_told {t : Attempt} {call : Call} (h : call ∈ t.told) :
    call = .attempt ∨ call = .opened ∨ ∃ e, call = .event e := by
  rcases List.mem_cons.mp h with hattempt | h
  · exact .inl hattempt
  · rcases List.mem_append.mp h with hopened | hevent
    · split at hopened
      · exact .inr (.inl (List.mem_singleton.mp hopened))
      · exact absurd hopened List.not_mem_nil
    · obtain ⟨e, -, rfl⟩ := List.mem_map.mp hevent
      exact .inr (.inr ⟨e, rfl⟩)

theorem isFinal_of_mem_told {t : Attempt} {call : Call} (h : call ∈ t.told) :
    call.isFinal = false := by
  rcases mem_told h with rfl | rfl | ⟨e, rfl⟩
  · rfl
  · rfl
  · rfl

/-- **A completion comes last**, and so does an error after which there is no other attempt.
Induction on the script. -/
theorem contract_pairwise (k : Nat) (script : List Attempt) :
    (contract s b k script).Pairwise fun call _ => call.isFinal = false := by
  induction script generalizing k with
  | nil => exact .nil
  | cons t rest ih =>
    rw [contract_cons]
    have htold : t.told.Pairwise fun call _ => call.isFinal = false :=
      List.Pairwise.imp_of_mem (R := fun _ _ => True) (fun h _ _ => isFinal_of_mem_told h)
        (List.pairwise_of_forall fun _ _ => trivial)
    refine List.pairwise_append.mpr ⟨htold, ?_, fun call h _ _ => isFinal_of_mem_told h⟩
    split
    · exact List.pairwise_singleton _ _
    · split
      · next hagain =>
        -- an error that announces a delay is not final
        refine List.pairwise_cons.mpr ⟨fun _ _ => ?_, ih _⟩
        rw [retryIn, if_pos hagain]
        rfl
      · exact List.pairwise_singleton _ _

end Contract

/-! ## Reading -/

/-- Reading brings some events, up to the end of the feed, and ends in its own way unless the feed
is over. -/
structure Brings (r : Reading) (events : List FeedEvent) (e : ReadEnd) : Prop where
  calls : calls r.steps = (through FeedEvent.isTerminal events).map .event
  ending : r.ending = if events.any FeedEvent.isTerminal then .completed else e

namespace Brings

theorem nothing (e : ReadEnd) : Brings ⟨[], e⟩ [] e := ⟨rfl, rfl⟩

theorem afterWait {g : Unit → Reading} {events : List FeedEvent} {e : ReadEnd}
    (h : Brings (g ()) events e) :
    Brings ((⟨[.wait], .goesOn⟩ : Reading).andThen g) events e := by
  rw [Reading.andThen_of_goesOn rfl]
  exact ⟨h.calls, h.ending⟩

theorem andThen {r : Reading} {g : Unit → Reading} {xs ys : List FeedEvent} {e : ReadEnd}
    (h : Brings r xs .goesOn) (hmore : Brings (g ()) ys e) :
    Brings (r.andThen g) (xs ++ ys) e := by
  obtain ⟨hcalls, hending⟩ := h
  cases hover : xs.any FeedEvent.isTerminal with
  | true =>
    -- the feed is over, so that neither the rest nor its events count
    rw [hover, if_pos rfl] at hending
    rw [Reading.andThen_of_ended (by rw [hending]; exact fun h => nomatch h)]
    refine ⟨?_, ?_⟩
    · rw [hcalls, through_append, hover, if_pos rfl]
    · rw [hending, List.any_append, hover, Bool.true_or, if_pos rfl]
  | false =>
    rw [hover, if_neg Bool.false_ne_true] at hending
    rw [Reading.andThen_of_goesOn hending]
    refine ⟨?_, ?_⟩
    · rw [calls_append, hcalls, hmore.calls, through_append, hover, if_neg Bool.false_ne_true,
        through_eq_self _ hover, List.map_append]
    · rw [hmore.ending, List.any_append, hover, Bool.false_or]

end Brings

/-- What was decoded brings its event, and what was refused brings nothing. -/
theorem brings_ofDecoded {d : Decoded FeedEvent}
    (h : ∀ fault, d = .error fault → fault.failure? = none) :
    Brings (.ofDecoded (d.map .event)) d.toOption.toList .goesOn := by
  cases d with
  | ok e =>
    refine ⟨?_, ?_⟩
    · show [Call.event e] = (through FeedEvent.isTerminal [e]).map .event
      rw [through]
      cases e.isTerminal <;> rfl
    · show (if e.isTerminal then _ else _) = if (e.isTerminal || false) = true then _ else _
      rw [Bool.or_false]
  | error fault =>
    show Brings (Reading.ofDecoded (.error fault)) [] .goesOn
    unfold Reading.ofDecoded
    dsimp only
    rw [h fault rfl]
    exact .nothing .goesOn

theorem brings_readFrame [Json.Room] {f : Frame} (h : f.settles = true) :
    Brings (readFrame f) f.event?.toList .goesOn := by
  unfold Frame.settles at h
  unfold readFrame Frame.event?
  cases hname : FeedEvent.Kind.ofName? f.event with
  | none => exact .nothing .goesOn
  | some kind =>
    rw [hname] at h
    -- what settles without a value was refused
    refine brings_ofDecoded fun fault hfault => ?_
    rw [hfault] at h
    exact Option.isNone_iff_eq_none.mp h

/-- Frames one after another. Induction on the frames. -/
theorem brings_readFrames [Json.Room] {frames : List Frame}
    (h : ∀ f ∈ frames, f.settles = true) :
    Brings (readFrames frames) (frames.filterMap Frame.event?) .goesOn := by
  induction frames with
  | nil => exact .nothing .goesOn
  | cons f rest ih =>
    have hrest := ih fun g hg => h g (List.mem_cons_of_mem f hg)
    have hboth : Brings (readFrames (f :: rest)) _ .goesOn :=
      (brings_readFrame (h f List.mem_cons_self)).andThen hrest
    have hevents : (f :: rest).filterMap Frame.event?
        = f.event?.toList ++ rest.filterMap Frame.event? := by
      rw [List.filterMap_cons]
      cases f.event? with
      | none => rfl
      | some e => rfl
    rw [hevents]
    exact hboth

/-- How a stream ends that comes to its end. -/
def closing (s : Settings) : Option Loss → ReadEnd
  | none => if s.completeOnClose then .completed else .dropped closedReason
  | some loss => loss.ending

/-- The frames of a chunk come before those of the rest. -/
theorem framesOf_cons {cut : Option Loss} {d : FrameDecoder} {chunk : Bytes} {rest : List Bytes}
    {frames : List Frame} (h : framesOf cut d (chunk :: rest) = .ok frames) :
    ∃ found more, d.feed chunk = .ok found ∧ framesOf cut found.1 rest = .ok more
      ∧ frames = found.2 ++ more := by
  unfold framesOf at h
  cases hfeed : d.feed chunk with
  | error fault =>
    rw [hfeed] at h
    cases h
  | ok found =>
    rw [hfeed] at h
    dsimp only [bind, Except.bind] at h
    cases hmore : framesOf cut found.1 rest with
    | error fault =>
      rw [hmore] at h
      cases h
    | ok more =>
      rw [hmore] at h
      cases h
      exact ⟨found, more, rfl, hmore, rfl⟩

/-- Chunks one after another. Induction on the chunks. -/
theorem brings_readChunks [Json.Room] (s : Settings) (cut : Option Loss) {d : FrameDecoder}
    {chunks : List Bytes} {frames : List Frame} (hframes : framesOf cut d chunks = .ok frames)
    (h : ∀ f ∈ frames, f.settles = true) :
    Brings (readChunks s cut d chunks) (frames.filterMap Frame.event?) (closing s cut) := by
  induction chunks generalizing d frames with
  | nil =>
    unfold framesOf at hframes
    unfold readChunks
    cases cut with
    | some loss =>
      cases hframes
      exact ⟨rfl, rfl⟩
    | none =>
      dsimp only at hframes ⊢
      rw [Reading.andThen_assoc, hframes]
      have hend := (brings_readFrames h).andThen (g := fun _ => _) (.nothing (closing s none))
      rw [List.append_nil] at hend
      exact hend.afterWait
  | cons chunk rest ih =>
    obtain ⟨found, more, hfeed, hmore, rfl⟩ := framesOf_cons hframes
    unfold readChunks
    rw [hfeed]
    dsimp only
    rw [Reading.andThen_assoc, List.filterMap_append]
    have hfound := brings_readFrames fun f hf => h f (List.mem_append_left more hf)
    have hrest := ih hmore fun f hf => h f (List.mem_append_right found.2 hf)
    exact (hfound.andThen (g := fun _ => _) hrest).afterWait

/-! ## Answers -/

section Answers

variable [Json.Room]

/-- Reading goes as an attempt says. -/
structure Follows (s : Settings) (r : Reading) (t : Attempt) : Prop where
  calls : calls r.steps = t.told
  completed : t.completes s = true → r.ending = .completed
  dropped : t.completes s = false → ∃ reason, r.ending = .dropped reason
  schedule : ∀ b : Backoff, scheduleAfter b r.steps = if t.opens then b.reset else b

theorem Attempt.told_stream (frames : List Frame) (closed : Bool) :
    (stream frames closed).told = .attempt :: .opened ::
      (through FeedEvent.isTerminal (frames.filterMap Frame.event?)).map .event := rfl

theorem follows_refused (s : Settings) (reason : Text) :
    Follows s ⟨[.connect], .dropped reason⟩ .refused where
  calls := rfl
  completed h := nomatch h
  dropped _ := ⟨reason, rfl⟩
  schedule _ := rfl

/-- **An open stream.** -/
theorem follows_stream (s : Settings) {r : Reading} {frames : List Frame} {cut : Option Loss}
    (h : Brings r (frames.filterMap Frame.event?) (closing s cut))
    (hcut : ∀ failure, cut ≠ some (.broken failure)) :
    Follows s ⟨.connect :: .opened :: r.steps, r.ending⟩ (.stream frames cut.isNone) := by
  have hover : (Attempt.stream frames cut.isNone).completes s
      = ((frames.filterMap Frame.event?).any FeedEvent.isTerminal
        || (cut.isNone && s.completeOnClose)) := by
    rw [Attempt.completes, Attempt.events, any_through]
    rfl
  refine ⟨?_, fun hdone => ?_, fun hdone => ?_, fun b => rfl⟩
  · rw [Attempt.told_stream, ← h.calls]
    rfl
  · rw [hover, Bool.or_eq_true] at hdone
    rw [h.ending]
    rcases hdone with hterminal | hclosed
    · rw [if_pos hterminal]
    · obtain ⟨hnone, hcomplete⟩ := Bool.and_eq_true_iff.mp hclosed
      rw [Option.isNone_iff_eq_none.mp hnone, closing, if_pos hcomplete, ite_self]
  · rw [hover] at hdone
    obtain ⟨hterminal, hclosed⟩ := Bool.or_eq_false_iff.mp hdone
    rw [h.ending, hterminal, if_neg Bool.false_ne_true]
    cases cut with
    | none =>
      have hlost : s.completeOnClose = false := hclosed
      rw [closing, hlost]
      exact ⟨closedReason, rfl⟩
    | some loss =>
      cases loss with
      | dropped reason => exact ⟨reason, rfl⟩
      | broken failure => exact absurd rfl (hcut failure)

theorem follows_read (s : Settings) {a : Answer} {t : Attempt} (ha : a.attempt? = some t)
    (h : ∀ f ∈ t.frames, f.settles = true) : Follows s (read s a) t := by
  unfold Answer.attempt? at ha
  split at ha
  · cases ha
    exact follows_refused s _
  · cases ha
  · cases ha
  · next status contentType chunks cut hcut =>
    unfold read
    dsimp only
    cases hfault : ContentType.fault? contentType with
    | some fault =>
      rw [hfault] at ha
      cases ha
    | none =>
      rw [hfault, Option.isSome_none, if_neg Bool.false_ne_true] at ha
      dsimp only
      cases hstatus : Status.isSuccess status with
      | false =>
        rw [hstatus] at ha
        cases ha
        exact follows_refused s _
      | true =>
        rw [hstatus, if_pos rfl] at ha
        rw [if_pos rfl]
        cases htype : Text.hasInfix mediaType (typeOf contentType) with
        | false =>
          -- the stream is open by the time that its type is looked at
          rw [htype] at ha
          cases ha
          exact ⟨rfl, (nomatch ·), fun _ => ⟨_, rfl⟩, fun _ => rfl⟩
        | true =>
          rw [htype, if_pos rfl] at ha
          rw [if_pos rfl, Reading.andThen_of_goesOn rfl]
          cases hcharset : ContentType.charset contentType with
          | error fault =>
            rw [hcharset] at ha
            cases ha
          | ok charset =>
            rw [hcharset] at ha
            dsimp only at ha
            cases hframes : framesOf cut (.start charset) chunks with
            | error fault =>
              rw [hframes] at ha
              cases ha
            | ok frames =>
              rw [hframes] at ha
              cases ha
              exact follows_stream s (brings_readChunks s cut hframes h) hcut

end Answers

/-! ## Runs -/

/-- The delay that the schedule gives is the one that the contract announces. -/
theorem retryIn_eq_seconds {s : Settings} (hagain : s.reconnect = true) (b : Backoff)
    (t : Attempt) : retryIn s b (t.errorsBefore b.attempt)
      = some (Backoff.seconds (if t.opens then b.reset else b).delay) := by
  rw [retryIn, if_pos hagain, Backoff.delay_eq_min, Attempt.errorsBefore]
  cases t.opens with
  | true => rfl
  | false => rfl

theorem contract_next [Json.Room] (s : Settings) (b : Backoff) (t : Attempt) (rest : List Attempt) :
    contract s b (t.errorsBefore b.attempt + 1) rest
      = contract s (if t.opens then b.reset else b).next
        (if t.opens then b.reset else b).next.attempt rest := by
  rw [Attempt.errorsBefore]
  cases t.opens with
  | true => rfl
  | false => rfl

theorem isCountable_of_mem_told [Json.Room] {t : Attempt} {call : Call} (h : call ∈ t.told) :
    call.isCountable = true := by
  rcases mem_told h with rfl | rfl | ⟨e, rfl⟩
  · rfl
  · rfl
  · rfl

/-- **The calls of a run** are those of the contract, up to a delay that cannot be counted.
Induction on the script. -/
theorem calls_run [Json.Room] (s : Settings) {b : Backoff} {answers : List Answer}
    {script : List Attempt} (hscript : List.Forall₂ (fun a t => a.attempt? = some t) answers script)
    (hframes : ∀ t ∈ script, ∀ f ∈ t.frames, f.settles = true) :
    calls (run s b answers).steps
      = (contract s b b.attempt script).takeWhile Call.isCountable := by
  induction hscript generalizing b with
  | nil => rfl
  | @cons a t answers script ha _ ih =>
    have hread := follows_read s ha (hframes t List.mem_cons_self)
    rw [contract_cons, List.takeWhile_append_of_pos fun call => isCountable_of_mem_told]
    unfold run
    dsimp only
    cases hdone : t.completes s with
    | true =>
      rw [hread.completed hdone]
      dsimp only
      rw [calls_append, hread.calls]
      rfl
    | false =>
      obtain ⟨reason, hend⟩ := hread.dropped hdone
      rw [hend]
      dsimp only
      rw [hread.schedule]
      cases hagain : s.reconnect with
      | false =>
        show calls ((read s a).steps ++ [_]) = _
        rw [calls_append, hread.calls, retryIn, hagain]
        rfl
      | true =>
        rw [if_neg Bool.false_ne_true, if_pos rfl, retryIn_eq_seconds hagain, contract_next,
          List.takeWhile_cons]
        -- from here on only the schedule matters that the attempt leaves
        generalize (if t.opens then b.reset else b) = c
        cases hfinite : (Backoff.seconds c.delay).isFinite with
        | true =>
          have hcounts : Backoff.isEndless c.delay = false := by rw [Backoff.isEndless, hfinite]; rfl
          have htold : Call.isCountable (.error (some (Backoff.seconds c.delay))) = true := hfinite
          rw [hcounts, htold, ← ih fun t ht => hframes t (List.mem_cons_of_mem _ ht)]
          show calls (((read s a).steps ++ [_, _]) ++ _) = _
          rw [List.append_assoc, calls_append, hread.calls]
          rfl
        | false =>
          -- the run breaks before the error is told, where the calls of the contract break off
          have hendless : Backoff.isEndless c.delay = true := by rw [Backoff.isEndless, hfinite]; rfl
          have htold : Call.isCountable (.error (some (Backoff.seconds c.delay))) = false := hfinite
          rw [hendless, htold]
          show calls (read s a).steps = t.told ++ []
          rw [hread.calls, List.append_nil]

/-- **The contract with subscribers.** As long as nobody disconnects the transport, its calls are
those of the contract, whether or not subscribers fail; only at a delay that cannot be counted do
they break off. A completion, or an error that announces no other attempt, is the last of them.
Disconnected at a wait, the transport stops there. -/
theorem callbacks_keep_contract [Json.Room] (w : Surroundings) (s : Settings) (b : Backoff)
    {answers : List Answer} {script : List Attempt}
    (hscript : List.Forall₂ (fun a t => a.attempt? = some t) answers script)
    (hframes : ∀ t ∈ script, ∀ f ∈ t.frames, f.settles = true) :
    ((∀ steps, w.disconnects steps = false) →
      calls (Task.steps w s b answers) = (contract s b 0 script).takeWhile Call.isCountable)
    ∧ calls (Task.steps w s b answers) <+: (contract s b 0 script).takeWhile Call.isCountable
    ∧ ((contract s b 0 script).Pairwise fun call _ => call.isFinal = false)
    ∧ ∀ before p after, Task.steps w s b answers = before ++ p :: after → p.suspends = true →
      w.disconnects (before ++ [p]) = true → after = [] := by
  -- the schedule is set back when the transport is connected
  have hrun : calls (run s b.reset answers).steps
      = (contract s b 0 script).takeWhile Call.isCountable :=
    calls_run s (b := b.reset) hscript hframes
  rw [Task.steps_eq_taken]
  refine ⟨fun hnever => ?_, ?_, contract_pairwise s b 0 script, fun before p after h hp hd => ?_⟩
  · rw [taken_eq_self w (disturbed_eq_false hnever [] _), hrun]
  · rw [← hrun]
    exact (isPrefix_taken w [] _).filterMap Call.ofStep?
  · exact nil_of_disconnects w h hp hd

/-- A frame as it is written in a stream. -/
def written (f : Frame) : Bytes :=
  (text "event: " ++ f.event ++ text "\ndata: " ++ f.data ++ text "\n\n").map UInt8.ofNat

/-- An event of no kind, an event that does not decode, and one that does. -/
def mixedFrames : List Frame :=
  [⟨text "ping", text "x"⟩, ⟨text "hand_completed", text "\x7b\x7d"⟩,
    ⟨text "card_decryptable",
      text "\x7b\"game_id\": 1, \"hand_id\": 7, \"seat\": 0, \"card_position\": 1\x7d"⟩]

def lastFrame : Frame :=
  ⟨text "hand_completed", text "\x7b\"game_id\": 1, \"hand_id\": 7\x7d"⟩

/-- Two attempts fail, one is dropped on the way, and the next comes to the end of the feed. -/
def patchyScript : List Attempt :=
  [.refused, .refused, .stream mixedFrames false, .stream (lastFrame :: mixedFrames) true, .refused]

def patchyAnswers : List Answer :=
  [.refused (.dropped (text "no route")), .stream 503 mediaType [] none,
    .stream 200 mediaType (mixedFrames.map written) (some (.dropped (text "reset"))),
    .stream 200 mediaType [(lastFrame :: mixedFrames).flatMap written] none,
    .refused (.dropped (text "no route"))]

/-- Whatever fails, the delays double until a stream opens, and the feed comes to its end. -/
theorem callbacks_keep_contract_patchy :
    let s : Settings := ⟨text "http://ledger.test/games/demo/stream", true, false⟩
    let told := calls (Task.steps ⟨fun _ => true, fun _ => false⟩ s .usual patchyAnswers)
    told = contract s .usual 0 patchyScript
      ∧ (told.filterMap fun call => match call with
          | .error retry => some retry
          | _ => none)
        = [1000, 2000, 1000].map fun delay => some (Backoff.seconds delay) := by
  intro s told
  have hscript : List.Forall₂ (fun a t => a.attempt? = some t) patchyAnswers patchyScript := by
    decide +kernel
  have hcalls : told = (contract s .usual 0 patchyScript).takeWhile Call.isCountable :=
    (callbacks_keep_contract ⟨fun _ => true, fun _ => false⟩ s .usual hscript
      (by decide +kernel)).1 fun _ => rfl
  rw [List.takeWhile_eq_self_iff.mpr (by decide +kernel)] at hcalls
  exact ⟨hcalls, by rw [hcalls]; decide +kernel⟩

/-- **A delay that cannot be counted** is not announced, and no other attempt follows. -/
theorem endless_delays_are_not_announced :
    let s : Settings := ⟨text "http://ledger.test/games/demo/stream", true, false⟩
    let b := Backoff.start (10 ^ 312) (10 ^ 312)
    let a := Answer.refused (.dropped (text "x"))
    a.attempt? = some .refused
      ∧ calls (Task.steps ⟨fun _ => false, fun _ => false⟩ s b [a]) ≠ contract s b 0 [.refused] := by
  refine ⟨rfl, fun h => ?_⟩
  -- the contract has an error after the attempt
  have hlength := congrArg List.length h
  revert hlength
  decide +kernel

end Sse

end MentalPoker
