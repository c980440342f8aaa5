import MentalPoker.Feed.Sse.Task

/-!
# What can disturb the stream transport

Two things from outside reach into the task of the stream transport, and both are raised in the
middle of it. A failing subscriber changes nothing: what it raises is caught where it was told. A
disconnection ends the task at the wait where it is made: what it raises is caught nowhere. So the
task takes the steps of `Sse.run`, all of them, or those up to the first wait at which it is
disconnected.

## The architecture

* **`taken`**: the steps up to the first wait at which the surroundings disconnect.
* **`Does`**: a task takes some steps, unless it is disconnected, and comes to a result; with a
  lemma for each way in which tasks are joined.
* **`does_readFrames`**, **`reads_chunks`**, **`does_readStream`**: what reading does, next to
  the functions that say what comes of it. Induction on the frames and on the chunks.
* **`does_loop`**: the loop. Induction on the answers.
-/

namespace MentalPoker

/-- A step at which the task is suspended. -/
def TransportStep.suspends : TransportStep → Bool
  | connect | wait | sleep _ => true
  | _ => false

namespace Sse

/-! ## Steps up to a disconnection -/

section Steps

variable (w : Surroundings)

/-- The surroundings disconnect the transport at a wait among the steps. -/
def disturbed (past : List TransportStep) : List TransportStep → Bool
  | [] => false
  | p :: rest => (p.suspends && w.disconnects (past ++ [p])) || disturbed (past ++ [p]) rest

/-- The steps up to the first wait at which the surroundings disconnect the transport. -/
def taken (past : List TransportStep) : List TransportStep → List TransportStep
  | [] => []
  | p :: rest =>
    if p.suspends && w.disconnects (past ++ [p]) then [p] else p :: taken (past ++ [p]) rest

theorem taken_eq_self {past steps : List TransportStep} (h : disturbed w past steps = false) :
    taken w past steps = steps := by
  induction steps generalizing past with
  | nil => rfl
  | cons p rest ih =>
    obtain ⟨hp, hrest⟩ := Bool.or_eq_false_iff.mp h
    rw [taken, hp, ih hrest]
    rfl

theorem disturbed_eq_false {w : Surroundings} (h : ∀ steps, w.disconnects steps = false)
    (past steps : List TransportStep) : disturbed w past steps = false := by
  induction steps generalizing past with
  | nil => rfl
  | cons p rest ih => rw [disturbed, h, ih, Bool.and_false, Bool.or_false]

theorem disturbed_append (past xs ys : List TransportStep) :
    disturbed w past (xs ++ ys) = (disturbed w past xs || disturbed w (past ++ xs) ys) := by
  induction xs generalizing past with
  | nil => rw [List.append_nil, List.nil_append]; rfl
  | cons p rest ih =>
    rw [List.cons_append, disturbed, ih, disturbed, Bool.or_assoc, List.append_assoc past [p] rest]
    rfl

theorem taken_append (past xs ys : List TransportStep) :
    taken w past (xs ++ ys)
      = if disturbed w past xs then taken w past xs else xs ++ taken w (past ++ xs) ys := by
  induction xs generalizing past with
  | nil => rw [List.append_nil, List.nil_append]; rfl
  | cons p rest ih =>
    rw [List.cons_append, taken, ih, disturbed, taken, List.append_assoc past [p] rest]
    cases p.suspends && w.disconnects (past ++ [p]) with
    | true => rfl
    | false =>
      cases disturbed w (past ++ [p]) rest with
      | true => rfl
      | false => rfl

/-- **Nothing follows a disconnection** that is made at a wait. -/
theorem nil_of_disconnects {past steps before after : List TransportStep} {p : TransportStep}
    (h : taken w past steps = before ++ p :: after) (hp : p.suspends = true)
    (hdisconnects : w.disconnects (past ++ before ++ [p]) = true) : after = [] := by
  induction steps generalizing past before with
  | nil =>
    rw [taken] at h
    exact absurd h.symm (by simp)
  | cons q rest ih =>
    rw [taken] at h
    cases before with
    | nil =>
      rw [List.append_nil] at hdisconnects
      split at h
      · cases h
        rfl
      · next hgoes =>
        -- the wait itself was passed, so nobody disconnected there
        cases h
        rw [hp, hdisconnects] at hgoes
        exact absurd rfl hgoes
    | cons q' before =>
      split at h
      · exact absurd h (by simp)
      · rw [List.cons_append, List.cons.injEq] at h
        obtain ⟨rfl, hrest⟩ := h
        refine ih hrest ?_
        rw [List.append_assoc past [q] before]
        exact hdisconnects

theorem isPrefix_taken (past steps : List TransportStep) : taken w past steps <+: steps := by
  induction steps generalizing past with
  | nil => exact List.prefix_refl []
  | cons p rest ih =>
    rw [taken]
    split
    · exact List.prefix_append [p] rest
    · exact (List.prefix_cons_inj p).mpr (ih _)

end Steps

/-! ## Tasks -/

namespace Task

variable {α β : Type}

theorem exec_bind (m : Task α) (f : α → Task β) (st : TaskState) :
    exec (m >>= f) st = match exec m st with
      | (.ok a, st) => exec (f a) st
      | (.error e, st) => (.error e, st) := by
  unfold exec ExceptT.run StateT.run
  simp only [bind, ExceptT.bind, ExceptT.mk, StateT.bind, ExceptT.bindCont]
  cases m st with
  | mk result st => cases result <;> rfl

theorem exec_tryCatch (m : Task α) (f : Raised → Task α) (st : TaskState) :
    exec (tryCatch m f) st = match exec m st with
      | (.ok a, st) => (.ok a, st)
      | (.error e, st) => exec (f e) st := by
  unfold exec ExceptT.run StateT.run
  simp only [tryCatch, tryCatchThe, MonadExceptOf.tryCatch, ExceptT.tryCatch, ExceptT.mk, bind,
    StateT.bind]
  cases m st with
  | mk result st => cases result <;> rfl

/-- The task takes some steps and comes to a result, with a schedule before and one after. When it
is disconnected on the way it goes no further, and is cancelled. -/
structure Does (w : Surroundings) (m : Task α) (b : Backoff) (steps : List TransportStep)
    (c : Backoff) (r : Except Raised α) : Prop where
  goesOn : ∀ past, disturbed w past steps = false →
    exec m ⟨past, b⟩ = (r, ⟨past ++ steps, c⟩)
  stops : ∀ past, disturbed w past steps = true →
    ∃ left, exec m ⟨past, b⟩ = (.error .cancelled, ⟨past ++ taken w past steps, left⟩)

namespace Does

variable {w : Surroundings} {m : Task α} {b c d : Backoff} {steps l : List TransportStep}

/-- What takes no step. -/
theorem still {r : Except Raised α} (h : ∀ past, exec m ⟨past, b⟩ = (r, ⟨past, c⟩)) :
    Does w m b [] c r where
  goesOn past _ := by rw [List.append_nil]; exact h past
  stops past hd := nomatch hd

theorem pure (a : α) : Does w (pure a) b [] b (.ok a) := still fun _ => rfl

theorem throw (e : Raised) : Does w (throw e : Task α) b [] b (.error e) := still fun _ => rfl

theorem bind {a : α} {f : α → Task β} {r : Except Raised β} (h : Does w m b steps c (.ok a))
    (hf : Does w (f a) c l d r) : Does w (m >>= f) b (steps ++ l) d r where
  goesOn past hd := by
    rw [disturbed_append] at hd
    obtain ⟨hfirst, hsecond⟩ := Bool.or_eq_false_iff.mp hd
    rw [exec_bind, h.goesOn past hfirst, ← List.append_assoc]
    exact hf.goesOn (past ++ steps) hsecond
  stops past hd := by
    rw [disturbed_append] at hd
    rw [taken_append, exec_bind]
    cases hfirst : disturbed w past steps with
    | true =>
      obtain ⟨left, hleft⟩ := h.stops past hfirst
      rw [hleft]
      exact ⟨left, rfl⟩
    | false =>
      -- the first part runs through, and the second is cancelled
      rw [hfirst, Bool.false_or] at hd
      obtain ⟨left, hleft⟩ := hf.stops (past ++ steps) hd
      rw [h.goesOn past hfirst, if_neg Bool.false_ne_true, ← List.append_assoc]
      exact ⟨left, hleft⟩

theorem bind_error {e : Raised} {f : α → Task β} (h : Does w m b steps c (.error e)) :
    Does w (m >>= f) b steps c (.error e) where
  goesOn past hd := by rw [exec_bind, h.goesOn past hd]
  stops past hd := by
    obtain ⟨left, hleft⟩ := h.stops past hd
    rw [exec_bind, hleft]
    exact ⟨left, rfl⟩

section Handlers

/-! A cancellation goes through a handler that does not take it. -/

variable {f : Raised → Task α} (hf : f .cancelled = MonadExcept.throw .cancelled)
include hf

theorem tryCatch_ok {a : α} (h : Does w m b steps c (.ok a)) :
    Does w (tryCatch m f) b steps c (.ok a) where
  goesOn past hd := by rw [exec_tryCatch, h.goesOn past hd]
  stops past hd := by
    obtain ⟨left, hleft⟩ := h.stops past hd
    rw [exec_tryCatch, hleft]
    dsimp only
    rw [hf]
    exact ⟨left, rfl⟩

theorem tryCatch_error {e : Raised} {r : Except Raised α} (h : Does w m b steps c (.error e))
    (he : Does w (f e) c [] c r) : Does w (tryCatch m f) b steps c r where
  goesOn past hd := by
    have hhandled := he.goesOn (past ++ steps) rfl
    rw [List.append_nil] at hhandled
    rw [exec_tryCatch, h.goesOn past hd]
    exact hhandled
  stops past hd := by
    obtain ⟨left, hleft⟩ := h.stops past hd
    rw [exec_tryCatch, hleft]
    dsimp only
    rw [hf]
    exact ⟨left, rfl⟩

end Handlers

theorem disturbed_singleton (past : List TransportStep) (p : TransportStep) :
    disturbed w past [p] = (p.suspends && w.disconnects (past ++ [p])) := Bool.or_false _

/-- **A wait** is where a disconnection takes hold. -/
theorem await {p : TransportStep} (hp : p.suspends = true) :
    Does w (await w p) b [p] b (.ok ()) := by
  have hexec (past : List TransportStep) : exec (Task.await w p) ⟨past, b⟩
      = if w.disconnects (past ++ [p]) then (.error .cancelled, ⟨past ++ [p], b⟩)
        else (.ok (), ⟨past ++ [p], b⟩) := by
    show exec (if w.disconnects (past ++ [p]) then _ else _) ⟨past ++ [p], b⟩ = _
    cases w.disconnects (past ++ [p]) <;> rfl
  refine ⟨fun past hd => ?_, fun past hd => ?_⟩
  · rw [disturbed_singleton, hp, Bool.true_and] at hd
    rw [hexec, hd]
    rfl
  · rw [disturbed_singleton, hp, Bool.true_and] at hd
    rw [hexec, taken, hp, hd]
    exact ⟨b, rfl⟩

/-- **A call** is the same whether or not its subscriber fails. -/
theorem safeCall {p : TransportStep} (hp : p.suspends = false) :
    Does w (safeCall w p) b [p] b (.ok ()) := by
  have htell (past : List TransportStep) : exec (tell w p) ⟨past, b⟩
      = if w.fails (past ++ [p]) then (.error .subscriber, ⟨past ++ [p], b⟩)
        else (.ok (), ⟨past ++ [p], b⟩) := by
    show exec (if w.fails (past ++ [p]) then _ else _) ⟨past ++ [p], b⟩ = _
    cases w.fails (past ++ [p]) <;> rfl
  refine ⟨fun past _ => ?_, fun past hd => ?_⟩
  · rw [Task.safeCall, exec_tryCatch, htell]
    cases w.fails (past ++ [p]) with
    | true => rfl
    | false => rfl
  · rw [disturbed_singleton, hp] at hd
    cases hd

end Does

end Task

end Sse

/-! ## Reading -/

namespace Reading

theorem andThen_of_goesOn {r : Reading} (h : r.ending = .goesOn) (more : Unit → Reading) :
    r.andThen more = ⟨r.steps ++ (more ()).steps, (more ()).ending⟩ := by
  rw [andThen, h]

theorem andThen_of_ended {r : Reading} (h : r.ending ≠ .goesOn) (more : Unit → Reading) :
    r.andThen more = r := by
  unfold andThen
  split
  · next hgoes => exact absurd hgoes h
  · rfl

theorem andThen_assoc (r : Reading) (f g : Unit → Reading) :
    (r.andThen f).andThen g = r.andThen fun _ => (f ()).andThen g := by
  by_cases h : r.ending = .goesOn
  · rw [andThen_of_goesOn h, andThen_of_goesOn h]
    by_cases hf : (f ()).ending = .goesOn
    · rw [andThen_of_goesOn hf,
        andThen_of_goesOn (r := ⟨r.steps ++ (f ()).steps, (f ()).ending⟩) hf, List.append_assoc]
    · rw [andThen_of_ended hf,
        andThen_of_ended (r := ⟨r.steps ++ (f ()).steps, (f ()).ending⟩) hf]
  · rw [andThen_of_ended h, andThen_of_ended h, andThen_of_ended h]

end Reading

namespace Sse

/-- What comes of reading a part of the feed, in the task: whether the feed is over, or what is
raised. -/
def inTask : ReadEnd → Except Raised Bool
  | .goesOn => .ok false
  | .completed => .ok true
  | .dropped reason => .error (.lost reason)
  | .broken failure => .error (.failed failure)

/-- What comes of reading a whole stream. A clean close raises nothing, so it comes back as the end
of a stream with which the feed is not over. -/
inductive Ends : ReadEnd → Except Raised Bool → Prop where
  | same (e : ReadEnd) : Ends e (inTask e)
  | closed : Ends (.dropped closedReason) (.ok false)

namespace Task

/-- The task takes the steps of a reading, and what it comes to is related to what comes of it. -/
def Reads (w : Surroundings) (Q : ReadEnd → Except Raised Bool → Prop) (m : Task Bool)
    (b : Backoff) (r : Reading) : Prop :=
  ∃ result, Q r.ending result ∧ Does w m b r.steps b result

section Reading

variable {w : Surroundings} {b : Backoff} {Q : ReadEnd → Except Raised Bool → Prop}

theorem Reads.afterWait {p : TransportStep} (hp : p.suspends = true) {k : Task Bool} {r : Reading}
    (h : Reads w Q k b r) :
    Reads w Q (do await w p; k) b ((⟨[p], .goesOn⟩ : Reading).andThen fun _ => r) := by
  obtain ⟨result, hresult, hdoes⟩ := h
  exact ⟨result, hresult, (Does.await hp).bind hdoes⟩

/-- Reading goes on unless it came to an end. -/
theorem Reads.andThen {m k : Task Bool} {r : Reading} {g : Unit → Reading}
    (hQ : ∀ e, Q e (inTask e))
    (h : Does w m b r.steps b (inTask r.ending)) (hk : Reads w Q k b (g ())) :
    Reads w Q (do if ← m then return true else k) b (r.andThen g) := by
  by_cases hgoes : r.ending = .goesOn
  · -- then the rest is read, and decides what it comes to
    rw [hgoes] at h
    rw [Reading.andThen_of_goesOn hgoes]
    obtain ⟨result, hresult, hdoes⟩ := hk
    exact ⟨result, hresult, h.bind hdoes⟩
  · rw [Reading.andThen_of_ended hgoes]
    refine ⟨inTask r.ending, hQ r.ending, ?_⟩
    cases hend : r.ending with
    | goesOn => exact absurd hend hgoes
    | completed =>
      rw [hend] at h
      have hover := h.bind (f := fun ended => if ended = true then return true else k) (.pure true)
      rw [List.append_nil] at hover
      exact hover
    | dropped reason =>
      rw [hend] at h
      exact h.bind_error
    | broken failure =>
      rw [hend] at h
      exact h.bind_error

theorem does_readFrame [Json.Room] (f : Frame) :
    Does w (readFrame w f) b (Sse.readFrame f).steps b (inTask (Sse.readFrame f).ending) := by
  unfold readFrame Sse.readFrame
  cases FeedEvent.Kind.ofName? f.event with
  | none => exact .pure false
  | some kind =>
    dsimp only
    cases FeedEvent.decode (some f.event) (.text f.data) with
    | error fault =>
      show Does w _ b (Reading.ofDecoded (.error fault)).steps b
        (inTask (Reading.ofDecoded (.error fault)).ending)
      unfold Reading.ofDecoded
      dsimp only
      cases fault.failure? with
      | none => exact .pure false
      | some failure => exact .throw _
    | ok e =>
      have htold := (Does.safeCall (w := w) (b := b) (p := .event (.event e)) rfl).bind
        (f := fun _ => return e.isTerminal) (.pure e.isTerminal)
      have hend : inTask (Reading.ofDecoded (.ok (.event e))).ending = .ok e.isTerminal := by
        show inTask (if e.isTerminal then .completed else .goesOn) = _
        cases e.isTerminal <;> rfl
      show Does w _ b [.event (.event e)] b (inTask (Reading.ofDecoded (.ok (.event e))).ending)
      rw [hend]
      exact htold

/-- Frames one after another. Induction on the frames. -/
theorem does_readFrames [Json.Room] (frames : List Frame) :
    Does w (readFrames w frames) b (Sse.readFrames frames).steps b
      (inTask (Sse.readFrames frames).ending) := by
  induction frames with
  | nil => exact .pure false
  | cons f rest ih =>
    obtain ⟨result, hresult, hdoes⟩ := Reads.andThen (Q := fun e result => result = inTask e)
      (g := fun _ => Sse.readFrames rest) (fun _ => rfl) (does_readFrame f) ⟨_, rfl, ih⟩
    rw [hresult] at hdoes
    exact hdoes

theorem reads_loss (loss : Loss) : Reads w Ends (raiseLoss loss) b ⟨[], loss.ending⟩ := by
  cases loss with
  | dropped reason => exact ⟨_, .same _, .throw _⟩
  | broken failure => exact ⟨_, .same _, .throw _⟩

theorem reads_failure (failure : Failure) :
    Reads w Ends (throw (.failed failure)) b ⟨[], .broken failure⟩ :=
  ⟨_, .same _, .throw _⟩

theorem reads_close (s : Settings) :
    Reads w Ends (pure s.completeOnClose) b
      ⟨[], if s.completeOnClose then .completed else .dropped closedReason⟩ := by
  cases s.completeOnClose with
  | true => exact ⟨_, .same .completed, .pure true⟩
  | false => exact ⟨_, .closed, .pure false⟩

/-- Chunks one after another, each behind a wait. Induction on the chunks. -/
theorem reads_chunks [Json.Room] (s : Settings) (cut : Option Loss) (d : FrameDecoder)
    (chunks : List Bytes) :
    Reads w Ends (readChunks w s cut d chunks) b (Sse.readChunks s cut d chunks) := by
  induction chunks generalizing d with
  | nil =>
    unfold readChunks Sse.readChunks
    cases cut with
    | some loss => exact (reads_loss loss).afterWait rfl
    | none =>
      dsimp only
      rw [Reading.andThen_assoc]
      cases d.flush with
      | error fault => exact (reads_failure (.charset fault)).afterWait rfl
      | ok frames =>
        have hclose : Reads w Ends _ b _ :=
          Reads.andThen (g := fun _ => _) .same (does_readFrames frames) (reads_close s)
        exact hclose.afterWait rfl
  | cons chunk rest ih =>
    unfold readChunks Sse.readChunks
    cases d.feed chunk with
    | error fault => exact (reads_failure (.charset fault)).afterWait rfl
    | ok found =>
      dsimp only
      rw [Reading.andThen_assoc]
      have hmore : Reads w Ends _ b _ :=
        Reads.andThen (g := fun _ => _) .same (does_readFrames found.2) (ih found.1)
      exact hmore.afterWait rfl

/-- **One stream.** The schedule is set back when the stream opens. -/
theorem does_readStream [Json.Room] (s : Settings) (a : Answer) :
    ∃ result, Ends (read s a).ending result
      ∧ Does w (readStream w s a) b (read s a).steps (scheduleAfter b (read s a).steps)
        result := by
  -- without an opening the schedule stays as it is
  have hunopened {k : Task Bool} {e : ReadEnd} (h : Reads w Ends k b ⟨[], e⟩) :
      ∃ result, Ends e result ∧ Does w (do await w .connect; k) b [.connect] b result := by
    obtain ⟨result, hresult, hdoes⟩ := h
    exact ⟨result, hresult, (Does.await rfl).bind hdoes⟩
  have hopened {k : Task Bool} {r : Reading} (h : Reads w Ends k b.reset r) :
      ∃ result, Ends r.ending result ∧ Does w (do
        await w .connect
        modify fun st => { st with backoff := st.backoff.reset }
        safeCall w .opened
        k) b (.connect :: .opened :: r.steps) b.reset result := by
    obtain ⟨result, hresult, hdoes⟩ := h
    have hreset : Does w (modify fun st => { st with backoff := st.backoff.reset }) b [] b.reset
        (.ok ()) := .still fun _ => rfl
    exact ⟨result, hresult,
      (Does.await rfl).bind (hreset.bind ((Does.safeCall rfl).bind hdoes))⟩
  unfold readStream read
  cases a with
  | refused loss => exact hunopened (reads_loss loss)
  | stream status contentType chunks cut =>
    dsimp only
    cases ContentType.fault? contentType with
    | some fault => exact hunopened (reads_failure (.charset fault))
    | none =>
      dsimp only
      cases Status.isSuccess status with
      | false => exact hunopened ⟨_, .same _, .throw _⟩
      | true =>
        cases Text.hasInfix mediaType (typeOf contentType) with
        | false => exact hopened (r := ⟨[], _⟩) ⟨_, .same _, .throw _⟩
        | true =>
          cases ContentType.charset contentType with
          | error fault => exact hopened (reads_failure (.charset fault))
          | ok charset => exact hopened (reads_chunks s cut (.start charset) chunks)

/-! ## The loop -/

/-- Why a stream ended, in the task: nothing when the feed is over with it. -/
def reason : ReadEnd → Except Raised (Option Text)
  | .completed => .ok none
  | .dropped reason => .ok (some reason)
  | .broken failure => .error (.failed failure)
  | .goesOn => .ok (some closedReason)

theorem does_reasonOf {m : Task Bool} {c : Backoff} {steps : List TransportStep} {e : ReadEnd}
    {result : Except Raised Bool} (hend : Ends e result) (h : Does w m b steps c result) :
    Does w (reasonOf m) b steps c (reason e) := by
  have hvalue {ended : Bool} (h : Does w m b steps c (.ok ended)) :
      Does w (reasonOf m) b steps c (.ok (if ended then none else some closedReason)) := by
    have hbind := h.bind (f := fun ended => if ended = true then return none
      else return some closedReason) (r := .ok (if ended then none else some closedReason))
      (d := c) (l := []) (by cases ended <;> exact .pure _)
    rw [List.append_nil] at hbind
    exact hbind.tryCatch_ok (f := takeLoss) rfl
  cases hend with
  | closed => exact hvalue h
  | same =>
    cases e with
    | goesOn => exact hvalue h
    | completed => exact hvalue h
    | dropped reason => exact h.bind_error.tryCatch_error (f := takeLoss) rfl (.pure (some reason))
    | broken failure =>
      exact h.bind_error.tryCatch_error (f := takeLoss) rfl (.throw (.failed failure))

end Reading

end Task

/-- A stream comes to an end: what follows its last chunk does. -/
theorem readChunks_ends [Json.Room] (s : Settings) (cut : Option Loss) (d : FrameDecoder)
    (chunks : List Bytes) : (readChunks s cut d chunks).ending ≠ .goesOn := by
  have hlast (r : Reading) {more : Unit → Reading} (hmore : (more ()).ending ≠ .goesOn) :
      (r.andThen more).ending ≠ .goesOn := by
    by_cases hr : r.ending = .goesOn
    · rw [Reading.andThen_of_goesOn hr]
      exact hmore
    · rw [Reading.andThen_of_ended hr]
      exact hr
  induction chunks generalizing d with
  | nil =>
    unfold readChunks
    cases cut with
    | some loss => cases loss <;> exact fun h => nomatch h
    | none =>
      refine hlast _ ?_
      cases s.completeOnClose <;> exact fun h => nomatch h
  | cons chunk rest ih =>
    unfold readChunks
    cases d.feed chunk with
    | error fault => exact fun h => nomatch h
    | ok found => exact hlast _ (ih found.1)

theorem read_ends [Json.Room] (s : Settings) (a : Answer) : (read s a).ending ≠ .goesOn := by
  unfold read
  cases a with
  | refused loss => cases loss <;> exact fun h => nomatch h
  | stream status contentType chunks cut =>
    dsimp only
    split
    · exact fun h => nomatch h
    · split
      · split
        · rw [Reading.andThen_of_goesOn rfl]
          cases ContentType.charset contentType with
          | error fault => exact fun h => nomatch h
          | ok charset => exact readChunks_ends s cut (.start charset) chunks
        · exact fun h => nomatch h
      · exact fun h => nomatch h

/-- How the task stands in the end. -/
def standing : TransportEnd → Except Raised Unit
  | .finished => .ok ()
  | .broken failure => .error (.failed failure)
  | .waiting => .error .silence

theorem Task.does_nextDelay (w : Surroundings) (b : Backoff) :
    Does w nextDelay b [] b.next
      (if Backoff.isEndless b.delay then .error (.failed .endlessDelay) else .ok b.delay) := by
  refine .still fun past => ?_
  show exec (if Backoff.isEndless b.delay then _ else _) ⟨past, b.next⟩ = _
  cases Backoff.isEndless b.delay <;> rfl

theorem Task.does_retry {w : Surroundings} {b c : Backoff} {again : Task Unit}
    {l : List TransportStep} {r : Except Raised Unit} (h : Does w again b l c r) (delay : Rat) :
    Does w (retry w delay again) b
      ([.error (Backoff.message delay) (some delay), .sleep delay] ++ l) c r :=
  (Does.safeCall rfl).bind ((Does.await rfl).bind h)

/-- **The loop** takes the steps of the transport. Induction on the answers. -/
theorem Task.does_loop [Json.Room] (w : Surroundings) (s : Settings) (b : Backoff)
    (answers : List Answer) :
    ∃ c, Does w (loop w s answers) b (run s b answers).steps c
      (standing (run s b answers).ending) := by
  induction answers generalizing b with
  | nil => exact ⟨b, .throw .silence⟩
  | cons a rest ih =>
    obtain ⟨result, hresult, hdoes⟩ := does_readStream (w := w) (b := b) s a
    have hreason := does_reasonOf hresult hdoes
    have hstream {l : List TransportStep} {c : Backoff} {o : Option Text} {r : Except Raised Unit}
        (hend : reason (read s a).ending = .ok o)
        (h : Does w (afterStream w s o (loop w s rest)) (scheduleAfter b (read s a).steps) l c r) :
        ∃ c, Does w (loop w s (a :: rest)) b ((read s a).steps ++ l) c r := by
      rw [hend] at hreason
      exact ⟨c, hreason.bind h⟩
    unfold run
    dsimp only
    cases hend : (read s a).ending with
    | goesOn => exact absurd hend (read_ends s a)
    | completed => exact hstream (by rw [hend]; rfl) (.safeCall rfl)
    | broken failure =>
      rw [hend] at hreason
      exact ⟨_, hreason.bind_error⟩
    | dropped reason =>
      have hlost : Task.reason (read s a).ending = .ok (some reason) := by rw [hend]; rfl
      have hdelay := does_nextDelay w (scheduleAfter b (read s a).steps)
      generalize scheduleAfter b (read s a).steps = opened at hstream hdelay ⊢
      dsimp only
      cases hreconnect : s.reconnect with
      | false =>
        refine hstream hlost (c := opened) ?_
        rw [afterStream, afterLoss, hreconnect]
        exact .safeCall rfl
      | true =>
        have hagain {l : List TransportStep} {c : Backoff} {r : Except Raised Unit}
            (h : Does w (do retry w (← nextDelay) (loop w s rest)) opened l c r) :
            Does w (afterStream w s (some reason) (loop w s rest)) opened l c r := by
          rw [afterStream, afterLoss, hreconnect]
          exact h
        by_cases hendless : Backoff.isEndless opened.delay = true
        · -- the failure is raised before the error is told
          rw [if_pos hendless] at hdelay
          have hfailed := hstream hlost (hagain hdelay.bind_error)
          rw [List.append_nil] at hfailed
          rw [if_pos hendless]
          exact hfailed
        · rw [if_neg hendless] at hdelay
          obtain ⟨c, hrest⟩ := ih opened.next
          have hretry := hstream hlost (hagain (hdelay.bind (does_retry hrest opened.delay)))
          rw [if_neg hendless, TransportRun.after, List.append_assoc]
          exact hretry

/-- **The steps of the task** are those of the transport, up to the first wait at which it is
disconnected. What subscribers do plays no part in it. -/
theorem Task.steps_eq_taken [Json.Room] (w : Surroundings) (s : Settings) (b : Backoff)
    (answers : List Answer) :
    Task.steps w s b answers = taken w [] (run s b.reset answers).steps := by
  obtain ⟨c, hdoes⟩ := does_loop w s b.reset answers
  unfold Task.steps
  cases hd : disturbed w [] (run s b.reset answers).steps with
  | true =>
    obtain ⟨left, hleft⟩ := hdoes.stops [] hd
    rw [hleft, List.nil_append]
  | false => rw [hdoes.goesOn [] hd, taken_eq_self w hd, List.nil_append]

end Sse

end MentalPoker
