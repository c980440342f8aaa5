import MentalPoker.Proofs.Session.Hearing

/-!
# Rounds of recovery in a session

A session has one round of recovery under way at most. Only a live envelope with numbers missing in
front of it starts one, for those numbers and at the address of that envelope, and only while none
is under way. While its hand goes on a round ends with its result and with nothing else.

## The architecture

* **`recoveriesIn`**: the rounds that some effects start.
* **`StartsNone`**, **`Idle`**: the parts of a reaction that start no round, or leave it alone.
* **`recoveriesIn_envelope`**: the round that a live envelope starts.
* **`run_recovery`**: a round stays under way until its result comes. Induction along the inputs.
-/

namespace MentalPoker

/-- The round of recovery that an effect starts. -/
def SessionEffect.recover? : SessionEffect → Option Recovery
  | recover r => some r
  | _ => none

/-- The rounds of recovery that some effects start, in order. -/
def SessionEffect.recoveriesIn (effects : List SessionEffect) : List Recovery :=
  effects.filterMap recover?

/-- The input is the end of a round of recovery. -/
def SessionInput.endsRound : SessionInput → Bool
  | recovered _ => true
  | _ => false

namespace SessionEffect

theorem recoveriesIn_append (xs ys : List SessionEffect) :
    recoveriesIn (xs ++ ys) = recoveriesIn xs ++ recoveriesIn ys :=
  List.filterMap_append

theorem mem_recoveriesIn {effects : List SessionEffect} {r : Recovery} :
    r ∈ recoveriesIn effects ↔ recover r ∈ effects := by
  rw [recoveriesIn, List.mem_filterMap]
  constructor
  · rintro ⟨e, he, hr⟩
    cases e <;> cases hr
    exact he
  · intro h
    exact ⟨_, h, rfl⟩

end SessionEffect

namespace Session

open SessionEffect (recoveriesIn)

/-! ## Parts that leave rounds alone -/

/-- A part that starts no round of recovery. -/
def StartsNone (f : Step) : Prop := ∀ s, recoveriesIn (f s).2 = []

theorem StartsNone.thenDo {f g : Step} (hf : StartsNone f) (hg : StartsNone g) :
    StartsNone (thenDo f g) := by
  intro s
  rw [thenDo_snd, SessionEffect.recoveriesIn_append, hf, hg, List.append_nil]

/-- A part that starts no round of recovery and ends none. -/
structure Idle (f : Step) : Prop where
  recovery : ∀ s, (f s).1.recovery = s.recovery
  starts : StartsNone f

namespace Idle

theorem skip : Idle skip := ⟨fun _ => rfl, fun _ => rfl⟩

theorem emit {e : SessionEffect} (h : e.recover? = none) : Idle (emit e) :=
  ⟨fun _ => rfl, fun _ => by simp [SessionEffect.recoveriesIn, h]⟩

theorem modify {f : Session → Session} (h : ∀ s, (f s).recovery = s.recovery) :
    Idle (modify f) :=
  ⟨h, fun _ => rfl⟩

theorem thenDo {f g : Step} (hf : Idle f) (hg : Idle g) : Idle (thenDo f g) where
  recovery s := by rw [thenDo_fst, hg.recovery, hf.recovery]
  starts := hf.starts.thenDo hg.starts

theorem inOrder {fs : List Step} (h : ∀ f ∈ fs, Idle f) : Idle (inOrder fs) := by
  induction fs with
  | nil => exact skip
  | cons f fs ih =>
    obtain ⟨hf, hfs⟩ := List.forall_mem_cons.mp h
    exact hf.thenDo (ih hfs)

theorem depending {f : Session → Step} (h : ∀ s, Idle (f s)) : Idle (depending f) where
  recovery s := (h s).recovery s
  starts s := (h s).starts s

theorem assign (state : HandState) : Idle (assign state) where
  recovery _ := rfl
  starts s := by
    rw [Session.assign, SessionEffect.recoveriesIn, List.filterMap_cons_none rfl,
      List.filterMap_map, List.filterMap_eq_nil_iff]
    intro l _
    rfl

theorem dispatch (a : Action) : Idle (dispatch a) where
  recovery s := by rw [dispatch_fst]
  starts s := by
    unfold Session.dispatch
    cases s.state.step? a with
    | none => rfl
    | some state => exact (assign state).starts s

theorem followAll (effects : List Narrator.Effect) : Idle (followAll effects) := by
  refine inOrder fun f hf => ?_
  obtain ⟨e, _, rfl⟩ := List.mem_map.mp hf
  cases e with
  | remember c => exact modify fun _ => rfl
  | cue c => exact emit rfl
  | dispatch a => exact dispatch a

theorem applyReady (deck : List Card) (ready : List (Int × Finalized)) :
    Idle (applyReady deck ready) := by
  refine inOrder fun f hf => ?_
  obtain ⟨entry, _, rfl⟩ := List.mem_map.mp hf
  exact (emit rfl).thenDo (depending fun s => followAll _)

theorem clearStall : Idle clearStall where
  recovery s := by
    simp only [Session.clearStall]
    split
    · exact (dispatch _).recovery _
    · rfl
  starts s := by
    simp only [Session.clearStall]
    split
    · exact (dispatch _).starts _
    · rfl

theorem start (settings : SessionSettings) : Idle (start settings) where
  recovery s := by
    unfold Session.start
    split <;> rfl
  starts s := by
    unfold Session.start
    split <;> rfl

end Idle

/-! ## Live envelopes -/

/-- The round that an arrival asks for, if it asks for one. -/
def roundFor (f : Finalized) (arrival : GapBuffer.Arrival Finalized) (s : Session) :
    Option Recovery :=
  if arrival.hasGap && s.recovery.isNone then
    some ⟨f.envelope.gameId, f.envelope.handId, arrival.missing⟩
  else none

theorem roundFor_eq_some {f : Finalized} {arrival : GapBuffer.Arrival Finalized} {s : Session}
    {r : Recovery} :
    roundFor f arrival s = some r ↔ (arrival.hasGap = true ∧ s.recovery = none)
      ∧ r = ⟨f.envelope.gameId, f.envelope.handId, arrival.missing⟩ := by
  rw [roundFor, Option.ite_none_right_eq_some, Bool.and_eq_true, Option.isNone_iff_eq_none,
    Option.some.injEq, eq_comm (a := r)]

theorem recoveriesIn_afterArrival (f : Finalized) (arrival : GapBuffer.Arrival Finalized)
    (s : Session) :
    recoveriesIn (afterArrival f arrival s).2 = (roundFor f arrival s).toList
      ∧ (afterArrival f arrival s).1.recovery = s.recovery.or (roundFor f arrival s) := by
  unfold afterArrival roundFor
  cases arrival.hasGap with
  | true =>
    cases hround : s.recovery with
    | none => simp [requestRecovery, hround, SessionEffect.recoveriesIn, SessionEffect.recover?]
    | some round => simp [requestRecovery, hround, SessionEffect.recoveriesIn]
  | false =>
    have hidle : Idle (depending fun s => if s.buffer.hasPending then skip else clearStall) := by
      refine .depending fun s => ?_
      split
      · exact .skip
      · exact .clearStall
    simp only [Bool.false_and, Bool.false_eq_true, if_false, Option.toList_none, Option.or_none]
    exact ⟨hidle.starts s, hidle.recovery s⟩

/-- **The round that a live envelope starts.** There is one just when numbers are missing in front
of the envelope and no round is under way: for those numbers, at the envelope's own address. -/
theorem recoveriesIn_envelope (deck : List Card) (f : Finalized) (s : Session) :
    recoveriesIn (envelope deck f s).2 = (roundFor f (s.buffer.arrive f.seqId f) s).toList
      ∧ (envelope deck f s).1.recovery
        = s.recovery.or (roundFor f (s.buffer.arrive f.seqId f) s) := by
  have hready := Idle.applyReady deck (s.buffer.arrive f.seqId f).ready
  have hround := recoveriesIn_afterArrival f (s.buffer.arrive f.seqId f)
    (applyReady deck (s.buffer.arrive f.seqId f).ready
      { s with buffer := (s.buffer.arrive f.seqId f).buffer }).1
  -- the release leaves the round alone, so what follows it sees that of the session
  simp only [roundFor, hready.recovery] at hround
  rw [envelope_apply, thenDo_fst, thenDo_snd, SessionEffect.recoveriesIn_append, hready.starts,
    List.nil_append]
  exact hround

/-! ## A round that is under way -/

/-- **One input** of a hand that goes on leaves the round that is under way, unless it is the result
of the round. -/
theorem react_recovery (settings : SessionSettings) {s : Session} {r : Recovery}
    (h : s.recovery = some r) {i : SessionInput} (hi : i.continues s = true)
    (hround : i.endsRound = false) : (react settings i s).1.recovery = some r := by
  rw [← h]
  cases i with
  | event e =>
    cases e with
    | handCreated hand => cases hi
    | gameEvent f =>
      show (envelope settings.deck f s).1.recovery = s.recovery
      rw [(recoveriesIn_envelope settings.deck f s).2, h, Option.some_or]
    | _ => exact (Idle.followAll _).recovery s
  | recovered result => cases hround
  | start => exact (Idle.start settings).recovery s
  | opened =>
    have hopened : s.opened = false := by simpa [SessionInput.continues] using hi
    simp only [react, opening, hopened, Bool.false_eq_true, if_false, inOrder_three, thenDo_fst,
      skip_apply, modify_apply]
    exact (Idle.dispatch _).recovery _
  | failed message =>
    have hmodify : Idle (modify fun s => { s with status := .error }) := .modify fun _ => rfl
    exact (hmodify.thenDo (.dispatch _)).recovery s
  | completed | listen | unlisten => rfl
  | kindOnly | beginHand | reset | close => cases hi

/-- **A run** of inputs without a result leaves the round under way. Induction along the inputs. -/
theorem run_recovery (settings : SessionSettings) {inputs : List SessionInput} {s : Session}
    {r : Recovery} (h : s.recovery = some r) (hgoes : goesOn settings s inputs = true)
    (hrounds : ∀ i ∈ inputs, i.endsRound = false) :
    (run settings inputs s).1.recovery = some r := by
  induction inputs generalizing s with
  | nil => exact h
  | cons i rest ih =>
    obtain ⟨hi, hrest⟩ := List.forall_mem_cons.mp hrounds
    rw [goesOn, Bool.and_eq_true] at hgoes
    rw [run_cons, thenDo_fst]
    exact ih (react_recovery settings h hgoes.1 hi) hgoes.2 hrest

end Session

end MentalPoker
