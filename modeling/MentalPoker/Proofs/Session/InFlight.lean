import MentalPoker.Proofs.Happenings
import MentalPoker.Proofs.Ledger.Answers
import MentalPoker.Proofs.Session.OtherHands

/-!
# Rounds in flight

A round of recovery is started by a session and comes to its end elsewhere, at any time and between
any other inputs. The session holds no more than the round under way, and a round that it gives up
delivers nothing. A scene is a session together with the rounds in flight, those that were started,
have not ended and were not given up. At most one is in flight at any time, it is the one that the
session holds, and what an announcement, a reopening or a reset finds in flight never ends after it.

## The architecture

* **`Scene`**, **`Happening`**: the rounds in flight, and what can happen next. The bookkeeping goes
  by what the session does: the rounds that it starts, and the round that it no longer holds.
* **`Scene.Disciplined`**: the invariant. One case for each kind of happening.
* **`roundAhead`**: the round that an envelope asks for; **`recoveriesIn_disciplined`** says when it
  is started.
* **`Scene.Since`**: whatever is in flight was started since a point in time.
-/

namespace MentalPoker

namespace Session

open SessionEffect (appliedIn recoveriesIn)

/-! ## What an input does to the rounds -/

/-- An input that starts over brings no live envelope. -/
theorem envelope?_of_startsOver {s : Session} {i : SessionInput} (h : i.startsOver s = true) :
    i.envelope? = none := by
  cases i with
  | event e | beginHand e key =>
    cases e with
    | gameEvent f => cases h
    | _ => rfl
  | _ => rfl

/-- An input that is not the end of a round starts none, and leaves the session with the round that
it held or with none; or it starts a round where the session held none. -/
theorem rounds_cases (settings : SessionSettings) {i : SessionInput} (hi : i.endsRound = false)
    (s : Session) :
    (recoveriesIn (react settings i s).2 = []
        ∧ ((react settings i s).1.recovery = none ∨ (react settings i s).1.recovery = s.recovery))
      ∨ ∃ round, s.recovery = none ∧ (react settings i s).1.recovery = some round
        ∧ recoveriesIn (react settings i s).2 = [round] := by
  rcases intake_cases settings i s with ⟨hover, hfresh⟩ | ⟨f, hf, _⟩ | ⟨_, rfl, _⟩ | ⟨hnone, hsame⟩
  · have hstarts := startsNone_react settings (envelope?_of_startsOver hover) s
    exact .inl ⟨hstarts, .inl (congrArg Intake.recovery hfresh)⟩
  · obtain ⟨hstarts, hrecovery⟩ := recoveriesIn_live settings hf s
    rw [hstarts, hrecovery]
    cases hround : roundFor f (s.buffer.arrive f.seqId f) s with
    | none => exact .inl ⟨rfl, .inr (Option.or_none)⟩
    | some round =>
      have hidle := (roundFor_eq_some.mp hround).1.2
      exact .inr ⟨round, hidle, by rw [hidle, Option.none_or], rfl⟩
  · cases hi
  · exact .inl ⟨startsNone_react settings hnone s, .inr (congrArg Intake.recovery hsame)⟩

/-! ## Scenes -/

/-- What happens to a session. Rounds of recovery are known by their numbers. -/
inductive Happening where
  | came (input : SessionInput)
  | ended (round : Nat) (result : Except Failure RecoveryResult)

def Happening.input : Happening → SessionInput
  | came input => input
  | ended _ result => .recovered result

/-- A session and its rounds of recovery. -/
structure Scene where
  session : Session
  /-- How many rounds were started so far. -/
  started : Nat
  /-- The rounds that have not ended and were not given up. -/
  inFlight : List Nat

namespace Scene

def opening : Scene := ⟨.fresh, 0, []⟩

/-- Only a round in flight ends. -/
def Possible (s : Scene) : Happening → Prop
  | .came input => input.endsRound = false
  | .ended round _ => round ∈ s.inFlight

instance (s : Scene) (h : Happening) : Decidable (s.Possible h) :=
  match h with
  | .came input => inferInstanceAs (Decidable (input.endsRound = false))
  | .ended round _ => inferInstanceAs (Decidable (round ∈ s.inFlight))

/-- The session gives up its round with an input: it held one before, and holds none after. -/
def givesUp (before after : Session) : Bool := before.recovery.isSome && after.recovery.isNone

/-- The rounds still in flight after a happening that leads to a session. The round that a session
holds is the last one that it started. -/
def remaining (s : Scene) (after : Session) : Happening → List Nat
  | .came _ => if givesUp s.session after then s.inFlight.erase (s.started - 1) else s.inFlight
  | .ended round _ => s.inFlight.erase round

/-- The scene after a happening. -/
def happen (settings : SessionSettings) (s : Scene) (h : Happening) : Scene :=
  let (session, effects) := react settings h.input s.session
  let rounds := (recoveriesIn effects).length
  { session
    started := s.started + rounds
    inFlight := s.remaining session h ++ List.range' s.started rounds }

/-- The scene after several happenings. -/
def play (settings : SessionSettings) (happenings : List Happening) : Scene :=
  happenings.foldl (happen settings) opening

variable (settings : SessionSettings) (s : Scene)

theorem session_happen (h : Happening) :
    (s.happen settings h).session = (react settings h.input s.session).1 := rfl

theorem started_happen (h : Happening) :
    (s.happen settings h).started
      = s.started + (recoveriesIn (react settings h.input s.session).2).length := rfl

theorem inFlight_happen (h : Happening) :
    (s.happen settings h).inFlight
      = s.remaining (react settings h.input s.session).1 h
        ++ List.range' s.started (recoveriesIn (react settings h.input s.session).2).length := rfl

/-! ## The round in flight -/

/-- The session holds the one round in flight, and none is in flight when it holds none. -/
structure Disciplined : Prop where
  held : (s.session.recovery = none ∧ s.inFlight = [])
    ∨ ∃ round n, s.session.recovery = some round ∧ s.started = n + 1 ∧ s.inFlight = [n]
  ahead : s.session.buffer.Ahead

theorem disciplined_opening : opening.Disciplined := ⟨.inl ⟨rfl, rfl⟩, GapBuffer.ahead_start 0⟩

namespace Disciplined

variable {settings : SessionSettings} {s : Scene}

theorem inFlight_eq_nil_iff (hs : s.Disciplined) :
    s.inFlight = [] ↔ s.session.recovery = none := by
  rcases hs.held with ⟨hnone, hnothing⟩ | ⟨round, n, hround, _, hone⟩
  · exact iff_of_true hnothing hnone
  · exact iff_of_false (by rw [hone]; nofun) (by rw [hround]; nofun)

theorem length_inFlight_le (hs : s.Disciplined) : s.inFlight.length ≤ 1 := by
  rcases hs.held with ⟨_, hnothing⟩ | ⟨_, n, _, _, hone⟩
  · rw [hnothing]
    exact Nat.zero_le 1
  · rw [hone]
    exact Nat.le_refl 1

/-- An input that is not the end of a round. -/
theorem came (hs : s.Disciplined) {i : SessionInput} (hi : i.endsRound = false) :
    (s.happen settings (.came i)).Disciplined := by
  refine ⟨?_, react_ahead settings hs.ahead i⟩
  rw [session_happen, started_happen, inFlight_happen, remaining, Happening.input]
  rcases rounds_cases settings hi s.session with
    ⟨hstarts, hnone | hsame⟩ | ⟨round, hidle, hround, hstarts⟩
  · -- the round in flight, if there is one, is given up
    rw [hstarts, hnone]
    refine .inl ⟨rfl, ?_⟩
    rcases hs.held with ⟨hidle, hnothing⟩ | ⟨_, n, hheld, hlast, hone⟩
    · rw [hnothing]
      simp [givesUp, hidle]
    · rw [hone, hlast]
      simp [givesUp, hheld, hnone]
  · rw [hstarts, hsame]
    have hkept : givesUp s.session (react settings i s.session).1 = false := by
      rw [givesUp, hsame]
      cases s.session.recovery <;> rfl
    rw [hkept]
    simpa using hs.held
  · obtain ⟨_, hnothing⟩ := hs.held.resolve_right fun ⟨_, _, hheld, _⟩ =>
      nomatch hidle.symm.trans hheld
    refine .inr ⟨round, s.started, hround, ?_, ?_⟩
    · rw [hstarts, List.length_singleton]
    · rw [hstarts, hnothing]
      simp [givesUp, hidle]

/-- The end of a round in flight. -/
theorem ended (hs : s.Disciplined) {round : Nat} {result : Except Failure RecoveryResult}
    (hround : round ∈ s.inFlight) : (s.happen settings (.ended round result)).Disciplined := by
  refine ⟨.inl ?_, react_ahead settings hs.ahead (.recovered result)⟩
  rw [session_happen, inFlight_happen, remaining, Happening.input]
  have hstarts := startsNone_react settings (i := .recovered result) rfl s.session
  rcases hs.held with ⟨_, hnothing⟩ | ⟨_, n, _, _, hone⟩
  · rw [hnothing] at hround
    cases hround
  · rw [hone] at hround ⊢
    rw [hstarts, List.mem_singleton.mp hround]
    refine ⟨?_, by simp⟩
    exact congrArg Intake.recovery (intake_recovered settings result s.session)
      |>.trans (Intake.recovery_finish _ _ _)

theorem happen (hs : s.Disciplined) {h : Happening} (hpossible : s.Possible h) :
    (s.happen settings h).Disciplined := by
  cases h with
  | came i => exact hs.came hpossible
  | ended round result => exact hs.ended hpossible

end Disciplined

end Scene

/-! ## The round that an envelope asks for -/

/-- The round for the numbers between the next one and an envelope that do not wait. -/
def roundAhead (s : Session) (f : Finalized) : Recovery :=
  ⟨f.envelope.gameId, f.envelope.handId,
    GapBuffer.absent s.buffer.pending s.buffer.expected f.seqId⟩

theorem mem_roundAhead {s : Session} {f : Finalized} {id : Int} :
    id ∈ (s.roundAhead f).missing
      ↔ s.buffer.expected ≤ id ∧ id < f.seqId ∧ Table.get? id s.buffer.pending = none :=
  GapBuffer.mem_absent

/-- An envelope that is ahead of the next number has something to ask for. -/
theorem roundAhead_request? {s : Session} {f : Finalized} (hs : s.buffer.Settled)
    (h : s.buffer.expected < f.seqId) : (s.roundAhead f).request? ≠ none := by
  have hnext : s.buffer.expected ∈ (s.roundAhead f).missing :=
    mem_roundAhead.mpr ⟨Int.le_refl _, h, hs⟩
  obtain ⟨low, high, hrequest, _⟩ := Recovery.request?_covers (List.ne_nil_of_mem hnext)
  rw [hrequest]
  nofun

namespace Scene

/-- **The start of rounds.** -/
theorem recoveriesIn_disciplined {settings : SessionSettings} {s : Scene} (hs : s.Disciplined)
    (i : SessionInput) :
    recoveriesIn (react settings i s.session).2 =
      match i.envelope? with
      | some f =>
        if s.session.buffer.expected < f.seqId ∧ s.inFlight = [] then [s.session.roundAhead f]
        else []
      | none => [] := by
  cases hlive : i.envelope? with
  | none => exact startsNone_react settings hlive s.session
  | some f =>
    have hmissing := s.session.buffer.missing_arrive f.seqId f
    rw [(recoveriesIn_live settings hlive s.session).1]
    simp only [roundFor, Bool.and_eq_true, hs.ahead.settled.hasGap_arrive,
      Option.isNone_iff_eq_none, hs.inFlight_eq_nil_iff, hmissing, roundAhead]
    split <;> rfl

/-! ## What was in flight before -/

/-- All rounds in flight were started since a certain number of them was started. -/
structure Since (first : Nat) (s : Scene) : Prop where
  le : first ≤ s.started
  inFlight : ∀ round ∈ s.inFlight, first ≤ round

/-- What is started later has a later number. -/
theorem Since.happen {settings : SessionSettings} {first : Nat} {s : Scene} (hs : s.Since first)
    (h : Happening) : (s.happen settings h).Since first := by
  have hkept : s.remaining (react settings h.input s.session).1 h ⊆ s.inFlight := by
    cases h with
    | came i =>
      rw [remaining]
      split
      · exact List.erase_subset
      · exact List.Subset.refl _
    | ended round result => exact List.erase_subset
  constructor
  · rw [started_happen]
    exact Nat.le_add_right_of_le hs.le
  · intro round hround
    rw [inFlight_happen] at hround
    rcases List.mem_append.mp hround with hold | hnew
    · exact hs.inFlight round (hkept hold)
    · have hlow := (List.mem_range'_1.mp hnew).1
      exact Nat.le_trans hs.le hlow

/-- An input that starts over leaves no round in flight. -/
theorem inFlight_startsOver (settings : SessionSettings) {s : Scene} (hs : s.Disciplined)
    {i : SessionInput} (hi : i.endsRound = false) (hover : i.startsOver s.session = true) :
    (s.happen settings (.came i)).inFlight = [] :=
  (hs.came hi).inFlight_eq_nil_iff.mpr
    (congrArg Intake.recovery (intake_startsOver settings hover))

/-- **One round at a time.** Whatever comes to a session and whenever its rounds end, at most one
round is in flight. A live envelope starts one just when it is ahead of the next number and none is
in flight, for the numbers from the next one up to it that do not wait, of which there are some;
nothing else starts a round. And after an input that starts the numbers over none is in flight: only
a round that was started later ends, ever after, and what waits or is applied was brought by the
inputs that came later. -/
theorem one_round_at_a_time (settings : SessionSettings) {happenings : List Happening}
    (h : Unfolds (happen settings) Possible opening happenings) :
    let s := play settings happenings
    s.inFlight.length ≤ 1
      ∧ (∀ i, recoveriesIn (react settings i s.session).2 =
          match i.envelope? with
          | some f =>
            if s.session.buffer.expected < f.seqId ∧ s.inFlight = [] then [s.session.roundAhead f]
            else []
          | none => [])
      ∧ (∀ f id, id ∈ (s.session.roundAhead f).missing
          ↔ s.session.buffer.expected ≤ id ∧ id < f.seqId
            ∧ Table.get? id s.session.buffer.pending = none)
      ∧ (∀ f : Finalized, s.session.buffer.expected < f.seqId →
          (s.session.roundAhead f).request? ≠ none)
      ∧ ∀ i, s.Possible (.came i) → i.startsOver s.session = true →
          let t := s.happen settings (.came i)
          t.inFlight = [] ∧ ∀ later, Unfolds (happen settings) Possible t later →
            (∀ round result, .ended round result ∈ later → t.started ≤ round)
              ∧ KeepsTo (· ∈ received settings t.session (later.map Happening.input))
                (run settings (later.map Happening.input) t.session) := by
  intro s
  have hs : s.Disciplined := h.keeps (fun _ _ hpossible hu => hu.happen hpossible)
    disciplined_opening
  refine ⟨hs.length_inFlight_le, recoveriesIn_disciplined hs, fun f id => mem_roundAhead,
    fun f => roundAhead_request? hs.ahead.settled, fun i hi hover => ?_⟩
  have hnothing := inFlight_startsOver settings hs hi hover
  refine ⟨hnothing, fun later hlater => ⟨fun round result hended => ?_, ?_⟩⟩
  · have hsince : (s.happen settings (.came i)).Since (s.happen settings (.came i)).started :=
      ⟨Nat.le_refl _, by rw [hnothing]; nofun⟩
    obtain ⟨u, hu, hround⟩ := hlater.holds_of_mem (fun _ h _ hu => hu.happen h) hsince hended
    exact hu.inFlight round hround
  · exact keepsTo_received settings _ (react_restarted settings hover).buffer

/-- A share that arrives early, so that a round is in flight. -/
def earlyShare : List Happening :=
  [.came (.event (.handCreated .ofTwo)), .came (.event (.gameEvent (.ofTwo 1 (.shareAt 1))))]

/-- The same in the hand after it; the second round ends. -/
def earlyShareAgain : List Happening :=
  [.came (.event (.gameEvent (.ofTwo 2 (.shareAt 2)))), .ended 1 (.ok ⟨[0, 1], [], none⟩)]

theorem one_round_at_a_time_next_hand :
    let s := play .usual earlyShare
    let i := SessionInput.event (.handCreated .ofTwo)
    let t := s.happen .usual (.came i)
    (Unfolds (happen .usual) Possible opening earlyShare ∧ s.Possible (.came i)
        ∧ i.startsOver s.session = true ∧ Unfolds (happen .usual) Possible t earlyShareAgain)
      ∧ s.inFlight = [0] ∧ t.inFlight = [] ∧ t.started ≤ 1 := by
  have hunfolds : Unfolds (happen .usual) Possible opening earlyShare := ⟨rfl, rfl, trivial⟩
  have hlater : Unfolds (happen .usual) Possible
      ((play .usual earlyShare).happen .usual (.came (.event (.handCreated .ofTwo))))
      earlyShareAgain := ⟨rfl, by decide +kernel, trivial⟩
  have hafter :=
    (one_round_at_a_time .usual hunfolds).2.2.2.2 (.event (.handCreated .ofTwo)) rfl rfl
  exact ⟨⟨hunfolds, rfl, rfl, hlater⟩, by decide +kernel, hafter.1,
    (hafter.2 earlyShareAgain hlater).1 1 (.ok ⟨[0, 1], [], none⟩)
      (List.mem_cons_of_mem _ (List.mem_singleton.mpr rfl))⟩

end Scene

end Session

end MentalPoker
