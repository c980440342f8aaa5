import MentalPoker.Proofs.Session.ErrorLine

/-!
# Stalls

A gap is called a stall when enough rounds have left it open. Two fields say so, a count and a flag,
and five paths change them: arrivals, ends of rounds, new hands, reopenings and resets. Some of
these paths look at what waits and others at what is missing, but the two are the same while all
that waits is ahead of the next number. So the flag says what the count says, and neither outlives
the gap.

## The architecture

* **`Intake.Coherent`**: the invariant. One lemma for each thing that an input can do to the intake.
* **`run_coherent`**: a whole run. Induction along the inputs.
* **`rises`**, **`silent`**, **`falls`**: when the flag goes up, what is said while it stays, and
  when it comes down; **`react_calms_unless`** says that nothing else tells of a stall.
-/

namespace MentalPoker

namespace Intake

/-- The flag says what the count says, and rounds are counted only while something waits. -/
structure Coherent (attempts : Int) (k : Intake) : Prop where
  flag : k.stalled = true ↔ attempts ≤ k.stallRounds
  waits : 0 < k.stallRounds → k.buffer.hasPending = true
  ahead : k.buffer.Ahead

namespace Coherent

variable {attempts : Int} {k : Intake}

/-- A count that is cleared is coherent, for a stall takes at least one round. -/
theorem clear (hone : 1 ≤ attempts) (hahead : k.buffer.Ahead) : k.clear.Coherent attempts where
  flag := by
    have hnone : ¬ attempts ≤ ((0 : Nat) : Int) := by omega
    exact ⟨nofun, fun h => absurd h hnone⟩
  waits h := absurd h (Nat.lt_irrefl 0)
  ahead := hahead

theorem fresh (hone : 1 ≤ attempts) : Intake.fresh.Coherent attempts :=
  clear (k := Intake.fresh) hone (GapBuffer.ahead_start 0)

/-- The count looks at nothing but what waits. -/
theorem of_waits (hk : k.Coherent attempts) {k' : Intake} (hrounds : k'.stallRounds = k.stallRounds)
    (hstalled : k'.stalled = k.stalled) (hwaits : k'.buffer.hasPending = true)
    (hahead : k'.buffer.Ahead) : k'.Coherent attempts where
  flag := by rw [hrounds, hstalled]; exact hk.flag
  waits _ := hwaits
  ahead := hahead

theorem arrive (hone : 1 ≤ attempts) (hk : k.Coherent attempts) (f : Finalized) :
    (k.arrive f).Coherent attempts := by
  have hahead : (k.buffer.arrive f.seqId f).buffer.Ahead := hk.ahead.deliver (.live f.seqId f)
  simp only [Intake.arrive]
  split
  · next hgap => exact hk.of_waits rfl rfl (GapBuffer.hasPending_arrive_of_hasGap hgap) hahead
  · split
    · next hwaits => exact hk.of_waits rfl rfl hwaits hahead
    · exact clear hone hahead

theorem ahead_bring (hahead : k.buffer.Ahead) (result : Except Failure RecoveryResult) :
    (k.bring result).buffer.Ahead := by
  cases result with
  | ok r => exact hahead.deliver (.batch (r.envelopes.map Finalized.numbered))
  | error failure => exact hahead

theorem finish (hone : 1 ≤ attempts) (hk : k.Coherent attempts)
    (result : Except Failure RecoveryResult) : (k.finish attempts result).Coherent attempts := by
  have hahead := ahead_bring hk.ahead result
  unfold Intake.finish
  split
  · exact hk
  · unfold Intake.count
    split
    · exact clear hone hahead
    · next hopen =>
      refine ⟨?_, fun _ => hahead.missing_ne_nil_iff.mp hopen, hahead⟩
      -- a flag that was up stays up, for the count only grows
      have hgrows : k.stalled = true → attempts ≤ (k.stallRounds + 1 : Nat) := fun hstalled => by
        have hmany := hk.flag.mp hstalled
        omega
      show (decide (attempts ≤ (k.stallRounds + 1 : Nat)) || k.stalled) = true
        ↔ attempts ≤ (k.stallRounds + 1 : Nat)
      rw [Bool.or_eq_true, decide_eq_true_eq, or_iff_left_of_imp hgrows]

end Coherent

/-- An arrival leaves the flag, or takes it down while nothing waits. -/
theorem stalled_arrive (k : Intake) (f : Finalized) :
    (k.arrive f).stalled = k.stalled
      ∨ ((k.arrive f).stalled = false ∧ (k.arrive f).buffer.hasPending = false) := by
  simp only [arrive]
  split
  · exact .inl rfl
  · split
    · exact .inl rfl
    · next hnothing => exact .inr ⟨rfl, Bool.eq_false_iff.mpr hnothing⟩

end Intake

namespace Session

/-! ## Runs -/

/-- **One input** keeps the count and the flag coherent. -/
theorem react_coherent {settings : SessionSettings} (hone : 1 ≤ settings.stallAttempts)
    {s : Session} (hs : s.intake.Coherent settings.stallAttempts) (i : SessionInput) :
    (react settings i s).1.intake.Coherent settings.stallAttempts := by
  rcases intake_cases settings i s with
    ⟨_, hover⟩ | ⟨f, _, hlive⟩ | ⟨result, _, hround⟩ | ⟨_, hsame⟩
  · rw [hover]
    exact .fresh hone
  · rw [hlive]
    exact hs.arrive hone f
  · rw [hround]
    exact hs.finish hone result
  · rw [hsame]
    exact hs

/-- **A run** keeps the count and the flag coherent. Induction along the inputs. -/
theorem run_coherent {settings : SessionSettings} (hone : 1 ≤ settings.stallAttempts)
    (inputs : List SessionInput) {s : Session} (hs : s.intake.Coherent settings.stallAttempts) :
    (run settings inputs s).1.intake.Coherent settings.stallAttempts := by
  induction inputs generalizing s with
  | nil => exact hs
  | cons i rest ih =>
    rw [run_cons, thenDo_fst]
    exact ih (react_coherent hone hs i)

/-! ## What is said of a stall -/

/-- The message of a stall is set. -/
def warn : Step := fun s =>
  dispatch (.setError (some (stallWarning s.buffer.missing.length))) s

/-- What is said goes by the picture and the listeners alone. -/
theorem dispatch_snd_congr (a : Action) {s t : Session} (hstate : s.state = t.state)
    (hlisteners : s.listeners = t.listeners) : (dispatch a s).2 = (dispatch a t).2 := by
  unfold dispatch assign
  rw [hstate, hlisteners]
  cases t.state.step? a <;> rfl

theorem error_dispatch_setError (error : Option Text) (s : Session) :
    (dispatch (.setError error) s).1.state.error = error := rfl

/-- A stall that was said is taken back. -/
theorem error_clearStall {s : Session} (h : s.stalled = true) :
    (clearStall s).1.state.error = none := by
  simp only [clearStall, h, if_true]
  exact error_dispatch_setError none _

/-- The three things that can come of counting a round: the gap is closed, the message is set, or
nothing is said. -/
theorem countRound_cases (attempts : Int) (s : Session) :
    (s.buffer.missing = [] ∧ countRound attempts s = clearStall s)
      ∨ (s.buffer.missing ≠ [] ∧ s.stalled = false ∧ countRound attempts s
        = warn { s with stallRounds := s.stallRounds + 1, stalled := true })
      ∨ (s.buffer.missing ≠ []
        ∧ countRound attempts s = ({ s with stallRounds := s.stallRounds + 1 }, [])) := by
  by_cases hclosed : s.buffer.missing = []
  · exact .inl ⟨hclosed, countRound_closed attempts hclosed⟩
  · by_cases hsilent : attempts ≤ (s.stallRounds + 1 : Nat) → s.stalled = true
    · exact .inr (.inr ⟨hclosed, countRound_silent hclosed hsilent⟩)
    · obtain ⟨hmany, hflag⟩ := Classical.not_imp.mp hsilent
      have hdown : s.stalled = false := Bool.eq_false_iff.mpr hflag
      exact .inr (.inl ⟨hclosed, hdown, countRound_warns hclosed hmany hdown⟩)

/-- What a round brings leaves the flag. -/
theorem stalled_brought (settings : SessionSettings) (result : Except Failure RecoveryResult)
    (s : Session) : (brought settings result s).1.stalled = s.stalled :=
  congrArg Intake.stalled (intake_brought settings result s)

theorem stalled_clearStall (s : Session) : (clearStall s).1.stalled = false :=
  congrArg Intake.stalled (intake_clearStall s)

theorem buffer_clearStall (s : Session) : (clearStall s).1.buffer = s.buffer :=
  congrArg Intake.buffer (intake_clearStall s)

theorem stalled_warn (s : Session) : (warn s).1.stalled = s.stalled := rfl

/-- The message does not depend on the count. -/
theorem warn_snd_counted (s : Session) (rounds : Nat) (stalled : Bool) :
    (warn { s with stallRounds := rounds, stalled := stalled }).2 = (warn s).2 := by
  unfold warn
  exact dispatch_snd_congr _ rfl rfl

/-- **The flag goes up** only when a round ends that leaves a gap, and then the message is set. -/
theorem rises {settings : SessionSettings} {s : Session} {i : SessionInput}
    (hdown : s.stalled = false) (hup : (react settings i s).1.stalled = true) :
    ∃ result round, i = .recovered result ∧ s.recovery = some round
      ∧ (react settings i s).2 = (thenDo (brought settings result) warn s).2
      ∧ (react settings i s).1.state.error
        = some (stallWarning (react settings i s).1.buffer.missing.length) := by
  have hflag : (react settings i s).1.intake.stalled = true := hup
  rcases intake_cases settings i s with ⟨_, hover⟩ | ⟨f, _, hlive⟩ | ⟨result, rfl, _⟩ | ⟨_, hsame⟩
  · rw [hover] at hflag
    cases hflag
  · rw [hlive] at hflag
    rcases s.intake.stalled_arrive f with hkept | ⟨hcleared, _⟩
    · cases (hkept.trans hdown).symm.trans hflag
    · cases hcleared.symm.trans hflag
  · cases hround : s.recovery with
    | none =>
      rw [react, recovered_idle settings result hround] at hup
      cases hdown.symm.trans hup
    | some round =>
      refine ⟨result, round, rfl, rfl, ?_⟩
      have hkept := (stalled_brought settings result s).trans hdown
      rw [react, recovered_apply settings result hround] at hup ⊢
      rw [thenDo_fst] at hup ⊢
      rw [thenDo_snd, thenDo_snd]
      rcases countRound_cases settings.stallAttempts (brought settings result s).1 with
        ⟨_, hcount⟩ | ⟨_, _, hcount⟩ | ⟨_, hcount⟩
      · rw [hcount, stalled_clearStall] at hup
        cases hup
      · rw [hcount]
        exact ⟨congrArg (_ ++ ·) (warn_snd_counted _ _ _), rfl⟩
      · rw [hcount] at hup
        cases hkept.symm.trans hup
  · rw [hsame] at hflag
    cases hdown.symm.trans hflag

/-- **While the flag stays** as it is, up or down, the end of a round sets no message. -/
theorem silent {settings : SessionSettings} {s : Session}
    {result : Except Failure RecoveryResult} {round : Recovery} (hround : s.recovery = some round)
    (hsame : (react settings (.recovered result) s).1.stalled = s.stalled) :
    (react settings (.recovered result) s).2 = (brought settings result s).2 := by
  have hkept := stalled_brought settings result s
  rw [react, recovered_apply settings result hround] at hsame ⊢
  rw [thenDo_fst] at hsame
  rw [thenDo_snd]
  rcases countRound_cases settings.stallAttempts (brought settings result s).1 with
    ⟨_, hcount⟩ | ⟨_, hdown, hcount⟩ | ⟨_, hcount⟩
  · -- the flag is down before and after, so there is nothing to take back
    rw [hcount, stalled_clearStall] at hsame
    have hdown : (brought settings result s).1.stalled = false := hkept.trans hsame.symm
    rw [hcount, clearStall, hdown, if_neg Bool.false_ne_true, List.append_nil]
  · rw [hcount, stalled_warn] at hsame
    cases hsame.trans (hkept.symm.trans hdown)
  · rw [hcount, List.append_nil]

/-- **Nothing else tells of a stall.** Where the flag does not go up and the feed does not fail, the
error line is calmed. -/
theorem react_calms_unless {settings : SessionSettings} {s : Session} {i : SessionInput}
    (hfeed : ∀ message, i ≠ .failed message)
    (hflag : s.stalled = false → (react settings i s).1.stalled = false) :
    Calms s.state.error (react settings i s).1.state.error := by
  cases hends : i.endsRound with
  | false => exact react_calms settings hends hfeed s
  | true =>
    cases i with
    | recovered result =>
      cases hround : s.recovery with
      | none =>
        rw [react, recovered_idle settings result hround]
        exact .refl _
      | some round =>
        have hkept := stalled_brought settings result s
        have hcalms := CalmsError.brought settings result s
        rw [react, recovered_apply settings result hround, thenDo_fst] at hflag ⊢
        rcases countRound_cases settings.stallAttempts (brought settings result s).1 with
          ⟨_, hcount⟩ | ⟨_, hdown, hcount⟩ | ⟨_, hcount⟩
        · rw [hcount]
          exact hcalms.trans (CalmsError.clearStall _)
        · rw [hcount, stalled_warn] at hflag
          cases hflag (hkept.symm.trans hdown)
        · rw [hcount]
          exact hcalms
    | _ => cases hends

/-- What follows the release of an arrival takes the flag down only when nothing waits. -/
theorem afterArrival_falls {f : Finalized} {arrival : GapBuffer.Arrival Finalized} {s : Session}
    (hup : s.stalled = true) (hdown : (afterArrival f arrival s).1.stalled = false) :
    s.buffer.hasPending = false ∧ afterArrival f arrival s = clearStall s := by
  unfold afterArrival at hdown ⊢
  split at hdown
  · unfold requestRecovery at hdown
    split at hdown <;> cases hup.symm.trans hdown
  · next hgap =>
    rw [depending_apply] at hdown
    split at hdown
    · cases hup.symm.trans hdown
    · next hnothing =>
      rw [if_neg hgap, depending_apply, if_neg hnothing]
      exact ⟨Bool.eq_false_iff.mpr hnothing, rfl⟩

/-- **The flag comes down** only with no gap left, and the message with it; where the numbers start
over, the picture does so too. -/
theorem falls {settings : SessionSettings} {s : Session} {i : SessionInput} (hs : s.buffer.Ahead)
    (hup : s.stalled = true) (hdown : (react settings i s).1.stalled = false) :
    (react settings i s).1.buffer.missing = []
      ∧ (i.startsOver s = false → (react settings i s).1.state.error = none) := by
  rcases intake_cases settings i s with ⟨hover, hfresh⟩ | ⟨f, hf, _⟩ | ⟨result, rfl, _⟩ | ⟨_, hsame⟩
  · refine ⟨?_, fun hgoes => absurd (hover.symm.trans hgoes) nofun⟩
    exact congrArg (fun k => k.buffer.missing) hfresh
  · have hahead := react_ahead settings hs i
    obtain ⟨context, henvelope⟩ := react_live settings hf s
    rw [henvelope, envelope_apply, thenDo_fst] at hdown hahead ⊢
    have hkept := KeepsIntake.applyReady settings.deck (s.buffer.arrive f.seqId f).ready
      { s with context := context, buffer := (s.buffer.arrive f.seqId f).buffer }
    have hflag := (congrArg Intake.stalled hkept).trans hup
    obtain ⟨hnothing, hclears⟩ := afterArrival_falls hflag hdown
    rw [hclears] at hahead ⊢
    refine ⟨hahead.missing_eq_nil ?_, fun _ => error_clearStall hflag⟩
    rw [buffer_clearStall, hnothing]
  · cases hround : s.recovery with
    | none =>
      rw [react, recovered_idle settings result hround] at hdown
      cases hup.symm.trans hdown
    | some round =>
      have hkept := (stalled_brought settings result s).trans hup
      rw [react, recovered_apply settings result hround, thenDo_fst] at hdown ⊢
      rcases countRound_cases settings.stallAttempts (brought settings result s).1 with
        ⟨hclosed, hcount⟩ | ⟨_, hlow, _⟩ | ⟨_, hcount⟩
      · rw [hcount, buffer_clearStall]
        exact ⟨hclosed, fun _ => error_clearStall hkept⟩
      · cases hkept.symm.trans hlow
      · rw [hcount] at hdown
        cases hkept.symm.trans hdown
  · cases hup.symm.trans ((congrArg Intake.stalled hsame).symm.trans hdown)

/-- **Stalls end with their gaps.** In every session that was reached by any inputs, the flag of a
stall is up just when the count has come to the number of attempts, and rounds are counted, and the
flag is up, only while numbers are missing. The flag goes up only when a round ends, which is then
also what sets the message. As long as it stays as it is, no end of a round sets the message, nor
does any other input: but for what the feed says when it fails, the error line is calmed. And the
flag comes down only with no gap left, which takes the message back unless the numbers start over
with the input. -/
theorem stalls_end_with_their_gaps {settings : SessionSettings}
    (hone : 1 ≤ settings.stallAttempts) (inputs : List SessionInput) :
    let s := (run settings inputs fresh).1
    ((s.stalled = true ↔ settings.stallAttempts ≤ s.stallRounds)
        ∧ (0 < s.stallRounds → s.buffer.missing ≠ [])
        ∧ (s.stalled = true → s.buffer.missing ≠ []))
      ∧ ∀ i : SessionInput, let r := react settings i s
        (s.stalled = false → r.1.stalled = true →
            ∃ result round, i = .recovered result ∧ s.recovery = some round
              ∧ r.2 = (thenDo (brought settings result) warn s).2
              ∧ r.1.state.error = some (stallWarning r.1.buffer.missing.length))
          ∧ (∀ result round, i = .recovered result → s.recovery = some round →
              r.1.stalled = s.stalled → r.2 = (brought settings result s).2)
          ∧ ((∀ message, i ≠ .failed message) → (s.stalled = false → r.1.stalled = false) →
              Calms s.state.error r.1.state.error)
          ∧ (s.stalled = true → r.1.stalled = false →
              r.1.buffer.missing = [] ∧ (i.startsOver s = false → r.1.state.error = none)) := by
  intro s
  have hs : s.intake.Coherent settings.stallAttempts := run_coherent hone inputs (.fresh hone)
  have hwaits (hcounted : 0 < s.stallRounds) : s.buffer.missing ≠ [] :=
    hs.ahead.missing_ne_nil_iff.mpr (hs.waits hcounted)
  refine ⟨⟨hs.flag, hwaits, fun hup => hwaits ?_⟩,
    fun i => ⟨rises, ?_, react_calms_unless, falls hs.ahead⟩⟩
  · have hmany : settings.stallAttempts ≤ s.stallRounds := hs.flag.mp hup
    omega
  · rintro result round rfl hround hsame
    exact silent hround hsame

/-- Three envelopes arrive ahead of the first, and the rounds for it bring nothing. The third of the
rounds is still under way. -/
def twoRounds : List SessionInput :=
  [.event (.handCreated .ofTwo),
    .event (.gameEvent (.ofTwo 1 (.shareAt 1))), .recovered (.ok ⟨[0], [], none⟩),
    .event (.gameEvent (.ofTwo 2 (.shareAt 2))), .recovered (.error .notEnumerable),
    .event (.gameEvent (.ofTwo 3 (.shareAt 3)))]

theorem stalls_end_with_their_gaps_third_round :
    let s := (run .usual twoRounds fresh).1
    let r := react .usual (.recovered (.ok ⟨[0], [], none⟩)) s
    (1 ≤ SessionSettings.usual.stallAttempts ∧ s.stalled = false ∧ r.1.stalled = true)
      ∧ r.1.state.error = some (stallWarning r.1.buffer.missing.length) := by
  have hone : 1 ≤ SessionSettings.usual.stallAttempts := by decide
  have hdown : (run .usual twoRounds fresh).1.stalled = false := by decide +kernel
  have hup : (react .usual (.recovered (.ok ⟨[0], [], none⟩))
      (run .usual twoRounds fresh).1).1.stalled = true := by decide +kernel
  have hsteps := (stalls_end_with_their_gaps hone twoRounds).2 (.recovered (.ok ⟨[0], [], none⟩))
  obtain ⟨_, _, _, _, _, hsaid⟩ := hsteps.1 hdown hup
  exact ⟨⟨hone, hdown, hup⟩, hsaid⟩

end Session

end MentalPoker
