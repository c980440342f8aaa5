import MentalPoker.Proofs.Session.Stall

/-!
# What a stall counts

The count of a stall goes up with every round that leaves some number missing, whichever number
that is. It starts again when nothing is missing any more, but not when the next number moves on
while other numbers behind it stay missing. So the rounds that make up a stall need not have left
the same number missing: a feed that is given one more envelope by every round is called stalled
all the same.

To say which rounds were counted, a session is watched. Beside the session stand the next numbers
that the rounds left, in the order of the rounds, and the number of rounds since the next number
has the value that it has.

## The architecture

* **`Watch`**: a session with what is remembered of it; `watch` is the run of it.
* **`Watch.Counted`**: the invariant, with one lemma for each way in which an input can go on with
  the count: it starts again (`closed`), it stays (`stay`), it goes up by a round (`count`).
* **`Watch.Sound.next`**: one input, by the cases of the intake; `watch_sound` is the induction.
-/

namespace MentalPoker

namespace Intake

theorem buffer_arrive (k : Intake) (f : Finalized) :
    (k.arrive f).buffer = (k.buffer.deliver (.live f.seqId f)).1 := by
  simp only [arrive]
  split
  · rfl
  · split <;> rfl

/-- A live envelope leaves the count while something waits, and else clears it. -/
theorem arrive_cases (k : Intake) (f : Finalized) :
    ((k.arrive f).buffer.hasPending = true ∧ (k.arrive f).stallRounds = k.stallRounds
        ∧ (k.arrive f).stalled = k.stalled)
      ∨ ((k.arrive f).buffer.hasPending = false ∧ (k.arrive f).stallRounds = 0
        ∧ (k.arrive f).stalled = false) := by
  simp only [arrive]
  split
  · next hgap => exact .inl ⟨GapBuffer.hasPending_arrive_of_hasGap hgap, rfl, rfl⟩
  · split
    · next hwaits => exact .inl ⟨hwaits, rfl, rfl⟩
    · next hnothing => exact .inr ⟨Bool.eq_false_iff.mpr hnothing, rfl, rfl⟩

theorem buffer_count (attempts : Int) (k : Intake) : (k.count attempts).buffer = k.buffer := by
  unfold count
  split <;> rfl

theorem expected_le_bring {k : Intake} (h : k.buffer.Ahead)
    (result : Except Failure RecoveryResult) :
    k.buffer.expected ≤ (k.bring result).buffer.expected := by
  cases result with
  | ok r =>
    exact GapBuffer.expected_le_deliver h.settled (.batch (r.envelopes.map Finalized.numbered))
  | error failure => exact Int.le_refl _

end Intake

namespace Session

/-- A session, and what is remembered of its rounds. -/
structure Watch where
  session : Session
  /-- The next number after each round that ended since numbers are missing. -/
  left : List Int
  /-- So many rounds ended since the next number has its present value. -/
  since : Nat

/-- A round ends with the input. -/
def roundEnds (s : Session) (i : SessionInput) : Bool := i.endsRound && s.recovery.isSome

/-- The next number gets another value with the input, or the numbers start over. -/
def movesOn (settings : SessionSettings) (s : Session) (i : SessionInput) : Bool :=
  i.startsOver s || (react settings i s).1.buffer.expected != s.buffer.expected

namespace Watch

def fresh : Watch := ⟨.fresh, [], 0⟩

/-- The session reacts, and what is remembered follows. -/
def next (settings : SessionSettings) (w : Watch) (i : SessionInput) : Watch :=
  let s := (react settings i w.session).1
  { session := s
    left :=
      if s.buffer.missing = [] then []
      else if roundEnds w.session i then w.left ++ [s.buffer.expected]
      else w.left
    since :=
      (if movesOn settings w.session i then 0 else w.since) + (roundEnds w.session i).toNat }

end Watch

/-- A new session is watched through some inputs. -/
def watch (settings : SessionSettings) (inputs : List SessionInput) : Watch :=
  inputs.foldl (Watch.next settings) .fresh

theorem session_watch (settings : SessionSettings) (inputs : List SessionInput) :
    (watch settings inputs).session = (run settings inputs Session.fresh).1 := by
  have hfrom (w : Watch) :
      (inputs.foldl (Watch.next settings) w).session = (run settings inputs w.session).1 := by
    induction inputs generalizing w with
    | nil => rfl
    | cons i rest ih =>
      rw [List.foldl_cons, ih, run_cons, thenDo_fst]
      rfl
  exact hfrom .fresh

/-! ## The invariant -/

namespace Watch

/-- The count is that of the rounds that are remembered, and of these the rounds that left the
present next number ended since it has its value. -/
structure Counted (attempts : Int) (k : Intake) (left : List Int) (since : Nat) : Prop where
  ahead : k.buffer.Ahead
  closed : k.buffer.missing = [] → left = []
  rounds : k.stallRounds = left.length
  flag : k.stalled = true ↔ left ≠ [] ∧ attempts ≤ left.length
  /-- The next number never goes back. -/
  sorted : left.Pairwise (· ≤ ·)
  le : ∀ n ∈ left, n ≤ k.buffer.expected
  present : left.count k.buffer.expected ≤ since

namespace Counted

variable {attempts : Int} {k k' : Intake} {left : List Int} {since since' : Nat}

/-- Nothing is missing and nothing is counted. -/
theorem of_closed (hahead : k.buffer.Ahead) (hrounds : k.stallRounds = 0)
    (hflag : k.stalled = false) (since : Nat) : Counted attempts k [] since where
  ahead := hahead
  closed _ := rfl
  rounds := hrounds
  flag := by simp [hflag]
  sorted := .nil
  le := nofun
  present := Nat.zero_le since

/-- None of the rounds that are remembered left a number that comes up only now. -/
theorem present_of_le (h : Counted attempts k left since)
    (hle : k.buffer.expected ≤ k'.buffer.expected)
    (hsince : k'.buffer.expected = k.buffer.expected → since ≤ since') :
    left.count k'.buffer.expected ≤ since' := by
  by_cases hsame : k'.buffer.expected = k.buffer.expected
  · rw [hsame]
    exact Nat.le_trans h.present (hsince hsame)
  · -- the next number moved past all that were left before
    have hnone : left.count k'.buffer.expected = 0 := by
      refine List.count_eq_zero.mpr fun hmem => ?_
      have hlow := h.le _ hmem
      omega
    omega

/-- Where nothing is missing there is nothing to forget. -/
theorem kept (h : Counted attempts k left since) :
    (if k.buffer.missing = [] then [] else left) = left := by
  split
  · next hclosed => exact (h.closed hclosed).symm
  · rfl

/-- The count stays as it is while the buffer goes on. -/
theorem stay (h : Counted attempts k left since) (hahead : k'.buffer.Ahead)
    (hrounds : k'.stallRounds = k.stallRounds) (hflag : k'.stalled = k.stalled)
    (hopen : k'.buffer.missing = [] → k.buffer.missing = [])
    (hle : k.buffer.expected ≤ k'.buffer.expected)
    (hsince : k'.buffer.expected = k.buffer.expected → since ≤ since') :
    Counted attempts k' left since' where
  ahead := hahead
  closed hclosed := h.closed (hopen hclosed)
  rounds := hrounds.trans h.rounds
  flag := hflag ▸ h.flag
  sorted := h.sorted
  le n hn := Int.le_trans (h.le n hn) hle
  present := h.present_of_le hle hsince

/-- A round that leaves numbers missing is counted, and the next number that it left is
remembered. -/
theorem count (h : Counted attempts k left since) (hahead : k'.buffer.Ahead)
    (hopen : k'.buffer.missing ≠ []) (hrounds : k'.stallRounds = k.stallRounds)
    (hflag : k'.stalled = k.stalled) (hle : k.buffer.expected ≤ k'.buffer.expected)
    (hsince : k'.buffer.expected = k.buffer.expected → since ≤ since') :
    Counted attempts (k'.count attempts) (left ++ [k'.buffer.expected]) (since' + 1) := by
  have hlength : (left ++ [k'.buffer.expected]).length = left.length + 1 := by simp
  rw [Intake.count, if_neg hopen]
  refine ⟨hahead, fun hclosed => absurd hclosed hopen, ?_, ?_, ?_, ?_, ?_⟩
  · rw [hlength, hrounds, h.rounds]
  · -- a flag that was up stays up, for the count only grows
    have hgrows : k'.stalled = true → attempts ≤ (left.length + 1 : Nat) := fun hup => by
      have hmany := (h.flag.mp (hflag ▸ hup)).2
      omega
    have hne : left ++ [k'.buffer.expected] ≠ [] := by simp
    rw [hlength, and_iff_right hne, hrounds, h.rounds, Bool.or_eq_true, decide_eq_true_eq,
      or_iff_left_of_imp hgrows]
  · refine List.pairwise_append.mpr ⟨h.sorted, List.pairwise_singleton _ _, fun n hn m hm => ?_⟩
    rw [List.mem_singleton.mp hm]
    exact Int.le_trans (h.le n hn) hle
  · intro n hn
    rcases List.mem_append.mp hn with hold | hnew
    · exact Int.le_trans (h.le n hold) hle
    · exact Int.le_of_eq (List.mem_singleton.mp hnew)
  · have hold := h.present_of_le hle hsince
    show (left ++ [k'.buffer.expected]).count k'.buffer.expected ≤ since' + 1
    rw [List.count_append, List.count_singleton_self]
    omega

/-- A live envelope leaves the count, or clears it with nothing missing any more. -/
theorem arrive (h : Counted attempts k left since) (f : Finalized)
    (hsince : (k.arrive f).buffer.expected = k.buffer.expected → since ≤ since') :
    Counted attempts (k.arrive f)
      (if (k.arrive f).buffer.missing = [] then [] else left) since' := by
  have hahead : (k.arrive f).buffer.Ahead := k.buffer_arrive f ▸ h.ahead.deliver (.live f.seqId f)
  rcases k.arrive_cases f with ⟨hwaits, hrounds, hflag⟩ | ⟨hnothing, hrounds, hflag⟩
  · have hopen := hahead.missing_ne_nil_iff.mpr hwaits
    have hle : k.buffer.expected ≤ (k.arrive f).buffer.expected :=
      k.buffer_arrive f ▸ GapBuffer.expected_le_deliver h.ahead.settled (.live f.seqId f)
    rw [if_neg hopen]
    exact h.stay hahead hrounds hflag (fun hclosed => absurd hclosed hopen) hle hsince
  · rw [if_pos (hahead.missing_eq_nil hnothing)]
    exact .of_closed hahead hrounds hflag _

end Counted

/-! ## One input -/

/-- The rounds that are remembered are those that were counted. -/
def Sound (settings : SessionSettings) (w : Watch) : Prop :=
  Counted settings.stallAttempts w.session.intake w.left w.since

variable {settings : SessionSettings} {w : Watch}

/-- Where the next number stays, the rounds before the input still count for it. -/
theorem since_le {i : SessionInput} (hover : i.startsOver w.session = false)
    (hsame : (w.next settings i).session.buffer.expected = w.session.buffer.expected) :
    w.since ≤ if movesOn settings w.session i then 0 else w.since := by
  have hstays : movesOn settings w.session i = false := by
    rw [movesOn, hover, Bool.false_or, bne_eq_false_iff_eq]
    exact hsame
  rw [hstays]
  exact Nat.le_refl _

/-- An input with which no round ends: rounds are remembered as long as numbers are missing. -/
theorem Sound.of_quiet {i : SessionInput} (hends : roundEnds w.session i = false)
    (h : Counted settings.stallAttempts (w.next settings i).session.intake
      (if (w.next settings i).session.buffer.missing = [] then [] else w.left)
      (if movesOn settings w.session i then 0 else w.since)) :
    (w.next settings i).Sound settings := by
  have hleft : (w.next settings i).left
      = if (w.next settings i).session.buffer.missing = [] then [] else w.left := by
    simp only [next, hends, Bool.false_eq_true, if_false]
  have hsince : (w.next settings i).since
      = if movesOn settings w.session i then 0 else w.since := by
    simp only [next, hends, Bool.toNat_false, Nat.add_zero]
  rw [Sound, hleft, hsince]
  exact h

theorem Sound.startsOver {i : SessionInput} (hover : i.startsOver w.session = true) :
    (w.next settings i).Sound settings := by
  have hfresh : (w.next settings i).session.intake = .fresh := intake_startsOver settings hover
  have hclosed : (w.next settings i).session.buffer.missing = [] :=
    congrArg (fun k => k.buffer.missing) hfresh
  have hleft : (w.next settings i).left = [] := if_pos hclosed
  rw [Sound, hfresh, hleft]
  exact .of_closed (GapBuffer.ahead_start 0) rfl rfl _

/-- The round under way ends. -/
theorem Sound.round (h : w.Sound settings) (result : Except Failure RecoveryResult)
    {round : Recovery}
    (hround : w.session.recovery = some round) :
    (w.next settings (.recovered result)).Sound settings := by
  have hunder : w.session.intake.recovery ≠ none := by simp [intake, hround]
  have hends : roundEnds w.session (.recovered result) = true := by
    simp [roundEnds, SessionInput.endsRound, hround]
  have hintake : (w.next settings (.recovered result)).session.intake
      = (w.session.intake.bring result).count settings.stallAttempts := by
    have hfinish := intake_recovered settings result w.session
    rw [Intake.finish, if_neg hunder] at hfinish
    exact hfinish
  have hbuffer : (w.next settings (.recovered result)).session.buffer
      = (w.session.intake.bring result).buffer := by
    have hcounted := congrArg Intake.buffer hintake
    rw [Intake.buffer_count] at hcounted
    exact hcounted
  have hahead := Intake.Coherent.ahead_bring h.ahead result
  -- a round is counted by what it leaves after what it brought
  by_cases hclosed : (w.session.intake.bring result).buffer.missing = []
  · have hleft : (w.next settings (.recovered result)).left = [] :=
      if_pos (hbuffer ▸ hclosed)
    rw [Sound, hintake, hleft, Intake.count, if_pos hclosed]
    exact .of_closed (k := (w.session.intake.bring result).clear) hahead rfl rfl _
  · have hleft : (w.next settings (.recovered result)).left
        = w.left ++ [(w.session.intake.bring result).buffer.expected] := by
      rw [← hbuffer] at hclosed ⊢
      exact (if_neg hclosed).trans (if_pos hends)
    have hsince : (w.next settings (.recovered result)).since
        = (if movesOn settings w.session (.recovered result) then 0 else w.since) + 1 := by
      simp only [next, hends, Bool.toNat_true]
    rw [Sound, hintake, hleft, hsince]
    refine h.count hahead hclosed rfl rfl (Intake.expected_le_bring h.ahead result) fun hsame => ?_
    exact since_le rfl (hbuffer ▸ hsame)

theorem Sound.live (h : w.Sound settings) {i : SessionInput}
    (hover : i.startsOver w.session = false)
    (hends : roundEnds w.session i = false) {f : Finalized}
    (hlive : (w.next settings i).session.intake = w.session.intake.arrive f) :
    (w.next settings i).Sound settings := by
  have hbuffer : (w.next settings i).session.buffer = (w.session.intake.arrive f).buffer :=
    congrArg Intake.buffer hlive
  refine .of_quiet hends ?_
  rw [hlive, hbuffer]
  exact h.arrive f fun hsame => since_le hover (hbuffer ▸ hsame)

theorem Sound.same (h : w.Sound settings) {i : SessionInput}
    (hover : i.startsOver w.session = false)
    (hends : roundEnds w.session i = false)
    (hsame : (w.next settings i).session.intake = w.session.intake) :
    (w.next settings i).Sound settings := by
  have hbuffer : (w.next settings i).session.buffer = w.session.intake.buffer :=
    congrArg Intake.buffer hsame
  have hsince := since_le hover (congrArg GapBuffer.expected hbuffer)
  refine .of_quiet hends ?_
  rw [hsame, hbuffer, h.kept]
  exact h.stay h.ahead rfl rfl id (Int.le_refl _) fun _ => hsince

/-- **One input** keeps the watch sound. -/
theorem Sound.next (h : w.Sound settings) (i : SessionInput) :
    (w.next settings i).Sound settings := by
  cases hover : i.startsOver w.session with
  | true => exact .startsOver hover
  | false =>
    cases hends : roundEnds w.session i with
    | true =>
      obtain ⟨hround, hunder⟩ := Bool.and_eq_true_iff.mp hends
      obtain ⟨round, hsome⟩ := Option.isSome_iff_exists.mp hunder
      cases i with
      | recovered result => exact h.round result hsome
      | _ => cases hround
    | false =>
      rcases intake_cases settings i w.session with
        ⟨hstarts, _⟩ | ⟨f, _, hlive⟩ | ⟨result, rfl, hround⟩ | ⟨_, hsame⟩
      · cases hover.symm.trans hstarts
      · exact h.live hover hends hlive
      · -- without a round under way nothing ends
        have hidle : w.session.intake.recovery = none :=
          Option.isNone_iff_eq_none.mp (Option.isSome_eq_false_iff.mp hends)
        exact h.same hover hends (hround.trans (if_pos hidle))
      · exact h.same hover hends hsame

end Watch

/-! ## Runs -/

/-- **A run** keeps the watch sound. Induction along the inputs, from any watch that is. -/
theorem watch_sound (settings : SessionSettings) (inputs : List SessionInput) :
    (watch settings inputs).Sound settings := by
  have hfrom (w : Watch) (h : w.Sound settings) :
      (inputs.foldl (Watch.next settings) w).Sound settings := by
    induction inputs generalizing w with
    | nil => exact h
    | cons i rest ih => exact ih (w.next settings i) (h.next i)
  exact hfrom .fresh (.of_closed (GapBuffer.ahead_start 0) rfl rfl 0)

/-- **A stall counts rounds.** In every session that was reached by any inputs, the count is that
of the rounds that ended since numbers are missing, and the flag is up just when there are some and
they have come to the number of attempts. The next numbers that they left never went back. Where
all of them left the number that is next now, a stall has at least as many rounds as attempts behind
it since that number is next. -/
theorem stalls_count_rounds (settings : SessionSettings) (inputs : List SessionInput) :
    let w := watch settings inputs
    let s := (run settings inputs fresh).1
    w.session = s
      ∧ s.stallRounds = w.left.length
      ∧ (s.stalled = true ↔ w.left ≠ [] ∧ settings.stallAttempts ≤ w.left.length)
      ∧ (w.left.Pairwise (· ≤ ·) ∧ ∀ n ∈ w.left, n ≤ s.buffer.expected)
      ∧ (s.stalled = true → (∀ n ∈ w.left, n = s.buffer.expected) →
          settings.stallAttempts ≤ w.since) := by
  intro w s
  have hsession : w.session = s := session_watch settings inputs
  have hw : Watch.Counted settings.stallAttempts w.session.intake w.left w.since :=
    watch_sound settings inputs
  rw [hsession] at hw
  refine ⟨hsession, hw.rounds, hw.flag, ⟨hw.sorted, hw.le⟩, fun hup hsame => ?_⟩
  have hmany : settings.stallAttempts ≤ w.left.length := (hw.flag.mp hup).2
  have hall : w.left.count s.buffer.expected = w.left.length :=
    List.count_eq_length.mpr fun n hn => (hsame n hn).symm
  have hpresent : w.left.count s.buffer.expected ≤ w.since := hw.present
  omega

/-- Three rounds for the first number bring nothing. -/
def threeRounds : List SessionInput := twoRounds ++ [.recovered (.ok ⟨[0], [], none⟩)]

theorem stalls_count_rounds_without_progress :
    ((run .usual threeRounds fresh).1.stalled = true
        ∧ ∀ n ∈ (watch .usual threeRounds).left,
          n = (run .usual threeRounds fresh).1.buffer.expected)
      ∧ SessionSettings.usual.stallAttempts ≤ (watch .usual threeRounds).since := by
  have hup : (run .usual threeRounds fresh).1.stalled = true := by decide +kernel
  have hsame : ∀ n ∈ (watch .usual threeRounds).left,
      n = (run .usual threeRounds fresh).1.buffer.expected := by decide +kernel
  obtain ⟨_, _, _, _, hsince⟩ := stalls_count_rounds .usual threeRounds
  exact ⟨⟨hup, hsame⟩, hsince hup hsame⟩

/-- An envelope comes far ahead of the next number, and each round for what is missing brings one
more envelope, with the next number. -/
def steadyRounds : List SessionInput :=
  [.event (.handCreated .ofTwo),
    .event (.gameEvent (.ofTwo 4 (.shareAt 3))),
    .recovered (.ok ⟨[0, 1, 2, 3], [.ofTwo 0 (.shareAt 0)], none⟩),
    .event (.gameEvent (.ofTwo 5 (.shareAt 3))),
    .recovered (.ok ⟨[1, 2, 3], [.ofTwo 1 (.shareAt 1)], none⟩),
    .event (.gameEvent (.ofTwo 6 (.shareAt 3))),
    .recovered (.ok ⟨[2, 3], [.ofTwo 2 (.shareAt 2)], none⟩)]

/-- Every round brings the next envelope, and the third is called a stall although it is the only
one that ended since the number is next that is next now. -/
theorem steady_rounds_are_a_stall :
    let w := watch .usual steadyRounds
    let s := (run .usual steadyRounds fresh).1
    s.stalled = true ∧ s.buffer.expected = 3 ∧ w.left = [1, 2, 3] ∧ w.since = 1
      ∧ ¬ SessionSettings.usual.stallAttempts ≤ w.since := by
  decide +kernel

end Session

end MentalPoker
