import MentalPoker.Proofs.Walkthrough.Held

/-!
# Phases and their streams

The phases of a walkthrough follow one another as the user goes on and as streams end. Which phase
is over when a stream ends goes by the kind of the stream alone; a walkthrough does not look whether
the phase is under way, nor for which demo the stream was opened. Where a stream is left open while
the user goes on to another phase or to another demo, its end comes out of turn. Where none is, the
open streams are those of the phase and of the demo that the user sees.

## The architecture

* **`phase_cases`**: what a happening can do to the phase.
* **`Scene.Orderly`**: the happenings that leave no stream behind.
* **`Scene.Tied`**: every open stream is that of the phase under way and of the current demo. This
  is what orderly happenings keep, with one case for each kind of happening.
* **`phases_follow_streams`**: the flow of phases; **`streams_end_out_of_turn`**: what a stream does
  that was left behind.
-/

namespace MentalPoker.Walkthrough

open Scene

variable {a : LedgerAddress} {s : Scene} {h : Happening}

/-! ## Phases -/

theorem grant_eq_ok {w : Walkthrough} {k : PhaseStream} {demo : DemoIds}
    (h : w.grant k = .ok demo) :
    w.progress.demo = some demo ∧ (k = .deal → w.progress.phase = .shuffleComplete) := by
  unfold grant at h
  split at h
  · cases h
  · next found hdemo =>
    split at h
    · cases h
    · next hphase =>
      cases h
      exact ⟨hdemo, fun hk => Decidable.byContradiction fun hother => hphase ⟨hk, hother⟩⟩

theorem phase_opening (p : Progress) (k : PhaseStream) (now : Int) :
    (p.opening k now).phase = .during k ∧ (p.opening k now).demo = p.demo := by
  cases k <;> exact ⟨rfl, rfl⟩

theorem phase_finish (p : Progress) (k : PhaseStream) (now : Int) :
    (p.finish k now).phase = .after k := by
  cases k <;> rfl

theorem phase_closed (w : Walkthrough) (stream : Nat) (now : Int) :
    (w.closed stream now).progress.phase
      = (w.opened[stream]?.map Phase.after).getD w.progress.phase := by
  unfold closed
  split
  · next hopened => rw [hopened, Option.map_none, Option.getD_none]
  · next k hopened => rw [hopened, phase_finish, Option.map_some, Option.getD_some]

/-- The phases before any stream. -/
def Phase.isEarly : Phase → Bool
  | .idle | .loading | .ready => true
  | _ => false

theorem Phase.during_injective : Function.Injective Phase.during := by
  intro k k' h
  cases k <;> cases k' <;> first | rfl | cases h

theorem Phase.after_injective : Function.Injective Phase.after := by
  intro k k' h
  cases k <;> cases k' <;> first | rfl | cases h

theorem Phase.during_ne_after (k k' : PhaseStream) : Phase.during k ≠ Phase.after k' := by
  cases k <;> cases k' <;> nofun

theorem Phase.isEarly_during (k : PhaseStream) : (Phase.during k).isEarly = false := by
  cases k <;> rfl

theorem Phase.isEarly_after (k : PhaseStream) : (Phase.after k).isEarly = false := by
  cases k <;> rfl

/-- What a happening can do to the phase: a demo is asked for or comes or is forgotten, a stream is
opened, or a stream ends. -/
theorem phase_cases (a : LedgerAddress) (s : Scene) (h : Happening) :
    (s.happen a h).walkthrough.progress.phase = s.walkthrough.progress.phase
      ∨ (s.happen a h).walkthrough.progress.phase.isEarly = true
      ∨ (∃ k now demo, h = .called (.begin k now) ∧ s.walkthrough.grant k = .ok demo
        ∧ (s.happen a h).walkthrough.progress.phase = .during k)
      ∨ ∃ stream now k, h = .ended stream now ∧ s.walkthrough.opened[stream]? = some k
        ∧ (s.happen a h).walkthrough.progress.phase = .after k := by
  cases h with
  | called call =>
    cases call with
    | start =>
      cases hstarting : s.walkthrough.starting with
      | true => exact .inl (by rw [happen_start_awaiting a s hstarting])
      | false =>
        rw [happen_start a s hstarting]
        exact .inr (.inl rfl)
    | begin k now =>
      cases hgrant : s.walkthrough.grant k with
      | error message => exact .inl (by rw [happen_begin_refused a s hgrant])
      | ok demo =>
        rw [happen_begin a s hgrant]
        exact .inr (.inr (.inl ⟨k, now, demo, rfl, hgrant, (phase_opening _ k now).1⟩))
    | reset => exact .inr (.inl (by rw [happen_forgets a s rfl]; rfl))
    | close => exact .inr (.inl (by rw [happen_forgets a s rfl]; rfl))
  | replied request reply =>
    cases reply with
    | ok info => exact .inr (.inl rfl)
    | error fault =>
      cases fault with
      | failure f => exact .inl rfl
      | ledger fault => exact .inr (.inl rfl)
  | ended stream now =>
    rw [happen_ended]
    cases hopened : s.walkthrough.opened[stream]? with
    | none => exact .inl (by rw [phase_closed, hopened, Option.map_none, Option.getD_none])
    | some k =>
      refine .inr (.inr (.inr ⟨stream, now, k, rfl, hopened, ?_⟩))
      rw [phase_closed, hopened, Option.map_some, Option.getD_some]
  | failed stream message last =>
    rw [happen_failed]
    exact .inl rfl

/-! ## Streams that are left behind, and streams that are not -/

/-- Happenings that leave no stream behind: a demo is asked for, and comes, only while no stream is
open, and the shuffle begins only while no stream of a deal is open. -/
def Scene.Orderly (s : Scene) : Happening → Prop
  | .called .start | .replied .. => s.streams = []
  | .called (.begin .shuffle _) =>
    ∀ entry ∈ s.streams, s.walkthrough.opened[entry.1]? ≠ some .deal
  | _ => True

/-- The stream was opened for a phase, and for the demo that is the current one. -/
structure Scene.Current (a : LedgerAddress) (s : Scene) (k : PhaseStream) (stream : Nat × Text) :
    Prop where
  opened : s.walkthrough.opened[stream.1]? = some k
  address : ∃ demo, s.walkthrough.progress.demo = some demo ∧ stream.2 = k.url a demo

/-- Every open stream is the one held for the phase under way, and for the current demo. -/
def Scene.Tied (a : LedgerAddress) (s : Scene) : Prop :=
  ∀ stream ∈ s.streams, ∃ k, s.Current a k stream ∧ s.walkthrough.held k = some stream.1
    ∧ s.walkthrough.progress.phase = .during k

namespace Scene.Tied

/-- Without streams there is nothing to tie. -/
theorem of_none (hnone : s.streams = []) : s.Tied a := by
  intro stream hstream
  rw [hnone] at hstream
  cases hstream

/-- Some of the streams, and no change in the walkthrough that matters to them. -/
theorem of_same {s' : Scene} (hs : s.Tied a) (hstreams : s'.streams ⊆ s.streams)
    (hopened : s'.walkthrough.opened = s.walkthrough.opened)
    (hheld : s'.walkthrough.held = s.walkthrough.held)
    (hphase : s'.walkthrough.progress.phase = s.walkthrough.progress.phase)
    (hdemo : s'.walkthrough.progress.demo = s.walkthrough.progress.demo) : s'.Tied a := by
  intro stream hstream
  obtain ⟨k, hcurrent, hk, hduring⟩ := hs stream (hstreams hstream)
  exact ⟨k, ⟨by rw [hopened, hcurrent.opened], by rw [hdemo]; exact hcurrent.address⟩,
    by rw [hheld, hk], by rw [hphase, hduring]⟩

/-- No stream is left when another one is opened. -/
theorem begin {k : PhaseStream} {now : Int} (hs : s.Tied a)
    (horderly : s.Orderly (.called (.begin k now))) {demo : DemoIds}
    (hgrant : s.walkthrough.grant k = .ok demo) :
    (s.happen a (.called (.begin k now))).Tied a := by
  obtain ⟨hdemo, hshuffled⟩ := grant_eq_ok hgrant
  obtain ⟨hphase, hsame⟩ := phase_opening s.walkthrough.progress k now
  rw [happen_begin a s hgrant]
  intro stream hstream
  rcases List.mem_append.mp hstream with hkept | hnew
  · -- a stream that was not disconnected is of the other phase, and there is none
    obtain ⟨hopen, hother⟩ := mem_without.mp hkept
    obtain ⟨k', hcurrent, hheld, hduring⟩ := hs stream hopen
    cases k with
    | shuffle =>
      cases k' with
      | shuffle => exact absurd hheld hother
      | deal => exact absurd hcurrent.opened (horderly stream hopen)
    | deal =>
      cases k' with
      | shuffle => rw [hshuffled rfl] at hduring; cases hduring
      | deal => exact absurd hheld hother
  · rw [List.mem_singleton.mp hnew]
    refine ⟨k, ⟨List.getElem?_concat_length, demo, ?_, rfl⟩, ?_, hphase⟩
    · exact hsame.trans hdemo
    · rw [held_beginning, if_pos rfl]

/-- The stream that ends is the only one. -/
theorem ended {stream : Nat} {now : Int} (hs : s.Tied a)
    (hpossible : s.Possible (.ended stream now)) : (s.happen a (.ended stream now)).Tied a := by
  obtain ⟨url, hurl⟩ := Option.isSome_iff_exists.mp hpossible
  obtain ⟨k, -, hheld, hduring⟩ := hs _ (Table.mem_of_get?_eq_some hurl)
  rw [happen_ended]
  refine of_none (List.filter_eq_nil_iff.mpr fun other hother => ?_)
  obtain ⟨k', -, hheld', hduring'⟩ := hs other hother
  have hk : k = k' := Phase.during_injective (hduring.symm.trans hduring')
  rw [← hk, hheld] at hheld'
  simpa using (Option.some.inj hheld').symm

/-- A stream that is tied is held. -/
theorem held (hs : s.Tied a) : s.Held := by
  intro stream hstream
  obtain ⟨k, hcurrent, hplace, _⟩ := hs stream hstream
  exact ⟨k, hcurrent.opened, hplace⟩

theorem happen (hpossible : s.Possible h) (horderly : s.Orderly h) (hs : s.Tied a) :
    (s.happen a h).Tied a := by
  cases h with
  | called call =>
    cases call with
    | start =>
      refine of_none (Eq.trans ?_ horderly)
      cases hstarting : s.walkthrough.starting with
      | true => rw [happen_start_awaiting a s hstarting]
      | false => rw [happen_start a s hstarting]
    | begin k now =>
      cases hgrant : s.walkthrough.grant k with
      | error message =>
        rw [happen_begin_refused a s hgrant]
        exact hs.of_same (List.Subset.refl _) rfl rfl rfl rfl
      | ok demo => exact hs.begin horderly hgrant
    | reset => exact of_none (hs.held.streams_forgets rfl)
    | close => exact of_none (hs.held.streams_forgets rfl)
  | replied request reply => exact of_none horderly
  | ended stream now => exact hs.ended hpossible
  | failed stream message last =>
    rw [happen_failed]
    exact hs.of_same (fun entry hentry => (mem_without.mp hentry).1) rfl rfl rfl rfl

end Scene.Tied

/-! ## The flow of phases -/

/-- The phase is reached by the happening. -/
def Scene.Becomes (a : LedgerAddress) (s : Scene) (h : Happening) (phase : Phase) : Prop :=
  s.walkthrough.progress.phase ≠ phase ∧ (s.happen a h).walkthrough.progress.phase = phase

/-- The phase after a stream is reached only when a stream of that kind ends. -/
theorem ended_of_becomes {k : PhaseStream} (hbecomes : s.Becomes a h (.after k)) :
    ∃ stream now, h = .ended stream now ∧ s.walkthrough.opened[stream]? = some k := by
  obtain ⟨hbefore, hafter⟩ := hbecomes
  rcases phase_cases a s h with hsame | hearly | ⟨k', now, demo, -, -, hduring⟩
      | ⟨stream, now, k', hended, hopened, hdone⟩
  · exact absurd (hsame.symm.trans hafter) hbefore
  · rw [hafter, Phase.isEarly_after] at hearly
    cases hearly
  · exact absurd (hduring.symm.trans hafter) (Phase.during_ne_after k' k)
  · obtain rfl : k' = k := Phase.after_injective (hdone.symm.trans hafter)
    exact ⟨stream, now, hended, hopened⟩

/-- The phase of a stream is reached only on request, when the stream may be opened. -/
theorem begin_of_becomes {k : PhaseStream} (hbecomes : s.Becomes a h (.during k)) :
    ∃ now demo, h = .called (.begin k now) ∧ s.walkthrough.grant k = .ok demo := by
  obtain ⟨hbefore, hafter⟩ := hbecomes
  rcases phase_cases a s h with hsame | hearly | ⟨k', now, demo, hbegin, hgrant, hduring⟩
      | ⟨stream, now, k', -, -, hdone⟩
  · exact absurd (hsame.symm.trans hafter) hbefore
  · rw [hafter, Phase.isEarly_during] at hearly
    cases hearly
  · obtain rfl : k' = k := Phase.during_injective (hduring.symm.trans hafter)
    exact ⟨now, demo, hbegin, hgrant⟩
  · exact absurd (hafter.symm.trans hdone) (Phase.during_ne_after k k')

/-- **Phases follow their streams.** The phase after the shuffle, or after the deal, is reached only
when an open stream of that kind ends, and dealing begins only after the shuffle. In a course that
leaves no stream behind, the phase is moreover the one under way just before, and the stream the one
that was opened for the current demo. -/
theorem phases_follow_streams (hpossible : s.Possible h) :
    (∀ k, s.Becomes a h (.after k) → ∃ stream ∈ s.streams, ∃ now, h = .ended stream.1 now
        ∧ s.walkthrough.opened[stream.1]? = some k)
      ∧ (s.Becomes a h .dealing → s.walkthrough.progress.phase = .shuffleComplete
        ∧ ∃ now, h = .called (.begin .deal now))
      ∧ ∀ happenings, Course a (fun s h => s.Possible h ∧ s.Orderly h) .opening happenings s →
        ∀ k, s.Becomes a h (.after k) → s.walkthrough.progress.phase = .during k
          ∧ ∃ stream ∈ s.streams, ∃ now, h = .ended stream.1 now ∧ s.Current a k stream := by
  have hended {k : PhaseStream} (hbecomes : s.Becomes a h (.after k)) :
      ∃ stream ∈ s.streams, ∃ now, h = .ended stream.1 now
        ∧ s.walkthrough.opened[stream.1]? = some k := by
    obtain ⟨stream, now, rfl, hopened⟩ := ended_of_becomes hbecomes
    obtain ⟨url, hurl⟩ := Option.isSome_iff_exists.mp hpossible
    exact ⟨_, Table.mem_of_get?_eq_some hurl, now, rfl, hopened⟩
  have hdealing (hbecomes : s.Becomes a h .dealing) :
      s.walkthrough.progress.phase = .shuffleComplete ∧ ∃ now, h = .called (.begin .deal now) := by
    obtain ⟨now, demo, hbegin, hgrant⟩ := @begin_of_becomes a s h .deal hbecomes
    exact ⟨(grant_eq_ok hgrant).2 rfl, now, hbegin⟩
  refine ⟨fun _ => hended, hdealing, fun happenings hcourse k hbecomes => ?_⟩
  have htied : s.Tied a :=
    hcourse.keeps (fun _ _ hallowed hs => hs.happen hallowed.1 hallowed.2) (Tied.of_none rfl)
  obtain ⟨stream, hopen, now, hclosing, hopened⟩ := hended hbecomes
  obtain ⟨k', hcurrent, -, hduring⟩ := htied stream hopen
  obtain rfl : k' = k := Option.some.inj (hcurrent.opened.symm.trans hopened)
  exact ⟨hduring, stream, hopen, now, hclosing, hcurrent⟩

/-- The shuffle of a demo that is done in order. -/
theorem phases_follow_streams_shuffled :
    let happenings := [.called .start, .replied 0 (.ok someDemo), .called (.begin .shuffle 100)]
    let s := Scene.play someLedger happenings
    s.Possible (.ended 0 103)
      ∧ Course someLedger (fun s h => s.Possible h ∧ s.Orderly h) .opening happenings s
      ∧ s.Becomes someLedger (.ended 0 103) .shuffleComplete
      ∧ s.walkthrough.progress.phase = .shuffling
      ∧ ∃ stream ∈ s.streams, ∃ now, Happening.ended 0 103 = .ended stream.1 now
        ∧ s.Current someLedger .shuffle stream := by
  intro happenings s
  have hpossible : s.Possible (.ended 0 103) := by decide
  have hcourse : Course someLedger (fun s h => s.Possible h ∧ s.Orderly h) .opening happenings s :=
    .cons ⟨trivial, rfl⟩ (.cons ⟨by decide, rfl⟩ (.cons ⟨trivial, nofun⟩ (.nil _)))
  have hbecomes : s.Becomes someLedger (.ended 0 103) .shuffleComplete := ⟨by decide, rfl⟩
  exact ⟨hpossible, hcourse, hbecomes,
    (phases_follow_streams hpossible).2.2 happenings hcourse .shuffle hbecomes⟩

/-- Streams that were left behind end phases that are not theirs: the shuffle of one demo is over
when that of an earlier demo ends, and the hand is complete while its deck is shuffled once more. -/
theorem streams_end_out_of_turn :
    let other := { someDemo with gameId := 12 }
    let first := [.called .start, .replied 0 (.ok someDemo), .called (.begin .shuffle 100)]
    let again := Scene.play someLedger (first ++ [.called .start, .replied 1 (.ok other)])
    let twice := Scene.play someLedger (first
      ++ [.ended 0 103, .called (.begin .deal 110), .called (.begin .shuffle 112)])
    Course someLedger Scene.Possible .opening
        (first ++ [.called .start, .replied 1 (.ok other)]) again
      ∧ again.Possible (.ended 0 103) ∧ again.walkthrough.progress = .ready other.ids
      ∧ again.Becomes someLedger (.ended 0 103) .shuffleComplete
      ∧ Course someLedger Scene.Possible .opening (first
        ++ [.ended 0 103, .called (.begin .deal 110), .called (.begin .shuffle 112)]) twice
      ∧ twice.Possible (.ended 1 115) ∧ twice.walkthrough.progress.phase = .shuffling
      ∧ twice.Becomes someLedger (.ended 1 115) .complete :=
  ⟨.cons trivial (.cons (by decide) (.cons trivial (.cons trivial (.cons (by decide) (.nil _))))),
    by decide, rfl, ⟨by decide, rfl⟩,
    .cons trivial (.cons (by decide) (.cons trivial (.cons (by decide) (.cons trivial
      (.cons trivial (.nil _)))))),
    by decide, rfl, ⟨by decide, rfl⟩⟩

end MentalPoker.Walkthrough
