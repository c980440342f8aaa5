import MentalPoker.Proofs.Walkthrough.Scene

/-!
# Requests for a demo

A demo is asked for once at a time: while a reply is awaited, further calls are ignored. A reset
forgets the request, though, without calling it off. The reply still comes, and is taken for the
reply to whatever is awaited by then. So each reset that comes in between adds one request to those
under way, and only where no reset interrupts a request there is at most one, and its reply is never
stale.

## The architecture

* **`Accounted`**: how many requests are under way, and since when. One case for each happening.
* **`replies_are_current`**: the bound for every course, and what follows where nothing is
  interrupted.
* **`stale_replies_are_taken`**: what an interruption does.
-/

namespace MentalPoker.Walkthrough

/-- Of the requests under way one is accounted for by the walkthrough, and each other one by an
interruption. Without those, all of them were made since the last reset. -/
structure Scene.Accounted (s : Scene) : Prop where
  count : s.awaited.length ≤ (if s.walkthrough.starting then 1 else 0) + s.interruptions
  forgotten_le : s.forgotten ≤ s.made
  current : s.interruptions = 0 → ∀ request ∈ s.awaited, s.forgotten ≤ request

namespace Scene.Accounted

variable {a : LedgerAddress} {s : Scene}

/-- Happenings that leave the requests alone. -/
theorem of_same {s' : Scene} (hs : s.Accounted)
    (hstarting : s'.walkthrough.starting = s.walkthrough.starting) (hmade : s'.made = s.made)
    (hawaited : s'.awaited = s.awaited) (hforgotten : s'.forgotten = s.forgotten)
    (hinterruptions : s'.interruptions = s.interruptions) : s'.Accounted where
  count := by rw [hawaited, hstarting, hinterruptions]; exact hs.count
  forgotten_le := by rw [hforgotten, hmade]; exact hs.forgotten_le
  current := by rw [hinterruptions, hawaited, hforgotten]; exact hs.current

theorem start (hs : s.Accounted) : (s.happen a (.called .start)).Accounted := by
  cases hstarting : s.walkthrough.starting with
  | true =>
    rw [happen_start_awaiting a s hstarting]
    exact hs
  | false =>
    have hcount := hs.count
    rw [hstarting] at hcount
    rw [happen_start a s hstarting]
    refine ⟨?_, Nat.le_succ_of_le hs.forgotten_le, fun hnone request hrequest => ?_⟩
    · simp only [List.length_append, List.length_singleton, if_true]
      simp only [Bool.false_eq_true, if_false] at hcount
      omega
    · rcases List.mem_append.mp hrequest with hrequest | hrequest
      · exact hs.current hnone request hrequest
      · rw [List.mem_singleton.mp hrequest]
        exact hs.forgotten_le

/-- A walkthrough that forgets its request leaves it to be accounted for by an interruption. -/
theorem forgets {call : Call} (h : call.forgets = true) (hs : s.Accounted) :
    (s.happen a (.called call)).Accounted := by
  have hcount := hs.count
  rw [happen_forgets a s h]
  by_cases hawaited : s.awaited = []
  · -- nothing was under way, and nothing is
    refine ⟨?_, Nat.le_refl _, fun _ request hrequest => ?_⟩
    · simp [hawaited]
    · rw [hawaited] at hrequest
      cases hrequest
  · -- the interruption makes up for the request that is not awaited any more
    refine ⟨?_, Nat.le_refl _, fun hnone => ?_⟩
    · simp only [hawaited, if_false, fresh, Bool.false_eq_true]
      split at hcount <;> omega
    · simp only [if_neg hawaited] at hnone
      exact absurd hnone (Nat.succ_ne_zero _)

theorem replied {request : Nat} (hrequest : request ∈ s.awaited)
    (reply : Except CallFault DemoInfo) (hs : s.Accounted) :
    (s.happen a (.replied request reply)).Accounted := by
  have hcount := hs.count
  have hlength : (s.awaited.erase request).length = s.awaited.length - 1 :=
    List.length_erase_of_mem hrequest
  rw [happen_replied]
  refine ⟨?_, hs.forgotten_le, fun hnone other hother =>
    hs.current hnone other (List.mem_of_mem_erase hother)⟩
  -- one request less, also where it was not the one that the walkthrough awaited
  simp only [hlength]
  split at hcount <;> omega

theorem happen {h : Happening} (hpossible : s.Possible h) (hs : s.Accounted) :
    (s.happen a h).Accounted := by
  cases h with
  | called call =>
    cases call with
    | start => exact hs.start
    | reset => exact hs.forgets rfl
    | close => exact hs.forgets rfl
    | begin k now =>
      cases hgrant : s.walkthrough.grant k with
      | error message =>
        rw [happen_begin_refused a s hgrant]
        exact hs.of_same rfl rfl rfl rfl rfl
      | ok demo =>
        rw [happen_begin a s hgrant]
        have hstarting : (beginning s.walkthrough k now).starting = s.walkthrough.starting := by
          cases k <;> rfl
        exact hs.of_same hstarting rfl rfl rfl rfl
  | replied request reply => exact hs.replied hpossible reply
  | ended stream now =>
    have hstarting : (s.walkthrough.closed stream now).starting = s.walkthrough.starting := by
      unfold closed
      split
      · rfl
      · next k _ => cases k <;> rfl
    exact hs.of_same hstarting rfl rfl rfl rfl
  | failed stream message last =>
    rw [happen_failed]
    exact hs.of_same rfl rfl rfl rfl rfl

end Scene.Accounted

/-- **Replies are current unless a reset interrupts.** In every course of calls, replies and ends of
streams, the requests under way are at most the one that the walkthrough awaits and one for each
reset that came while a reply was awaited. Where there was no such reset, at most one request is
under way, and it was made since the last reset: no reply is left that could come to a walkthrough
that has forgotten its request. -/
theorem replies_are_current {a : LedgerAddress} {happenings : List Happening} {s : Scene}
    (h : Course a Scene.Possible .opening happenings s) :
    s.awaited.length ≤ (if s.walkthrough.starting then 1 else 0) + s.interruptions
      ∧ (s.interruptions = 0 →
        s.awaited.length ≤ 1 ∧ ∀ request ∈ s.awaited, s.forgotten ≤ request) := by
  have hopening : Scene.opening.Accounted := ⟨by decide, by decide, fun _ => nofun⟩
  have hs : s.Accounted := h.keeps (fun _ _ hpossible hs => hs.happen hpossible) hopening
  refine ⟨hs.count, fun hnone => ⟨?_, hs.current hnone⟩⟩
  have hcount := hs.count
  split at hcount <;> omega

/-- A demo is asked for again after a reset that interrupted nothing. -/
theorem replies_are_current_again :
    let happenings := [.called .start, .replied 0 (.ok someDemo), .called .reset, .called .start]
    let s := Scene.play someLedger happenings
    Course someLedger Scene.Possible .opening happenings s
      ∧ s.interruptions = 0 ∧ s.awaited = [1] ∧ s.walkthrough.starting = true
      ∧ s.awaited.length ≤ 1 ∧ ∀ request ∈ s.awaited, s.forgotten ≤ request := by
  intro happenings s
  have hcourse : Course someLedger Scene.Possible .opening happenings s :=
    .cons trivial (.cons (by decide) (.cons trivial (.cons trivial (.nil _))))
  exact ⟨hcourse, rfl, rfl, rfl, (replies_are_current hcourse).2 rfl⟩

/-- The reply to a request that a reset interrupted is taken all the same, so that the walkthrough
is ready with a demo that nobody waits for. And another request can be made before it comes. -/
theorem stale_replies_are_taken :
    let s := Scene.play someLedger [.called .start, .called .reset]
    Course someLedger Scene.Possible .opening [.called .start, .called .reset] s
      ∧ s.walkthrough = .fresh ∧ s.forgotten = 1 ∧ s.Possible (.replied 0 (.ok someDemo))
      ∧ (s.happen someLedger (.replied 0 (.ok someDemo))).walkthrough.progress
        = .ready someDemo.ids
      ∧ (s.happen someLedger (.replied 0 (.ok someDemo))).walkthrough.info = some someDemo
      ∧ (s.happen someLedger (.called .start)).awaited = [0, 1] :=
  ⟨.cons trivial (.cons trivial (.nil _)), rfl, rfl, by decide, rfl, rfl, rfl⟩

end MentalPoker.Walkthrough
