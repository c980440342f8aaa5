import MentalPoker.Proofs.Hand.Growth

/-!
# When cards come onto a table

The deal is accepted in every phase but the last, and it brings the hand into its dealing phase only
from the shuffle. So a table on which cards lie belongs to a hand that is being dealt, or was dealt,
unless the deal was called for before the hand had begun: such a deal fills the table and leaves the
hand idle.

## The crux

A card goes back to one deal, and no other hand began since (`SeededBy.keepsHand`). At that deal the
phase came to `dealing`, or it was `idle` and stayed so (`SeededBy.deal`); from there on it never
goes back (`grows_run`).
-/

namespace MentalPoker

namespace HandState

variable {slot : Slot} {before : List Action} {deck : List Card} {after : List Action}

/-- While a card lies on the table no other hand begins, for that would clear the card away. -/
theorem SeededBy.keepsHand (h : SeededBy slot before deck after) :
    ∀ a ∈ after, a.beginsHand = false := by
  intro a ha
  obtain ⟨first, rest, rfl⟩ := List.append_of_mem ha
  have hupto : first ++ [a] <+: first ++ a :: rest := ⟨rest, by simp⟩
  have hpresent := h.present (first ++ [a]) hupto
  have hlast : before ++ .startDealing deck :: (first ++ [a])
      = (before ++ .startDealing deck :: first) ++ [a] := by simp
  rw [hlast, run_concat, get?_cards_step] at hpresent
  cases a with
  | initGame => cases hpresent
  | _ => rfl

/-- The deal that brought a card was accepted: it came before the end of the hand, and it took a
hand that was being shuffled to the dealing phase. -/
theorem SeededBy.deal (h : SeededBy slot before deck after) :
    (fresh.run before).phase ≠ .complete
      ∧ (fresh.run (before ++ [.startDealing deck])).phase =
        if (fresh.run before).phase = .shuffling then .dealing else (fresh.run before).phase := by
  have hpresent := h.present [] List.nil_prefix
  rw [run_concat, step_startDealing] at hpresent ⊢
  -- a deal that is refused brings nothing, and nothing lay at the slot
  by_cases haccepted : (fresh.run before).cards.isEmpty ∧ (fresh.run before).phase ≠ .complete
  · rw [if_pos haccepted]
    exact ⟨haccepted.2, rfl⟩
  · rw [if_neg haccepted, h.absent] at hpresent
    cases hpresent

/-- A card that was dealt to a hand that had begun lies on the table of a hand that is being dealt,
or was dealt. -/
theorem SeededBy.phase (h : SeededBy slot before deck after)
    (hbegun : (fresh.run before).phase ≠ .idle) :
    (fresh.run (before ++ .startDealing deck :: after)).phase = .dealing
      ∨ (fresh.run (before ++ .startDealing deck :: after)).phase = .complete := by
  obtain ⟨hgoes, hphase⟩ := h.deal
  have hdealing : (fresh.run (before ++ [.startDealing deck])).phase = .dealing := by
    rw [hphase]
    cases hbefore : (fresh.run before).phase with
    | idle => exact absurd hbefore hbegun
    | shuffling => rfl
    | dealing => rfl
    | complete => exact absurd hbefore hgoes
  have hgrows := grows_run h.keepsHand (fresh.run (before ++ [.startDealing deck]))
  have hlater : (fresh.run (before ++ [.startDealing deck])).run after
      = fresh.run (before ++ .startDealing deck :: after) := by
    rw [← run_append, List.append_assoc, List.singleton_append]
  have hrank := hgrows.phase
  rw [hlater, hdealing] at hrank
  -- from the dealing phase the rank can only stay or come to that of the last phase
  cases hnow : (fresh.run (before ++ .startDealing deck :: after)).phase with
  | idle | shuffling =>
    rw [hnow] at hrank
    exact absurd hrank (by decide)
  | dealing => exact .inl rfl
  | complete => exact .inr rfl

/-- **Cards lie on the table of a hand that had begun.** Every card on the table goes back to a deal
of this hand, with which it came and since which it lay there. If the hand had begun by then, it is
now being dealt or was dealt; if it had not, that deal left it idle. So a table with cards belongs
to a hand that is being dealt or was dealt, or that was dealt while it was idle. -/
theorem cards_lie_where_dealt (actions : List Action) :
    let s := fresh.run actions
    (∀ slot card, Table.get? slot s.cards = some card →
        ∃ before deck after, actions = before ++ .startDealing deck :: after
          ∧ SeededBy slot before deck after
          ∧ (∀ a ∈ after, a.beginsHand = false)
          ∧ if (fresh.run before).phase = .idle then
              (fresh.run (before ++ [.startDealing deck])).phase = .idle
            else s.phase = .dealing ∨ s.phase = .complete)
      ∧ (s.cards ≠ [] → s.phase = .dealing ∨ s.phase = .complete
          ∨ ∃ before deck after, actions = before ++ .startDealing deck :: after
            ∧ (fresh.run before).phase = .idle ∧ ∀ a ∈ after, a.beginsHand = false) := by
  intro s
  have hhistory : ∀ slot card, Table.get? slot s.cards = some card →
      ∃ before deck after, actions = before ++ .startDealing deck :: after
        ∧ SeededBy slot before deck after
        ∧ (∀ a ∈ after, a.beginsHand = false)
        ∧ if (fresh.run before).phase = .idle then
            (fresh.run (before ++ [.startDealing deck])).phase = .idle
          else s.phase = .dealing ∨ s.phase = .complete := by
    intro slot card hcard
    obtain ⟨before, deck, after, rfl, hseeded, -⟩ := exists_seededBy actions hcard
    refine ⟨before, deck, after, rfl, hseeded, hseeded.keepsHand, ?_⟩
    split
    · next hidle =>
      rw [hseeded.deal.2, hidle]
      rfl
    · next hbegun => exact hseeded.phase hbegun
  refine ⟨hhistory, fun hcards => ?_⟩
  -- any card of the table tells when it was dealt
  obtain ⟨entry, rest, hentry⟩ := List.exists_cons_of_ne_nil hcards
  have hcard : Table.get? entry.1 s.cards = some entry.2 := by
    rw [hentry, Table.get?, if_pos rfl]
  obtain ⟨before, deck, after, hcut, -, hsame, hphase⟩ := hhistory entry.1 entry.2 hcard
  by_cases hidle : (fresh.run before).phase = .idle
  · exact .inr (.inr ⟨before, deck, after, hcut, hidle, hsame⟩)
  · rw [if_neg hidle] at hphase
    exact hphase.imp_right .inl

/-- **An idle hand can be dealt.** The deal is called for before any hand began: it fills the table
for the usual count of players, and the hand stays idle. When the hand begins after all, it is
shuffled with its cards on the table. -/
theorem idle_hands_are_dealt :
    ((fresh.run [.startDealing []]).cards ≠ [] ∧ (fresh.run [.startDealing []]).phase = .idle)
      ∧ ((fresh.run [.startDealing [], .startShuffle]).cards ≠ []
        ∧ (fresh.run [.startDealing [], .startShuffle]).phase = .shuffling) := by
  decide +kernel

end HandState

end MentalPoker
