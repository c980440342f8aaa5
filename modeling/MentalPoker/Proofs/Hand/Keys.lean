import MentalPoker.Proofs.Hand.Mirror
import MentalPoker.Proofs.Hand.Seeding

/-!
# The viewer's key and his cards

The viewer's key is kept in the picture, and each of his cards got a copy of it when the cards came
onto the table. Two actions can bring a key: another hand, which clears the table, and the news of
the key alone, which may come at any time and leaves the cards as they are.

## The crux

A card on the table is the card that its deal brought, worked on by the actions since then
(`SeededBy.card`), and none of those writes the key of a card. So the copy is the last key that came
before the deal, while the picture has the last key of all: they are the same unless the news of
another key came after the cards.

## The architecture

* **`Action.lastKey?`**: the last key that some actions brought, which the picture has after them
  (`HandState.run_viewerKey`).
* **`HandState.SeededBy.card`**: the whole card, by induction on the actions since the deal.
-/

namespace MentalPoker

namespace Action

/-- The viewer's key that an action brings. -/
def key? : Action → Option Json
  | initGame _ _ _ key => if key.truthy then some key else none
  | setViewerKey key => some key
  | _ => none

/-- The last of the keys that some actions brought. -/
def lastKey? (actions : List Action) : Option Json := (actions.filterMap key?).getLast?

theorem lastKey?_concat (actions : List Action) (a : Action) :
    lastKey? (actions ++ [a]) = a.key?.or (lastKey? actions) := by
  rw [lastKey?, List.filterMap_append, List.getLast?_append]
  cases h : a.key? <;> simp [h, lastKey?]

/-- No action writes the key of a card. -/
theorem targetKey_onCard (viewer : Int) (slot : Slot) (card : CardProgress) (a : Action) :
    (a.onCard viewer slot card).targetKey = card.targetKey := by
  have hmark : (a.mark viewer card).targetKey = card.targetKey := by
    cases a with
    | shareReceived kind r => cases kind <;> rfl
    | cardRevealed slot face =>
      simp only [mark]
      split <;> rfl
    | _ => rfl
  unfold onCard
  split
  · exact hmark
  · rfl

end Action

namespace HandState

/-- **The viewer's key** after some actions: the last that they brought. -/
theorem run_viewerKey (s : HandState) (actions : List Action) :
    (s.run actions).viewerKey = (Action.lastKey? actions).getD s.viewerKey := by
  induction actions using List.reverseRecOn with
  | nil => rfl
  | append_singleton actions a ih =>
    rw [run_concat, step_viewerKey, Action.lastKey?_concat]
    cases a with
    | initGame gameId handId players key =>
      -- a hand that brings no key leaves the one that is known
      by_cases hkey : key.truthy
      · simp only [Action.key?, if_pos hkey, Option.some_or, Option.getD_some]
      · simp only [Action.key?, if_neg hkey, Option.none_or]
        exact ih
    | setViewerKey key => rfl
    | _ => exact ih

/-! ## The card since its deal -/

variable {slot : Slot} {before : List Action} {deck : List Card} {after : List Action}

/-- A cut at the deal of a card is one for every beginning of what came since. -/
theorem SeededBy.of_prefix {later : List Action} (h : SeededBy slot before deck after)
    (hlater : later <+: after) : SeededBy slot before deck later where
  absent := h.absent
  present l hl := h.present l (hl.trans hlater)

/-- The card as its deal brought it. -/
def dealtAs (s : HandState) (slot : Slot) : CardProgress :=
  .seeded slot (if slot.seat = s.viewerSeat then s.viewerKey else .null) s.playerCount

/-- **The whole card since its deal**: every action since then worked on it in turn. -/
theorem SeededBy.card (h : SeededBy slot before deck after) :
    Table.get? slot (fresh.run (before ++ .startDealing deck :: after)).cards
      = some (after.foldl (fun card a => a.onCard MentalPoker.viewerSeat slot card)
          ((fresh.run before).dealtAs slot)) := by
  induction after using List.reverseRecOn with
  | nil =>
    have hpresent := h.present [] List.nil_prefix
    rw [run_concat, get?_cards_step] at hpresent ⊢
    simp only at hpresent ⊢
    -- a refused deal brings no card, and an accepted one brings it to a slot of its table
    split at hpresent
    · next haccepted =>
      rw [get?_seededCards] at hpresent
      split at hpresent
      · next hslot =>
        rw [if_pos haccepted, get?_seededCards, if_pos hslot]
        rfl
      · cases hpresent
    · rw [h.absent] at hpresent
      cases hpresent
  | append_singleton after a ih =>
    have hbefore := ih (h.of_prefix ⟨[a], rfl⟩)
    have hcut : before ++ .startDealing deck :: (after ++ [a])
        = before ++ .startDealing deck :: after ++ [a] := by simp
    obtain ⟨card, hcard⟩ := Option.isSome_iff_exists.mp (h.present (after ++ [a]) List.prefix_rfl)
    rw [hcut] at hcard ⊢
    have hstep := hcard
    rw [run_concat] at hstep
    rcases card_of_step hstep with ⟨_, -, habsent, -⟩ | ⟨old, hold, hworked⟩
    · rw [hbefore] at habsent
      cases habsent
    · have hsame := Option.some.inj (hbefore.symm.trans hold)
      rw [hcard, hworked, run_fresh_viewerSeat, List.foldl_append, hsame]
      rfl

/-- The key of a card is that of the deal. -/
theorem SeededBy.targetKey (h : SeededBy slot before deck after) {card : CardProgress}
    (hcard : Table.get? slot (fresh.run (before ++ .startDealing deck :: after)).cards = some card) :
    card.targetKey = if slot.seat = MentalPoker.viewerSeat then (fresh.run before).viewerKey
      else .null := by
  have hkeeps : ∀ (actions : List Action) (c : CardProgress),
      (actions.foldl (fun c a => a.onCard MentalPoker.viewerSeat slot c) c).targetKey
        = c.targetKey := by
    intro actions
    induction actions with
    | nil => exact fun _ => rfl
    | cons a actions ih => exact fun c => (ih _).trans (Action.targetKey_onCard _ slot c a)
  rw [h.card] at hcard
  rw [← Option.some.inj hcard, hkeeps, dealtAs, run_fresh_viewerSeat]
  rfl

/-- **Cards keep the key of their deal.** After any actions the picture has the last key that they
brought. A card of another seat has no key. A card of the viewer has the last key that came before
the deal which brought it, or none; it is the key of the picture unless the last key since that deal
is another one. -/
theorem cards_keep_the_key_of_their_deal (actions : List Action) :
    let s := fresh.run actions
    s.viewerKey = (Action.lastKey? actions).getD .null
      ∧ ∀ slot card, Table.get? slot s.cards = some card →
        (slot.seat ≠ s.viewerSeat → card.targetKey = .null)
        ∧ (slot.seat = s.viewerSeat →
          ∃ before deck after, actions = before ++ .startDealing deck :: after
            ∧ SeededBy slot before deck after
            ∧ card.targetKey = (Action.lastKey? before).getD .null
            ∧ (card.targetKey = s.viewerKey
              ↔ ∀ key, Action.lastKey? after = some key → key = card.targetKey)) := by
  intro s
  refine ⟨run_viewerKey fresh actions, fun slot card hcard => ?_⟩
  obtain ⟨before, deck, after, rfl, hseeded, -⟩ := exists_seededBy actions hcard
  have hseat : s.viewerSeat = MentalPoker.viewerSeat := run_fresh_viewerSeat _
  have htarget := hseeded.targetKey hcard
  rw [hseat]
  refine ⟨fun hother => by rw [htarget, if_neg hother],
    fun hviewer => ⟨before, deck, after, rfl, hseeded, ?_, ?_⟩⟩
  · rw [htarget, if_pos hviewer]
    exact run_viewerKey fresh before
  · -- the deal brings no key, so the picture goes on from the key of the card
    have hsince : s.viewerKey = (Action.lastKey? after).getD card.targetKey := by
      show (fresh.run (before ++ .startDealing deck :: after)).viewerKey = _
      rw [run_append, run_cons, run_viewerKey, step_viewerKey, htarget, if_pos hviewer]
    rw [hsince]
    cases Action.lastKey? after with
    | none => simp
    | some key => simp [eq_comm]

/-- **A key that comes late is not copied.** The viewer's key comes when his cards lie on the table:
the picture has it, and his first card has none. -/
theorem late_keys_are_not_copied :
    let s := fresh.run [.initGame 1 7 2 .null, .startShuffle, .startDealing [],
      .setViewerKey (.str (text "0xbeef"))]
    ∃ card, Table.get? ⟨0, 0⟩ s.cards = some card ∧ s.viewerSeat = 0
      ∧ s.viewerKey = .str (text "0xbeef") ∧ card.targetKey = .null
      ∧ card.targetKey ≠ s.viewerKey := by
  refine ⟨.seeded ⟨0, 0⟩ .null 2, ?_⟩
  decide +kernel

end HandState

end MentalPoker
