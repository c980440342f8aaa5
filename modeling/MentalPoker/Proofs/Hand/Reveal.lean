import Mathlib.Data.List.Induction
import MentalPoker.Proofs.Hand.Steps

/-!
# Who sees which face

A face is shown only at the viewer's seat, and only after its card came onto the table. Reveals
that come before the deal are lost, and a new hand takes the old cards with their faces away.

## The architecture

* **`card_of_step`**: a card that lies on the table after an action was dealt by it, or lay there
  before and was worked on. Every history of a card is built from these two.
* **`SeededBy`**: a series of actions, cut at the deal that brought a card.
* **`exists_seededBy`**: the history of a card, by induction from the last action back.
-/

namespace MentalPoker

namespace Action

/-- The face that an action brings for the card at a slot. -/
def faceAt? (slot : Slot) : Action → Option Card
  | cardRevealed k face => if k = slot then some face else none
  | _ => none

/-- The face that the last reveal of a card brought. -/
def lastFace? (slot : Slot) (actions : List Action) : Option Card :=
  (actions.filterMap (faceAt? slot)).getLast?

theorem lastFace?_concat (slot : Slot) (actions : List Action) (a : Action) :
    lastFace? slot (actions ++ [a]) = (a.faceAt? slot).or (lastFace? slot actions) := by
  rw [lastFace?, List.filterMap_append, List.getLast?_append]
  cases h : a.faceAt? slot <;> simp [h, lastFace?]

theorem faceAt?_eq_some {slot : Slot} {a : Action} {face : Card} :
    a.faceAt? slot = some face ↔ a = cardRevealed slot face := by
  cases a <;> simp only [faceAt?, reduceCtorEq, cardRevealed.injEq]
  case cardRevealed k face' =>
    by_cases h : k = slot
    · simp [h]
    · simp [h]

/-- A last reveal exists when there is one at all. -/
theorem lastFace?_isSome {slot : Slot} {actions : List Action} :
    (lastFace? slot actions).isSome = true ↔ ∃ face, cardRevealed slot face ∈ actions := by
  rw [lastFace?, List.getLast?_isSome]
  constructor
  · intro h
    obtain ⟨face, hface⟩ := List.exists_mem_of_ne_nil _ h
    obtain ⟨a, ha, hbrings⟩ := List.mem_filterMap.mp hface
    rw [faceAt?_eq_some] at hbrings
    exact ⟨face, hbrings ▸ ha⟩
  · rintro ⟨face, ha⟩
    exact List.ne_nil_of_mem (List.mem_filterMap.mpr ⟨_, ha, faceAt?_eq_some.mpr rfl⟩)

/-! ## What an action does to a face -/

@[simp] theorem addShare_face (kind : ShareKind) (r : ShareReceipt) (card : CardProgress) :
    (HandState.addShare kind r card).face = card.face := by
  cases kind <;> rfl

@[simp] theorem addShare_revealed (kind : ShareKind) (r : ShareReceipt) (card : CardProgress) :
    (HandState.addShare kind r card).revealed = card.revealed := by
  cases kind <;> rfl

/-- Faces of other seats are never kept. -/
theorem onCard_of_other_seat {viewer : Int} {slot : Slot} (h : slot.seat ≠ viewer)
    (card : CardProgress) (a : Action) :
    (a.onCard viewer slot card).revealed = card.revealed
      ∧ (a.onCard viewer slot card).face = card.face := by
  by_cases ha : a.target? = some slot
  · rw [onCard_of_target?_eq ha]
    cases a <;> simp only [target?, Option.some.injEq, reduceCtorEq] at ha <;> subst ha
    case cardRevealed slot face =>
      rw [mark, if_neg h]
      exact ⟨rfl, rfl⟩
    all_goals simp [mark]
  · rw [onCard_of_target?_ne ha]
    exact ⟨rfl, rfl⟩

/-- The viewer's card shows the face that an action brings, and else the face that it had. -/
theorem onCard_of_viewer_seat {viewer : Int} {slot : Slot} (h : slot.seat = viewer)
    (card : CardProgress) (a : Action) :
    (a.onCard viewer slot card).revealed = ((a.faceAt? slot).isSome || card.revealed)
      ∧ (a.onCard viewer slot card).face = (a.faceAt? slot).or card.face := by
  by_cases ha : a.target? = some slot
  · rw [onCard_of_target?_eq ha]
    cases a <;> simp only [target?, Option.some.injEq, reduceCtorEq] at ha <;> subst ha
    case cardRevealed slot face =>
      rw [mark, if_pos h, faceAt?, if_pos rfl]
      exact ⟨rfl, rfl⟩
    all_goals simp [mark, faceAt?]
  · -- a reveal is about its own card, so no face for this one is brought
    have hface : a.faceAt? slot = none := by
      rw [Option.eq_none_iff_forall_ne_some]
      intro face hface
      rw [faceAt?_eq_some] at hface
      exact ha (by rw [hface, target?])
    rw [onCard_of_target?_ne ha, hface]
    exact ⟨rfl, rfl⟩

end Action

namespace HandState

/-! ## The history of a card -/

/-- A card on the table was dealt by the last action, or it lay there before. -/
theorem card_of_step {s : HandState} {a : Action} {slot : Slot} {card : CardProgress}
    (h : Table.get? slot (s.step a).cards = some card) :
    (∃ deck, a = .startDealing deck ∧ Table.get? slot s.cards = none
        ∧ card.revealed = false ∧ card.face = none)
      ∨ ∃ old, Table.get? slot s.cards = some old ∧ card = a.onCard s.viewerSeat slot old := by
  rw [get?_cards_step] at h
  cases a with
  | initGame => cases h
  | startDealing deck =>
    simp only at h
    split at h
    · next hempty =>
      -- the deal took place, so the table was empty before it
      have hnil : s.cards = [] := List.isEmpty_iff.mp hempty.1
      rw [get?_seededCards] at h
      split at h
      · cases h
        exact .inl ⟨deck, rfl, by rw [hnil, Table.get?_nil], rfl, rfl⟩
      · cases h
    · -- a second deal changes nothing, so the card lay there before
      exact .inr ⟨card, h, (Action.onCard_of_target?_ne (by simp [Action.target?])).symm⟩
  | _ =>
    obtain ⟨old, hold, rfl⟩ := Option.map_eq_some_iff.mp h
    exact .inr ⟨old, hold, rfl⟩

/-- A series of actions, cut at the deal that brought the card at a slot: before it the card was
not on the table, from then on it was there all the time. -/
structure SeededBy (slot : Slot) (before : List Action) (deck : List Card)
    (after : List Action) : Prop where
  absent : Table.get? slot (fresh.run before).cards = none
  present : ∀ later, later <+: after →
    (Table.get? slot (fresh.run (before ++ .startDealing deck :: later)).cards).isSome = true

/-- The card that a deal brings. -/
theorem SeededBy.start {slot : Slot} {before : List Action} {deck : List Card}
    (habsent : Table.get? slot (fresh.run before).cards = none)
    (h : (Table.get? slot (fresh.run (before ++ [.startDealing deck])).cards).isSome = true) :
    SeededBy slot before deck [] where
  absent := habsent
  present later hlater := by
    rw [List.prefix_nil.mp hlater]
    exact h

/-- The card stays through one more action. -/
theorem SeededBy.concat {slot : Slot} {before : List Action} {deck : List Card}
    {after : List Action} {a : Action} (h : SeededBy slot before deck after)
    (hnext : (Table.get? slot
      (fresh.run (before ++ .startDealing deck :: (after ++ [a]))).cards).isSome = true) :
    SeededBy slot before deck (after ++ [a]) where
  absent := h.absent
  present later hlater := by
    rcases List.prefix_concat_iff.mp hlater with rfl | hlater
    · exact hnext
    · exact h.present later hlater

/-- **The history of a card.** It goes back to a deal, and only at the viewer's seat do the reveals
since then show. Induction from the last action back. -/
theorem exists_seededBy (actions : List Action) {slot : Slot} {card : CardProgress}
    (h : Table.get? slot (fresh.run actions).cards = some card) :
    ∃ before deck after, actions = before ++ .startDealing deck :: after
      ∧ SeededBy slot before deck after
      ∧ (slot.seat ≠ MentalPoker.viewerSeat → card.revealed = false ∧ card.face = none)
      ∧ (slot.seat = MentalPoker.viewerSeat → card.revealed = (Action.lastFace? slot after).isSome
          ∧ card.face = Action.lastFace? slot after) := by
  induction actions using List.reverseRecOn generalizing card with
  | nil => simp [fresh] at h
  | append_singleton actions a ih =>
    have hpresent : (Table.get? slot (fresh.run (actions ++ [a])).cards).isSome = true := by
      rw [h, Option.isSome_some]
    rw [run_concat] at h
    rcases card_of_step h with ⟨deck, rfl, habsent, hhidden, hnone⟩ | ⟨old, hold, rfl⟩
    · refine ⟨actions, deck, [], rfl, .start habsent hpresent, fun _ => ⟨hhidden, hnone⟩, fun _ => ?_⟩
      rw [hhidden, hnone]
      exact ⟨rfl, rfl⟩
    · obtain ⟨before, deck, after, rfl, hseeded, hother, hviewer⟩ := ih hold
      have hcut : before ++ .startDealing deck :: after ++ [a]
          = before ++ .startDealing deck :: (after ++ [a]) := by simp
      rw [hcut] at hpresent
      refine ⟨before, deck, after ++ [a], hcut, hseeded.concat hpresent, ?_, ?_⟩
      · intro hseat
        rw [run_fresh_viewerSeat]
        obtain ⟨hrevealed, hface⟩ := Action.onCard_of_other_seat hseat old a
        rw [hrevealed, hface]
        exact hother hseat
      · intro hseat
        rw [run_fresh_viewerSeat, Action.lastFace?_concat]
        obtain ⟨hrevealed, hface⟩ := Action.onCard_of_viewer_seat hseat old a
        obtain ⟨hold', hface'⟩ := hviewer hseat
        rw [hrevealed, hface, hold', hface', Option.isSome_or]
        exact ⟨rfl, rfl⟩

/-- **The reveal boundary.** After any actions the viewer sits at seat 0; a card of another seat is
not revealed and has no face; and a card of seat 0 is revealed just when a reveal of it came after
the deal that brought it, and then it shows the face of the last one. -/
theorem revealed_iff_since_deal (actions : List Action) :
    (fresh.run actions).viewerSeat = 0
      ∧ ∀ slot card, Table.get? slot (fresh.run actions).cards = some card →
        (slot.seat ≠ 0 → card.revealed = false ∧ card.face = none)
        ∧ (slot.seat = 0 → ∃ before deck after,
            actions = before ++ .startDealing deck :: after
            ∧ SeededBy slot before deck after
            ∧ (card.revealed = true ↔ ∃ face, .cardRevealed slot face ∈ after)
            ∧ card.face = Action.lastFace? slot after) := by
  refine ⟨run_fresh_viewerSeat actions, fun slot card h => ?_⟩
  obtain ⟨before, deck, after, hcut, hseeded, hother, hviewer⟩ := exists_seededBy actions h
  refine ⟨hother, fun hseat => ⟨before, deck, after, hcut, hseeded, ?_, (hviewer hseat).2⟩⟩
  rw [(hviewer hseat).1]
  exact Action.lastFace?_isSome

end HandState

end MentalPoker
