import Mathlib.Data.List.Nodup
import MentalPoker.Proofs.Hand.Outline

/-!
# How the cards lie on the table

The cards, the queue of the deal and the count of players are kept apart, and several actions
rebuild the first of them. Still they always describe one table: nothing was dealt and the queue is
empty, or there are two cards for each player, each at its slot, and the queue names the same slots
in the same order. The count of players may be any integer; for one that is not positive the deal
brings no card.

## The architecture

* **`dealRound`**: one round of the deal. `dealOrder` is two of them, so what is known of the order
  is known of one round first.
* **`CardProgress.LiesAt`**, **`HandState.Laid`**: the invariant, for one card and for the table.
* **`step_layout`**: what any action does to the slots and to the queue; **`Laid.step`** is the
  step, and `HandState.run_keeps` the induction.
* **`Laid.filter_seat`**: the two entries of a seat, cut out of the table.
-/

namespace MentalPoker

/-! ## The order of the deal -/

/-- The slots of one round: the card `index` of each of `n` seats. -/
def dealRound (n : Nat) (index : Int) : List Slot :=
  (List.range n).map fun (seat : Nat) => ⟨seat, index⟩

theorem dealRound_succ (n : Nat) (index : Int) :
    dealRound (n + 1) index = dealRound n index ++ [⟨n, index⟩] := by
  simp [dealRound, List.range_succ]

theorem index_of_mem_dealRound {n : Nat} {index : Int} {slot : Slot}
    (h : slot ∈ dealRound n index) : slot.index = index := by
  obtain ⟨_, _, rfl⟩ := List.mem_map.mp h
  rfl

theorem nodup_dealRound (n : Nat) (index : Int) : (dealRound n index).Nodup := by
  have hseats : Function.Injective fun (seat : Nat) => (⟨seat, index⟩ : Slot) := by
    intro a b h
    have hseat : (a : Int) = b := congrArg Slot.seat h
    omega
  exact List.nodup_range.map hseats

/-- A seat of the table has one card in each round. -/
theorem filter_dealRound (n : Nat) (index seat : Int) :
    (dealRound n index).filter (fun slot => slot.seat = seat) =
      if 0 ≤ seat ∧ seat < n then [⟨seat, index⟩] else [] := by
  induction n with
  | zero =>
    have hnone : ¬ (0 ≤ seat ∧ seat < (0 : Nat)) := by omega
    rw [if_neg hnone]
    rfl
  | succ n ih =>
    rw [dealRound_succ, List.filter_append, ih]
    by_cases hlast : seat = n
    · -- the last seat is met for the first time
      have hbefore : ¬ (0 ≤ seat ∧ seat < n) := by omega
      have hnow : 0 ≤ seat ∧ seat < (n + 1 : Nat) := by omega
      rw [if_neg hbefore, if_pos hnow, hlast]
      simp
    · have hother : (n : Int) ≠ seat := fun h => hlast h.symm
      have hsame : (0 ≤ seat ∧ seat < (n + 1 : Nat)) ↔ (0 ≤ seat ∧ seat < n) := by omega
      have hnone : [(⟨n, index⟩ : Slot)].filter (fun slot => slot.seat = seat) = [] := by
        simp [hother]
      rw [hnone, List.append_nil]
      simp only [hsame]

theorem dealOrder_eq (players : Int) :
    dealOrder players = dealRound players.toNat 0 ++ dealRound players.toNat 1 := by
  simp [dealOrder, dealRound]

theorem nodup_dealOrder (players : Int) : (dealOrder players).Nodup := by
  rw [dealOrder_eq, List.nodup_append]
  refine ⟨nodup_dealRound _ 0, nodup_dealRound _ 1, ?_⟩
  rintro slot hfirst _ hsecond rfl
  have hindex := (index_of_mem_dealRound hfirst).symm.trans (index_of_mem_dealRound hsecond)
  omega

/-- The slots of a seat, in the order of the deal. -/
theorem filter_dealOrder (players seat : Int) :
    (dealOrder players).filter (fun slot => slot.seat = seat) =
      if 0 ≤ seat ∧ seat < players then [⟨seat, 0⟩, ⟨seat, 1⟩] else [] := by
  have hseat : (0 ≤ seat ∧ seat < players.toNat) ↔ (0 ≤ seat ∧ seat < players) := by omega
  rw [dealOrder_eq, List.filter_append, filter_dealRound, filter_dealRound]
  simp only [hseat]
  split <;> rfl

/-! ## One card -/

/-- The card was dealt to a slot of a table with so many players. -/
structure CardProgress.LiesAt (card : CardProgress) (slot : Slot) (players : Int) : Prop where
  position : card.position = slot.index
  seat : card.targetSeat = slot.seat
  required : card.required = players

/-- No action moves a card. -/
theorem CardProgress.LiesAt.onCard {card : CardProgress} {slot : Slot} {players : Int}
    (h : card.LiesAt slot players) (viewer : Int) (a : Action) :
    (a.onCard viewer slot card).LiesAt slot players := by
  have hmark : (a.mark viewer card).position = card.position
      ∧ (a.mark viewer card).targetSeat = card.targetSeat
      ∧ (a.mark viewer card).required = card.required := by
    cases a with
    | shareReceived kind r => cases kind <;> exact ⟨rfl, rfl, rfl⟩
    | cardRevealed slot face =>
      simp only [Action.mark]
      split <;> exact ⟨rfl, rfl, rfl⟩
    | _ => exact ⟨rfl, rfl, rfl⟩
  obtain ⟨hposition, hseat, hrequired⟩ := hmark
  unfold Action.onCard
  split
  · exact ⟨hposition.trans h.position, hseat.trans h.seat, hrequired.trans h.required⟩
  · exact h

/-! ## The table -/

namespace HandState

/-- The cards lie as they were dealt. -/
structure Laid (s : HandState) : Prop where
  slots : (Table.keys s.cards = [] ∧ s.dealQueue = [])
    ∨ (Table.keys s.cards = dealOrder s.playerCount ∧ s.dealQueue = dealOrder s.playerCount)
  places : ∀ slot card, Table.get? slot s.cards = some card → card.LiesAt slot s.playerCount

theorem laid_fresh : fresh.Laid where
  slots := .inl ⟨rfl, rfl⟩
  places _ _ h := nomatch h

theorem keys_step_of_target? (s : HandState) {a : Action} {slot : Slot}
    (ha : a.target? = some slot) :
    Table.keys (s.step a).cards = Table.keys s.cards ∧ (s.step a).dealQueue = s.dealQueue := by
  cases hcard : Table.get? slot s.cards with
  | none =>
    have hsame : s.step a = s := by rw [step, step?_of_absent ha hcard, Option.getD_none]
    rw [hsame]
    exact ⟨rfl, rfl⟩
  | some card =>
    obtain ⟨status, hs⟩ := step?_of_present ha hcard
    have hthere : slot ∈ Table.keys s.cards :=
      List.mem_map_of_mem (Table.mem_of_get?_eq_some hcard)
    rw [step, hs, Option.getD_some, Table.keys_insert, if_pos hthere]
    exact ⟨rfl, rfl⟩

/-- **The slots and the queue** after any action. -/
theorem step_layout (s : HandState) (a : Action) :
    (Table.keys (s.step a).cards, (s.step a).dealQueue) =
      match a with
      | .initGame .. => ([], [])
      | .startDealing _ =>
        if s.cards.isEmpty ∧ s.phase ≠ .complete then
          (dealOrder s.playerCount, dealOrder s.playerCount)
        else (Table.keys s.cards, s.dealQueue)
      | _ => (Table.keys s.cards, s.dealQueue) := by
  have hprogress {a : Action} (ha : a.isProgress = true) :
      (Table.keys (s.step a).cards, (s.step a).dealQueue)
        = (Table.keys s.cards, s.dealQueue) := by
    obtain ⟨_, _, _, _, hs⟩ := step_eq_of_isProgress (s := s) ha
    rw [hs]
  have htarget {a : Action} {slot : Slot} (ha : a.target? = some slot) :
      (Table.keys (s.step a).cards, (s.step a).dealQueue)
        = (Table.keys s.cards, s.dealQueue) := by
    obtain ⟨hkeys, hqueue⟩ := s.keys_step_of_target? ha
    rw [hkeys, hqueue]
  cases a with
  | initGame | setViewerKey | updateStatus | setError | eventProcessed => rfl
  | startDealing deck =>
    have hseeded : Table.keys s.seededCards = dealOrder s.playerCount := by
      simp [seededCards, Table.keys, Function.comp_def]
    rw [step_startDealing]
    split
    · rw [hseeded]
    · rfl
  | startShuffle | shuffleProgress | shuffleComplete | handComplete => exact hprogress rfl
  | cardDealt | shareReceived | cardDecryptable | cardRevealed => exact htarget rfl

namespace Laid

variable {s : HandState}

theorem places_step (h : s.Laid) (a : Action) {slot : Slot} {card : CardProgress}
    (hcard : Table.get? slot (s.step a).cards = some card) :
    card.LiesAt slot (s.step a).playerCount := by
  have hplayers := congrArg Prod.fst (s.step_table a)
  rw [get?_cards_step] at hcard
  -- any action but a new hand and the deal works on a card that lay there
  have hworked {a : Action} (hsame : (s.step a).playerCount = s.playerCount)
      (hcard : ((Table.get? slot s.cards).map fun card => a.onCard s.viewerSeat slot card)
        = some card) : card.LiesAt slot (s.step a).playerCount := by
    obtain ⟨old, hold, rfl⟩ := Option.map_eq_some_iff.mp hcard
    rw [hsame]
    exact (h.places slot old hold).onCard s.viewerSeat a
  cases a with
  | initGame => cases hcard
  | startDealing deck =>
    have hsame : (s.step (.startDealing deck)).playerCount = s.playerCount := hplayers
    rw [hsame]
    simp only at hcard
    split at hcard
    · rw [get?_seededCards] at hcard
      split at hcard
      · cases hcard
        exact ⟨rfl, rfl, rfl⟩
      · cases hcard
    · exact h.places slot card hcard
  | _ => exact hworked hplayers hcard

theorem step (h : s.Laid) (a : Action) : (s.step a).Laid := by
  refine ⟨?_, fun _ _ hcard => h.places_step a hcard⟩
  have hplayers := congrArg Prod.fst (s.step_table a)
  obtain ⟨hkeys, hqueue⟩ := Prod.mk.inj (s.step_layout a)
  rw [hkeys, hqueue]
  cases a with
  | initGame => exact .inl ⟨rfl, rfl⟩
  | startDealing deck =>
    have hsame : (s.step (.startDealing deck)).playerCount = s.playerCount := hplayers
    rw [hsame]
    simp only
    split
    · exact .inr ⟨rfl, rfl⟩
    · exact h.slots
  | _ =>
    simp only at hplayers
    rw [hplayers]
    exact h.slots

/-- The deal, called for before the hand is complete, leaves the table dealt. -/
theorem startDealing (h : s.Laid) (deck : List Card) (hphase : s.phase ≠ .complete) :
    (s.step (.startDealing deck)).dealQueue = dealOrder s.playerCount
      ∧ Table.keys (s.step (.startDealing deck)).cards = dealOrder s.playerCount := by
  have hlayout := s.step_layout (.startDealing deck)
  simp only at hlayout
  by_cases hcards : s.cards = []
  · have hbare : s.cards.isEmpty ∧ s.phase ≠ .complete := ⟨by rw [hcards]; rfl, hphase⟩
    rw [if_pos hbare] at hlayout
    obtain ⟨hkeys, hqueue⟩ := Prod.mk.inj hlayout
    exact ⟨hqueue, hkeys⟩
  · -- the deal is refused, for the table was dealt before
    have hrefused : ¬ (s.cards.isEmpty ∧ s.phase ≠ .complete) := fun hbare =>
      hcards (List.isEmpty_iff.mp hbare.1)
    rw [if_neg hrefused] at hlayout
    obtain ⟨hkeys, hqueue⟩ := Prod.mk.inj hlayout
    rw [hkeys, hqueue]
    exact (h.slots.resolve_left fun hbare => hcards (List.map_eq_nil_iff.mp hbare.1)).symm

/-- The two entries of a seat. -/
theorem filter_seat (hkeys : Table.keys s.cards = dealOrder s.playerCount) {seat : Int}
    (hlow : 0 ≤ seat) (hhigh : seat < s.playerCount) :
    ∃ first second, s.cards.filter (fun entry => entry.1.seat = seat)
      = [(⟨seat, 0⟩, first), (⟨seat, 1⟩, second)] := by
  have hslots : (s.cards.filter fun entry => entry.1.seat = seat).map Prod.fst
      = [⟨seat, 0⟩, ⟨seat, 1⟩] := by
    have hcut := filter_dealOrder s.playerCount seat
    rw [if_pos ⟨hlow, hhigh⟩, ← hkeys, Table.keys, List.filter_map] at hcut
    exact hcut
  obtain ⟨⟨_, first⟩, _, hentries, rfl, hrest⟩ := List.map_eq_cons_iff.mp hslots
  obtain ⟨⟨_, second⟩, _, rfl, rfl, hnil⟩ := List.map_eq_cons_iff.mp hrest
  obtain rfl := List.map_eq_nil_iff.mp hnil
  exact ⟨first, second, hentries⟩

/-- **The cards of a seat** of the table: the first and the second, in this order. -/
theorem cardsForSeat_eq (h : s.Laid) (hkeys : Table.keys s.cards = dealOrder s.playerCount)
    {seat : Int} (hlow : 0 ≤ seat) (hhigh : seat < s.playerCount) :
    ∃ first second, Table.get? ⟨seat, 0⟩ s.cards = some first
      ∧ Table.get? ⟨seat, 1⟩ s.cards = some second ∧ s.cardsForSeat seat = [first, second] := by
  obtain ⟨first, second, hcut⟩ := filter_seat hkeys hlow hhigh
  have hnodup : (Table.keys s.cards).Nodup := hkeys ▸ nodup_dealOrder s.playerCount
  have hlies (entry : Slot × CardProgress)
      (hentry : entry ∈ s.cards.filter fun entry => entry.1.seat = seat) :
      Table.get? entry.1 s.cards = some entry.2 :=
    Table.get?_eq_some_of_mem hnodup (List.mem_of_mem_filter hentry)
  have hfirst : Table.get? ⟨seat, 0⟩ s.cards = some first :=
    hlies (⟨seat, 0⟩, first) (by rw [hcut]; simp)
  have hsecond : Table.get? ⟨seat, 1⟩ s.cards = some second :=
    hlies (⟨seat, 1⟩, second) (by rw [hcut]; simp)
  refine ⟨first, second, hfirst, hsecond, ?_⟩
  -- the table gives them in order, so sorting by position changes nothing
  have hordered : first.position ≤ second.position := by
    rw [(h.places _ _ hfirst).position, (h.places _ _ hsecond).position]
    show (0 : Int) ≤ 1
    omega
  rw [cardsForSeat, hcut]
  exact List.mergeSort_of_pairwise (by simpa using hordered)

/-- A seat beside the table has no cards. -/
theorem cardsForSeat_eq_nil (h : s.Laid) {seat : Int}
    (hseat : ¬ (s.cards ≠ [] ∧ 0 ≤ seat ∧ seat < s.playerCount)) : s.cardsForSeat seat = [] := by
  have hnone : (s.cards.filter fun entry => entry.1.seat = seat) = [] := by
    rw [← List.map_eq_nil_iff (f := Prod.fst)]
    rcases h.slots with ⟨hempty, _⟩ | ⟨hkeys, _⟩
    · rw [List.map_eq_nil_iff.mp hempty]
      rfl
    · by_cases hcards : s.cards = []
      · rw [hcards]
        rfl
      · have hcut := filter_dealOrder s.playerCount seat
        rw [if_neg fun hin => hseat ⟨hcards, hin⟩, ← hkeys, Table.keys, List.filter_map] at hcut
        exact hcut
  rw [cardsForSeat, hnone, List.map_nil, List.mergeSort_nil]

end Laid

/-- **The cards lie as they were dealt.** After any actions either nothing lies on the table and the
queue is empty, or the queue is the order of the deal for the count of players and the slots of the
cards are just those of the queue, each once. Every card knows its slot and needs as many shares as
there are players. A seat of a table that was dealt has its two cards, the first before the second,
and any other seat has none. And the deal, called for before the hand is complete, leaves the table
dealt. -/
theorem cards_lie_as_dealt (actions : List Action) :
    let s := fresh.run actions
    ((s.cards = [] ∧ s.dealQueue = [])
        ∨ (s.dealQueue = dealOrder s.playerCount ∧ Table.keys s.cards = dealOrder s.playerCount))
      ∧ (dealOrder s.playerCount).Nodup
      ∧ (∀ slot card, Table.get? slot s.cards = some card →
          card.position = slot.index ∧ card.targetSeat = slot.seat
            ∧ card.required = s.playerCount)
      ∧ (∀ seat, if s.cards ≠ [] ∧ 0 ≤ seat ∧ seat < s.playerCount then
            ∃ first second, Table.get? ⟨seat, 0⟩ s.cards = some first
              ∧ Table.get? ⟨seat, 1⟩ s.cards = some second
              ∧ s.cardsForSeat seat = [first, second]
          else s.cardsForSeat seat = [])
      ∧ ∀ deck, s.phase ≠ .complete →
          let t := s.step (.startDealing deck)
          t.dealQueue = dealOrder s.playerCount ∧ Table.keys t.cards = dealOrder s.playerCount := by
  intro s
  have hs : s.Laid := run_keeps (fun _ a h => h.step a) laid_fresh actions
  refine ⟨?_, nodup_dealOrder _, fun slot card hcard => ?_, fun seat => ?_,
    fun deck hphase => hs.startDealing deck hphase⟩
  · exact hs.slots.imp (fun h => ⟨List.map_eq_nil_iff.mp h.1, h.2⟩) And.symm
  · have hlies := hs.places slot card hcard
    exact ⟨hlies.position, hlies.seat, hlies.required⟩
  · split
    · next hseat =>
      obtain ⟨hcards, hlow, hhigh⟩ := hseat
      have hkeys := (hs.slots.resolve_left fun h => hcards (List.map_eq_nil_iff.mp h.1)).1
      exact hs.cardsForSeat_eq hkeys hlow hhigh
    · next hseat => exact hs.cardsForSeat_eq_nil hseat

end HandState

end MentalPoker
