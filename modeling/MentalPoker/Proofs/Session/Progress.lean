import Mathlib.Algebra.Order.Field.Basic
import Mathlib.Algebra.Order.Field.Rat
import Mathlib.Data.List.Dedup
import Mathlib.Data.List.Perm.Subperm
import MentalPoker.Proofs.Session.Attribution

/-!
# How far the shares of a card are

A card needs as many shares of each kind as there are players. That it has them all is decided for
each kind by itself, while the progress that is shown adds up both kinds. The two agree at the end
as long as no kind gets more shares than it needs. Shares come from players and shufflers alike, so
a kind can get more: what it has too many then stands in for what the other kind lacks, and the
progress is full while shares are missing.

## The architecture

* **`CardProgress.shareProgress_eq`**: the progress is the collected part of all shares, cut at one.
* **`CardProgress.Covered`**: what one kind lacks the other has too many.
* **`contributors`**: who gave shares of a kind since the deal. A card has one share from each of
  them (`length_shareTable`).
-/

namespace MentalPoker

/-! ## The fraction -/

/-- The other kind of share. -/
def ShareKind.other : ShareKind → ShareKind
  | blinding => unblinding
  | unblinding => blinding

namespace CardProgress

variable {card : CardProgress}

/-- The shares of a kind that a card has. -/
def count (card : CardProgress) (kind : ShareKind) : Int := (HandState.sharesOf kind card).length

/-- Shares of a kind are missing, and the other kind has at least as many too many. -/
def Covered (card : CardProgress) (kind : ShareKind) : Prop :=
  card.count kind < card.required
    ∧ card.required - card.count kind ≤ card.count kind.other - card.required

theorem collected_eq (card : CardProgress) (kind : ShareKind) :
    (card.collected : Int) = card.count kind + card.count kind.other := by
  cases kind with
  | blinding => exact Int.natCast_add _ _
  | unblinding => exact (Int.natCast_add _ _).trans (Int.add_comm _ _)

theorem hasAllShares_iff : card.hasAllShares = true ↔ ∀ kind, card.required ≤ card.count kind := by
  rw [hasAllShares, Bool.and_eq_true, decide_eq_true_eq, decide_eq_true_eq]
  refine ⟨fun h kind => ?_, fun h => ⟨h .blinding, h .unblinding⟩⟩
  cases kind with
  | blinding => exact h.1
  | unblinding => exact h.2

theorem totalRequired_pos (h : 0 < card.required) : (0 : ℚ) < (card.totalRequired : ℚ) := by
  have hpos : 0 < card.required * 2 := by omega
  exact_mod_cast hpos

/-- **The progress** of a card that needs shares: the collected part of all shares, at most one. -/
theorem shareProgress_eq (h : 0 < card.required) :
    card.shareProgress = min ((card.collected : ℚ) / (card.totalRequired : ℚ)) 1 := by
  have htotal := totalRequired_pos h
  have hpos : 0 < card.totalRequired := by exact_mod_cast htotal
  rw [shareProgress]
  split
  · next hfull =>
    have hone : (1 : ℚ) ≤ (card.collected : ℚ) / (card.totalRequired : ℚ) := by
      rw [one_le_div₀ htotal]
      exact_mod_cast hfull.2
    rw [min_eq_right hone, Rat.divInt_eq_div, div_self htotal.ne']
  · next hpart =>
    have hless : (card.collected : ℚ) / (card.totalRequired : ℚ) ≤ 1 := by
      rw [div_le_one₀ htotal]
      have hle : (card.collected : Int) ≤ card.totalRequired := by omega
      exact_mod_cast hle
    rw [min_eq_left hless, Rat.divInt_eq_div, Int.cast_natCast]

theorem shareProgress_bounds (h : 0 < card.required) :
    0 ≤ card.shareProgress ∧ card.shareProgress ≤ 1 := by
  rw [shareProgress_eq h]
  have hpart : 0 ≤ (card.collected : ℚ) / (card.totalRequired : ℚ) :=
    div_nonneg (Nat.cast_nonneg _) (totalRequired_pos h).le
  exact ⟨le_min hpart zero_le_one, min_le_right _ _⟩

theorem shareProgress_eq_one_iff (h : 0 < card.required) :
    card.shareProgress = 1 ↔ 2 * card.required ≤ card.collected := by
  have hcount : (card.totalRequired : ℚ) ≤ (card.collected : ℚ) ↔
      card.totalRequired ≤ card.collected := by norm_cast
  rw [shareProgress_eq h, min_eq_right_iff, one_le_div₀ (totalRequired_pos h), hcount,
    totalRequired, mul_comm]

/-- **Full progress** means all shares, or that one kind has too many for what the other lacks. -/
theorem shareProgress_eq_one_iff_covered (h : 0 < card.required) :
    card.shareProgress = 1 ↔ card.hasAllShares = true ∨ ∃ kind, card.Covered kind := by
  rw [shareProgress_eq_one_iff h, hasAllShares_iff]
  constructor
  · intro hfull
    by_cases hall : ∀ kind, card.required ≤ card.count kind
    · exact .inl hall
    · obtain ⟨kind, hshort⟩ := not_forall.mp hall
      have hsum := card.collected_eq kind
      exact .inr ⟨kind, by omega, by omega⟩
  · rintro (hall | ⟨kind, -, hcovered⟩)
    · have hsum := card.collected_eq .blinding
      have hone := hall .blinding
      have hother := hall ShareKind.blinding.other
      omega
    · have hsum := card.collected_eq kind
      omega

end CardProgress

/-! ## Who gave shares -/

/-- Everybody who gave a share of a kind for the card at a slot. -/
def contributors (kind : ShareKind) (slot : Slot) (applied : List Finalized) : List Origin :=
  ((applied.filterMap (Finalized.shareFor? kind slot)).map Prod.fst).dedup

/-- **One share from each.** However many envelopes somebody made, he counts once. -/
theorem length_shareTable (kind : ShareKind) (slot : Slot) (applied : List Finalized) :
    (shareTable kind slot applied).length = (contributors kind slot applied).length := by
  let entries := (applied.filterMap (Finalized.shareFor? kind slot)).map fun e => (e.1.key, e.2)
  have hkeys : entries.map Prod.fst
      = ((applied.filterMap (Finalized.shareFor? kind slot)).map Prod.fst).map Origin.key := by
    simp only [entries, List.map_map]
    rfl
  have hperm : (Table.keys (Table.ofList entries)).Perm (entries.map Prod.fst).dedup :=
    (List.perm_ext_iff_of_nodup (Table.nodup_keys_ofList entries) (List.nodup_dedup _)).mpr
      fun k => Table.mem_keys_ofList.trans List.mem_dedup.symm
  calc (shareTable kind slot applied).length
      = (Table.keys (Table.ofList entries)).length := (List.length_map _).symm
    _ = (entries.map Prod.fst).dedup.length := hperm.length_eq
    _ = (contributors kind slot applied).length := by
      rw [hkeys, List.dedup_map_of_injective Origin.key_injective, List.length_map, contributors]

/-- The number of a player's seat. -/
def Origin.seatNumber : Origin → Nat
  | seat s => s.val
  | _ => 0

/-- Players who sit at a table are no more than its seats. -/
theorem length_le_of_players {origins : List Origin} {players : Int} (hpos : 0 ≤ players)
    (hnodup : origins.Nodup)
    (hplayers : ∀ origin ∈ origins, ∃ seat : Fin 256, origin = .seat seat ∧ seat.val < players) :
    (origins.length : Int) ≤ players := by
  have hdistinct : (origins.map Origin.seatNumber).Nodup := by
    refine List.Nodup.map_on (fun a ha b hb hsame => ?_) hnodup
    obtain ⟨s, rfl, -⟩ := hplayers a ha
    obtain ⟨t, rfl, -⟩ := hplayers b hb
    exact congrArg Origin.seat (Fin.ext hsame)
  have hwithin : origins.map Origin.seatNumber ⊆ List.range players.toNat := by
    intro number hnumber
    obtain ⟨origin, horigin, rfl⟩ := List.mem_map.mp hnumber
    obtain ⟨s, rfl, hs⟩ := hplayers origin horigin
    rw [List.mem_range, Origin.seatNumber]
    omega
  have hlength := (hdistinct.subperm hwithin).length_le
  rw [List.length_map, List.length_range] at hlength
  omega

/-! ## The cards of a run -/

namespace Session

/-- **Full progress means all shares, up to a surplus.** After any inputs, let `applied` be the
envelopes applied since the cards on the table came there. Each card needs as many shares of a kind
as there are players, of whom there is one at least, and it has one from each who gave such shares.
The progress lies between zero and one. It is one just when the card has all its shares, or when it
has at least as many too many of one kind as it lacks of the other. If only players of this table
gave shares for the card, it is one just when the card has all its shares. -/
theorem full_progress_up_to_surplus (settings : SessionSettings) (inputs : List SessionInput) :
    let s := (run settings inputs fresh).1
    let applied := appliedSinceDeal (run settings inputs fresh).2
    ∀ slot card, Table.get? slot s.state.cards = some card →
      (card.required = s.state.playerCount ∧ 0 < card.required)
      ∧ (∀ kind, card.count kind = (contributors kind slot applied).length)
      ∧ (0 ≤ card.shareProgress ∧ card.shareProgress ≤ 1)
      ∧ (card.shareProgress = 1 ↔ card.hasAllShares = true ∨ ∃ kind, card.Covered kind)
      ∧ ((∀ kind, ∀ origin ∈ contributors kind slot applied, ∃ seat : Fin 256,
            origin = .seat seat ∧ seat.val < s.state.playerCount) →
          (card.shareProgress = 1 ↔ card.hasAllShares = true)) := by
  intro s applied slot card hcard
  have hattributed := attributed_run settings inputs
  have hrequired : card.required = s.state.playerCount :=
    (hattributed.laid.places slot card hcard).required
  -- a card lies at a seat of the table, so there is a player
  have hpos : 0 < card.required := by
    obtain ⟨hlow, hhigh, -⟩ := mem_dealOrder.mp (hattributed.slot_mem_dealOrder hcard)
    rw [hrequired]
    exact hlow.trans_lt hhigh
  have hcount : ∀ kind, card.count kind = (contributors kind slot applied).length := by
    intro kind
    rw [CardProgress.count, hattributed.sharesOf_eq hcard kind, length_shareTable]
    rfl
  refine ⟨⟨hrequired, hpos⟩, hcount, CardProgress.shareProgress_bounds hpos,
    CardProgress.shareProgress_eq_one_iff_covered hpos, fun hplayers => ?_⟩
  -- no kind has more shares than there are players, so none can cover the other
  rw [CardProgress.shareProgress_eq_one_iff_covered hpos]
  refine ⟨fun h => h.resolve_right ?_, .inl⟩
  rintro ⟨kind, hshort, hcovered⟩
  have hmost : card.count kind.other ≤ card.required := by
    rw [hcount, hrequired]
    exact length_le_of_players (hrequired ▸ hpos.le) (List.nodup_dedup _) (hplayers kind.other)
  omega

/-- An envelope of a hand of two players, with a share for the viewer's first card. -/
def shareBy (seqId : Nat) (message : Share → Message) (actor : Actor) : SessionInput :=
  let key := (Finalized.ofTwo seqId (.shareAt 0)).envelope.publicKey
  let made := Finalized.ofTwo seqId (message ⟨0, key, key⟩)
  .event (.gameEvent { made with envelope := { made.envelope with actor := actor } })

/-- The player at a seat. -/
def playerAt (seat : Fin 256) : Actor := ⟨.player, some seat, some 7, none, rfl⟩

/-- Both players give shares of both kinds for the viewer's first card, and one of them makes one
of his shares again. -/
def wholeShares : List SessionInput :=
  [.event (.handCreated .ofTwo), shareBy 0 .blinding (playerAt 0), shareBy 1 .blinding (playerAt 1),
    shareBy 2 .blinding (playerAt 1), shareBy 3 .partialUnblinding (playerAt 0),
    shareBy 4 .partialUnblinding (playerAt 1)]

theorem full_progress_up_to_surplus_players :
    ∃ card, Table.get? ⟨0, 0⟩ (run .usual wholeShares fresh).1.state.cards = some card
      ∧ card.count .blinding = 2 ∧ card.hasAllShares = true ∧ card.shareProgress = 1 := by
  have hpresent : (Table.get? ⟨0, 0⟩ (run .usual wholeShares fresh).1.state.cards).any
      CardProgress.hasAllShares = true := by decide +kernel
  have hgave : ∀ kind, contributors kind ⟨0, 0⟩
      (appliedSinceDeal (run .usual wholeShares fresh).2) = [.seat 0, .seat 1] := by
    intro kind
    cases kind with
    | blinding => decide +kernel
    | unblinding => decide +kernel
  have htwo : (run .usual wholeShares fresh).1.state.playerCount = 2 := by decide +kernel
  obtain ⟨card, hcard, hall⟩ := (Option.any_eq_true _ _).mp hpresent
  obtain ⟨-, hcount, -, -, hplayers⟩ :=
    full_progress_up_to_surplus .usual wholeShares ⟨0, 0⟩ card hcard
  refine ⟨card, hcard, ?_, hall, (hplayers fun kind => ?_).mpr hall⟩
  · rw [hcount, hgave]
    rfl
  · rw [hgave, htwo]
    simp

/-- **A surplus fills the progress.** Two players and two shufflers give blinding shares for the
viewer's first card: the progress is full, and no share of the other kind has come. -/
theorem surplus_fills_progress :
    let inputs : List SessionInput := [.event (.handCreated .ofTwo),
      shareBy 0 .blinding (playerAt 0), shareBy 1 .blinding (playerAt 1),
      shareBy 2 .blinding ⟨.shuffler, none, none, some 0, rfl⟩,
      shareBy 3 .blinding ⟨.shuffler, none, none, some 1, rfl⟩]
    (Table.get? ⟨0, 0⟩ (run .usual inputs fresh).1.state.cards).map
        (fun card => (card.shareProgress, card.hasAllShares, card.count .unblinding))
      = some (1, false, 0) := by
  decide +kernel

end Session

end MentalPoker
