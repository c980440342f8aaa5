import MentalPoker.Ledger.Demo
import MentalPoker.Proofs.Feed.RoundTrip

/-!
# The announcement of a demo's hand

The announcement of a hand is made from what the ledger says of a new demo, and is checked once
more. The counts pass this second check whatever the snapshot is like, for they are made to fit. The
ids need not: those of a demo are integers, and those of a hand start at zero.
-/

namespace MentalPoker.DemoInfo

open Schema

/-- An empty roster has no size. -/
theorem rosterSize?_pos {info : DemoInfo} {key : String} {n : Nat}
    (h : info.rosterSize? key = some n) : 1 ≤ n := by
  unfold rosterSize? at h
  split at h
  · cases h
  · dsimp only at h
    split at h
    · cases h
    · next hsome =>
      cases h
      omega

/-- The count of players fits a table, whatever the snapshot says. -/
theorem playerCount_fits (info : DemoInfo) :
    1 ≤ info.playerCount ∧ info.playerCount ≤ mostSeats := by
  unfold playerCount
  split
  · next n hsize =>
    have hpos : 1 ≤ n := by
      rcases Option.or_eq_some_iff.mp hsize with hseating | ⟨_, hplayers⟩
      · exact rosterSize?_pos hseating
      · exact rosterSize?_pos hplayers
    split
    · next hmost => exact ⟨hpos, hmost⟩
    · decide
  · decide

/-- A hand can have the ids of the demo. -/
def IdsFit (info : DemoInfo) : Prop := 0 ≤ info.gameId ∧ 0 ≤ info.handId

instance (info : DemoInfo) : Decidable info.IdsFit :=
  inferInstanceAs (Decidable (0 ≤ info.gameId ∧ 0 ≤ info.handId))

/-- The hand of the demo, if a hand can have its ids. -/
def hand (info : DemoInfo) : HandCreated where
  gameId := info.gameId.toNat
  handId := info.handId.toNat
  playerCount := info.playerCount
  shufflerCount := info.shufflerCount
  snapshot := info.snapshot
  players_pos := info.playerCount_fits.1
  players_le := info.playerCount_fits.2
  shufflers_pos _ h := rosterSize?_pos (Option.mem_def.mp h)

/-- **The announcement** passes its check just when a hand can have the ids of the demo. -/
theorem toHandCreated_of_idsFit {info : DemoInfo} (h : info.IdsFit) :
    info.toHandCreated = .good info.hand := by
  refine FeedEvent.checkHand_of_find? (g := text "game_id") (h := text "hand_id") ?_ ?_ rfl rfl rfl
  · show some (text "game_id", Json.int info.gameId)
      = some (text "game_id", Json.int (info.gameId.toNat : Int))
    rw [Int.toNat_of_nonneg h.1]
  · show some (text "hand_id", Json.int info.handId)
      = some (text "hand_id", Json.int (info.handId.toNat : Int))
    rw [Int.toNat_of_nonneg h.2]

theorem idsFit_of_toHandCreated {info : DemoInfo} {hand : HandCreated}
    (h : info.toHandCreated = .good hand) : info.IdsFit := by
  obtain ⟨⟨_, h⟩, _⟩ := Checked.good_of_seq h
  obtain ⟨⟨_, h⟩, _⟩ := Checked.good_of_seq h
  obtain ⟨⟨_, h⟩, _⟩ := Checked.good_of_seq h
  obtain ⟨⟨_, hgame⟩, _, hhand⟩ := Checked.good_of_seq h
  obtain ⟨_, hgame⟩ := Checked.good_of_map hgame
  exact ⟨Check.nonneg_of_nat_int (good_of_required rfl hgame),
    Check.nonneg_of_nat_int (good_of_required rfl hhand)⟩

end MentalPoker.DemoInfo
