import MentalPoker.Feed.Event
import MentalPoker.Proofs.Envelope.ReadBack

/-!
# Decoding undoes dumping

What was decoded is dumped in one form, with underscores in all names, with flat actors and statuses
and with every optional field, which is not the form in which it came. Decoding takes the dump,
too, and gives back the same value: nothing that was brought to another form on the way in is
changed by coming in once more.

## The architecture

* **`Finalized.ofMembers_table`**, **`Finalized.ofMembers_typed`**: recorded envelopes, with and
  without a type next to them. The layout of a dump is nested, and stays as it is.
* **`FeedEvent.branch_table`**: the check of each kind of event reads the dump of such an event.
* **`decode_dump`**: both decoders.
-/

namespace MentalPoker

open Schema

namespace Finalized

def table (f : Finalized) : Table Text Json := Json.table f.members

theorem ofMembers_table (f : Finalized) : ofMembers f.table = .good f := by
  refine ofMembers_of_find? rfl rfl rfl rfl ?_ f.envelope.check_toJson f.status.check_toJson
  exact optional_eq_good rfl fun n _ => ⟨nofun, Check.nat_nat n⟩

/-- A type next to the envelope does not disturb. -/
theorem ofMembers_typed (f : Finalized) (type : Json) :
    ofMembers ((text "type", type) :: f.table) = .good f := by
  refine ofMembers_of_find? rfl rfl rfl rfl ?_ f.envelope.check_toJson f.status.check_toJson
  exact optional_eq_good rfl fun n _ => ⟨nofun, Check.nat_nat n⟩

theorem ofLayout_table (f : Finalized) : ofLayout f.table = .good f := by
  -- a dump is nested already, and has no type
  have herase : Table.erase (text "type") (Layout.merge f.table) = f.table := rfl
  rw [ofLayout, herase, ofMembers_table]

end Finalized

@[simp] theorem Card.check_toJson (c : Card) : Card.check c.toJson = .good c := by
  have hrank : Check.range 2 12 (.int c.rank.number) = .good c.rank := by
    rw [Rank.number, Int.add_comm]
    exact Check.range_int 2 c.rank
  have hsuit : Check.word .enumeration (Suit.all.map fun s => (s.name, s)) (.str c.suit.name)
      = .good c.suit := by
    cases c.suit <;> exact Check.word_str (by decide +kernel) rfl
  refine Checked.seq_eq_good (Checked.map_eq_good ?_ _) ?_
  · exact required_eq_good rfl hrank
  · exact required_eq_good rfl hsuit

namespace FeedEvent

/-! ## Fields -/

@[simp] theorem checkName_str (name : DisplayName) : checkName (.str name.1.1) = .good name := by
  rw [checkName, Check.unicodeString_str]
  exact dif_pos name.2

theorem checkPositive_nat (n : { n : Nat // 1 ≤ n }) : checkPositive (Json.nat n.1) = .good n := by
  have hpositive : (1 : Int) ≤ (n.1 : Int) := Int.ofNat_le.mpr n.2
  rw [checkPositive, Json.nat, Check.int_int, Checked.andThen, dif_pos hpositive]
  simp only [Int.toNat_natCast]

theorem makeHand_fields (hand : HandCreated) :
    ∃ players shufflers,
      Json.nat hand.playerCount = .int (1 + (players : Fin mostSeats).val)
        ∧ Json.ofOption Json.nat hand.shufflerCount
          = Json.ofOption (fun n : { n : Nat // 1 ≤ n } => Json.nat n.1) shufflers
        ∧ makeHand hand.gameId hand.handId players shufflers hand.snapshot = hand := by
  have hplayers : hand.playerCount - 1 < mostSeats := by
    have := hand.players_pos
    have := hand.players_le
    omega
  have hcount : hand.playerCount - 1 + 1 = hand.playerCount := Nat.sub_add_cancel hand.players_pos
  obtain ⟨gameId, handId, playerCount, shufflerCount, snapshot, hpos, hle, hshufflers⟩ := hand
  refine ⟨⟨playerCount - 1, hplayers⟩, shufflerCount.attach.map fun n => ⟨n.1, hshufflers n.1 n.2⟩,
    ?_, ?_, ?_⟩
  · show Json.int (playerCount : Int) = Json.int (1 + ((playerCount - 1 : Nat) : Int))
    congr 1
    omega
  · cases shufflerCount <;> rfl
  · simp only [makeHand, HandCreated.mk.injEq, true_and]
    refine ⟨hcount, ?_, trivial⟩
    cases shufflerCount <;> rfl

/-- An announcement is read back from its five fields, wherever they stand. -/
theorem checkHand_of_find? {hand : HandCreated} {members : Table Text Json} {g h p n s : Text}
    (hgame : (FieldName.wire "game_id").find? members = some (g, Json.nat hand.gameId))
    (hhand : (FieldName.wire "hand_id").find? members = some (h, Json.nat hand.handId))
    (hcount : (FieldName.wire "player_count").find? members = some (p, Json.nat hand.playerCount))
    (hshuffler : (FieldName.wire "shuffler_count").find? members
      = some (n, Json.ofOption Json.nat hand.shufflerCount))
    (hsnapshot : (FieldName.wire "snapshot").find? members
      = some (s, Json.ofOption .obj hand.snapshot)) :
    checkHand members = .good hand := by
  obtain ⟨players, shufflers, hplayers, hshufflers, hmade⟩ := makeHand_fields hand
  rw [hplayers] at hcount
  rw [hshufflers] at hshuffler
  rw [← hmade]
  refine Checked.seq_eq_good (Checked.seq_eq_good (Checked.seq_eq_good (Checked.seq_eq_good
    (Checked.map_eq_good ?_ _) ?_) ?_) ?_) ?_
  · exact required_eq_good hgame (Check.nat_nat hand.gameId)
  · exact required_eq_good hhand (Check.nat_nat hand.handId)
  · exact required_eq_good hcount (Check.range_int 1 players)
  · exact optional_eq_good hshuffler fun n _ => ⟨nofun, checkPositive_nat n⟩
  · exact optional_eq_good hsnapshot fun members _ => ⟨nofun, Check.dict_obj members⟩

/-! ## Events -/

/-- The members of the dump. -/
def table (e : FeedEvent) : Table Text Json :=
  (text "type", .str e.kind.name) :: Json.table e.members

/-- A dump has its type, and is nested already. -/
theorem arrange_table (name : Option Text) (e : FeedEvent) : arrange name e.table = e.table := by
  cases e <;> rfl

/-- **An event** is read back from the members of its dump. -/
theorem branch_table (e : FeedEvent) : branch e.kind e.table = .good e := by
  cases e with
  | playerCreated gameId seat displayName publicKey =>
    refine Checked.seq_eq_good (Checked.seq_eq_good (Checked.seq_eq_good
      (Checked.map_eq_good ?_ _) ?_) ?_) ?_
    · exact required_eq_good rfl (Check.nat_nat gameId)
    · exact required_eq_good rfl (Check.upTo_nat seat)
    · exact required_eq_good rfl (checkName_str displayName)
    · exact required_eq_good rfl publicKey.check_toJson
  | handCreated hand =>
    exact Checked.map_eq_good (checkHand_of_find? rfl rfl rfl rfl rfl) _
  | gameEvent f => exact Checked.map_eq_good (f.ofMembers_typed _) _
  | communityDecrypted gameId handId cards =>
    refine Checked.seq_eq_good (Checked.seq_eq_good (Checked.map_eq_good ?_ _) ?_) ?_
    · exact required_eq_good rfl (Check.nat_nat gameId)
    · exact required_eq_good rfl (Check.nat_nat handId)
    · exact required_eq_good rfl (Check.list_map Card.check_toJson cards)
  | cardDecryptable gameId handId seat index =>
    refine Checked.seq_eq_good (Checked.seq_eq_good (Checked.seq_eq_good
      (Checked.map_eq_good ?_ _) ?_) ?_) ?_
    · exact required_eq_good rfl (Check.nat_nat gameId)
    · exact required_eq_good rfl (Check.nat_nat handId)
    · exact required_eq_good rfl (Check.upTo_nat seat)
    · exact required_eq_good rfl (Check.upTo_nat index)
  | holeCardDecrypted gameId handId seat index card =>
    refine Checked.seq_eq_good (Checked.seq_eq_good (Checked.seq_eq_good (Checked.seq_eq_good
      (Checked.map_eq_good ?_ _) ?_) ?_) ?_) ?_
    · exact required_eq_good rfl (Check.nat_nat gameId)
    · exact required_eq_good rfl (Check.nat_nat handId)
    · exact required_eq_good rfl (Check.upTo_nat seat)
    · exact required_eq_good rfl (Check.upTo_nat index)
    · exact required_eq_good rfl card.check_toJson
  | handCompleted gameId handId =>
    refine Checked.seq_eq_good (Checked.map_eq_good ?_ _) ?_
    · exact required_eq_good rfl (Check.nat_nat gameId)
    · exact required_eq_good rfl (Check.nat_nat handId)

theorem check_toJson (e : FeedEvent) : check e.toJson = .good e := by
  have hbranch : Table.get? e.kind.name (Kind.all.map fun k => (k.name, branch k))
      = some (branch e.kind) := by
    cases e.kind <;> rfl
  exact Check.tagged_obj rfl hbranch e.branch_table

end FeedEvent

/-- **Decoding undoes dumping.** However an event is dumped, as a value or in a text that is read
as that value, and whatever the feed calls it, the dump decodes to the same event; and so does the
dump of a recorded envelope. This holds of every event and envelope, however it came about. -/
theorem decode_dump [Json.Room] (name : Option Text) (q : Payload) :
    (∀ e : FeedEvent, q.read = .ok e.toJson → FeedEvent.decode name q = .ok e)
      ∧ ∀ f : Finalized, q.read = .ok f.toJson → Finalized.decode q = .ok f := by
  constructor
  · intro e hq
    have hload : q.load = .ok e.table := Payload.load_of_read hq
    rw [FeedEvent.decode, hload]
    dsimp only
    rw [FeedEvent.arrange_table]
    show (FeedEvent.check e.toJson).decoded _ = _
    rw [FeedEvent.check_toJson]
    rfl
  · intro f hq
    have hload : q.load = .ok f.table := Payload.load_of_read hq
    rw [Finalized.decode, hload]
    dsimp only
    rw [Finalized.ofLayout_table]
    rfl

/-- An envelope of nobody, who has a seat all the same, with a transcript and a time. -/
def seatedNobody : Finalized where
  envelope := {
    handId := 7
    gameId := 1
    actor := ⟨.none, some ⟨8, by decide⟩, none, some (-2), rfl⟩
    nonce := 12
    publicKey := ⟨text "\\xab", by decide +kernel⟩
    message := ⟨.bet .flop (.betTo (.digits (text "007") (by decide +kernel))),
      ⟨text "01", by decide +kernel⟩, [⟨255, by decide⟩, ⟨0, by decide⟩]⟩ }
  status := ⟨true, some [], by decide +kernel⟩
  phase := .cancelled
  seqId := 31
  createdAt := some 1700000000

theorem decode_dump_seatedNobody :
    let dump := Payload.value (FeedEvent.gameEvent seatedNobody).toJson
    let bare := Payload.value seatedNobody.toJson
    (dump.read = .ok (FeedEvent.gameEvent seatedNobody).toJson
        ∧ bare.read = .ok seatedNobody.toJson)
      ∧ FeedEvent.decode (some (text "hand_created")) dump = .ok (.gameEvent seatedNobody)
      ∧ Finalized.decode bare = .ok seatedNobody :=
  ⟨⟨rfl, rfl⟩, (decode_dump _ _).1 _ rfl, (decode_dump none _).2 _ rfl⟩

end MentalPoker
