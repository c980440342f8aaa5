import MentalPoker.Card
import MentalPoker.Envelope.Decode

/-!
# Events of the live feed

The seven kinds of event that the feed carries. Most are notices about the hand; a game event is
a recorded envelope.

## Contents

* `FeedEvent`, with `kind` and `toJson`.
* `FeedEvent.decode`: an event of the feed, its kind given by the payload or by the feed.
-/

namespace MentalPoker

open Schema

/-- A text for display: not empty. -/
abbrev DisplayName := { t : Text.Unicode // t.1.isEmpty = false }

/-- The announcement of a hand. -/
structure HandCreated where
  gameId : Nat
  handId : Nat
  playerCount : Nat
  shufflerCount : Option Nat
  snapshot : Option (Table Text Json)
  players_pos : 1 ≤ playerCount
  players_le : playerCount ≤ mostSeats
  shufflers_pos : ∀ n ∈ shufflerCount, 1 ≤ n

/-- An event of the feed. -/
inductive FeedEvent where
  | playerCreated (gameId : Nat) (seat : Fin 256) (displayName : DisplayName) (publicKey : Hex)
  | handCreated (hand : HandCreated)
  | gameEvent (envelope : Finalized)
  | communityDecrypted (gameId handId : Nat) (cards : List Card)
  | cardDecryptable (gameId handId : Nat) (seat : Fin 256) (index : Fin 2)
  | holeCardDecrypted (gameId handId : Nat) (seat : Fin 256) (index : Fin 2) (card : Card)
  | handCompleted (gameId handId : Nat)

namespace FeedEvent

/-! ## Kinds -/

inductive Kind where
  | playerCreated
  | handCreated
  | gameEvent
  | communityDecrypted
  | cardDecryptable
  | holeCardDecrypted
  | handCompleted
  deriving DecidableEq, Repr

namespace Kind

def all : List Kind :=
  [playerCreated, handCreated, gameEvent, communityDecrypted, cardDecryptable, holeCardDecrypted,
    handCompleted]

/-- The name of the kind on the feed. -/
def name : Kind → Text
  | playerCreated => text "player_created"
  | handCreated => text "hand_created"
  | gameEvent => text "game_event"
  | communityDecrypted => text "community_decrypted"
  | cardDecryptable => text "card_decryptable"
  | holeCardDecrypted => text "hole_cards_decrypted"
  | handCompleted => text "hand_completed"

def ofName? (t : Text) : Option Kind := all.find? fun k => k.name = t

end Kind

def kind : FeedEvent → Kind
  | playerCreated .. => .playerCreated
  | handCreated _ => .handCreated
  | gameEvent _ => .gameEvent
  | communityDecrypted .. => .communityDecrypted
  | cardDecryptable .. => .cardDecryptable
  | holeCardDecrypted .. => .holeCardDecrypted
  | handCompleted .. => .handCompleted

/-- The event that ends a feed. -/
def isTerminal (e : FeedEvent) : Bool := e.kind = .handCompleted

/-! ## Writing -/

def handMembers (gameId handId : Nat) : List (String × Json) :=
  [("game_id", Json.nat gameId), ("hand_id", Json.nat handId)]

/-- The members besides the type. -/
def members : FeedEvent → List (String × Json)
  | playerCreated gameId seat displayName publicKey =>
    [("game_id", Json.nat gameId), ("seat", Json.nat seat.val),
      ("display_name", .str displayName.1.1), ("public_key", publicKey.toJson)]
  | handCreated hand =>
    handMembers hand.gameId hand.handId
      ++ [("player_count", Json.nat hand.playerCount),
        ("shuffler_count", Json.ofOption Json.nat hand.shufflerCount),
        ("snapshot", Json.ofOption .obj hand.snapshot)]
  | gameEvent envelope => envelope.members
  | communityDecrypted gameId handId cards =>
    handMembers gameId handId ++ [("cards", .arr (cards.map Card.toJson))]
  | cardDecryptable gameId handId seat index =>
    handMembers gameId handId
      ++ [("seat", Json.nat seat.val), ("card_position", Json.nat index.val)]
  | holeCardDecrypted gameId handId seat index card =>
    handMembers gameId handId
      ++ [("seat", Json.nat seat.val), ("card_position", Json.nat index.val),
        ("card", card.toJson)]
  | handCompleted gameId handId => handMembers gameId handId

def toJson (e : FeedEvent) : Json := Json.object (("type", .str e.kind.name) :: e.members)

/-! ## Reading -/

/-- A text that is not empty. -/
def checkName (v : Json) : Checked DisplayName :=
  (Check.unicodeString v).andThen fun t =>
    if h : t.1.isEmpty = false then .good ⟨t, h⟩ else .fail (.stringTooShort 1) v

/-- A positive number. -/
def checkPositive (v : Json) : Checked { n : Nat // 1 ≤ n } :=
  (Check.int v).andThen fun n =>
    if h : 1 ≤ n then .good ⟨n.toNat, by omega⟩ else .fail (.atLeast 1) v

/-- The announcement of a hand, from checked fields. -/
def makeHand (gameId handId : Nat) (players : Fin mostSeats)
    (shufflers : Option { n : Nat // 1 ≤ n }) (snapshot : Option (Table Text Json)) :
    HandCreated where
  gameId := gameId
  handId := handId
  playerCount := players.val + 1
  shufflerCount := shufflers.map fun n => n.1
  snapshot := snapshot
  players_pos := by omega
  players_le := players.isLt
  shufflers_pos := by
    intro n hn
    obtain ⟨m, _, rfl⟩ := Option.map_eq_some_iff.1 (Option.mem_def.1 hn)
    exact m.2

def checkHand (members : Table Text Json) : Checked HandCreated :=
  makeHand
    <$> required (.wire "game_id") members Check.nat
    <*> required (.wire "hand_id") members Check.nat
    <*> required (.wire "player_count") members (Check.range 1 8)
    <*> optional (.wire "shuffler_count") members checkPositive
    <*> optional (.wire "snapshot") members Check.dict

def checkPlayer (members : Table Text Json) : Checked FeedEvent :=
  playerCreated
    <$> required (.wire "game_id") members Check.nat
    <*> required (.wire "seat") members (Check.upTo 255)
    <*> required (.wire "display_name") members checkName
    <*> required (.wire "public_key") members Hex.check

def checkCommunity (members : Table Text Json) : Checked FeedEvent :=
  communityDecrypted
    <$> required (.wire "game_id") members Check.nat
    <*> required (.wire "hand_id") members Check.nat
    <*> required (.wire "cards") members (Check.list Card.check)

def checkDecryptable (members : Table Text Json) : Checked FeedEvent :=
  cardDecryptable
    <$> required (.wire "game_id") members Check.nat
    <*> required (.wire "hand_id") members Check.nat
    <*> required (.wire "seat") members (Check.upTo 255)
    <*> required (.wire "card_position") members (Check.upTo 1)

def checkHoleCard (members : Table Text Json) : Checked FeedEvent :=
  holeCardDecrypted
    <$> required (.wire "game_id") members Check.nat
    <*> required (.wire "hand_id") members Check.nat
    <*> required (.wire "seat") members (Check.upTo 255)
    <*> required (.wire "card_position") members (Check.upTo 1)
    <*> required (.wire "card") members Card.check

def checkCompleted (members : Table Text Json) : Checked FeedEvent :=
  handCompleted
    <$> required (.wire "game_id") members Check.nat
    <*> required (.wire "hand_id") members Check.nat

/-- How the members of an event of each kind are checked. -/
def branch : Kind → Table Text Json → Checked FeedEvent
  | .playerCreated => checkPlayer
  | .handCreated => fun members => handCreated <$> checkHand members
  | .gameEvent => fun members => gameEvent <$> Finalized.ofMembers members
  | .communityDecrypted => checkCommunity
  | .cardDecryptable => checkDecryptable
  | .holeCardDecrypted => checkHoleCard
  | .handCompleted => checkCompleted

def check (v : Json) : Checked FeedEvent :=
  Check.tagged "type" (Kind.all.map fun k => (k.name, branch k)) v

/-- The object with the name that the feed gave to it as its type, unless it has one. An empty
name is none. -/
def withType (name : Option Text) (members : Table Text Json) : Table Text Json :=
  if Table.has (text "type") members then members
  else match name with
    | some (c :: cs) => Table.insert (text "type") (.str (c :: cs)) members
    | _ => members

/-- The members of an event in the layout that its check expects. -/
def arrange (name : Option Text) (members : Table Text Json) : Table Text Json :=
  let members := withType name members
  if Table.get? (text "type") members = some (.str Kind.gameEvent.name) then Layout.merge members
  else members

/-- How messages call an event that does not decode: by its type, with the count of issues. A type
that is not a text is displayed, which is meant for values that were read (`Json.display`). -/
def subject (members : Table Text Json) (issues : List Issue) : Text :=
  ((Table.get? (text "type") members).map Json.display).getD (text "untyped")
    ++ text " event: " ++ Text.ofNat issues.length ++ text " error(s)"

/-- An event of the feed. -/
def decode [Json.Room] (name : Option Text) (p : Payload) : Decoded FeedEvent :=
  match p.load with
  | .error fault => .error fault
  | .ok members =>
    let members := arrange name members
    (check (.obj members)).decoded (subject members)

end FeedEvent

end MentalPoker
