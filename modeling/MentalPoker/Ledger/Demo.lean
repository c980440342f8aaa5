import MentalPoker.Feed.Event
import MentalPoker.Ledger
import MentalPoker.Ledger.Uuid

/-!
# New demos

The ledger makes a demo on request and answers with its ids, the viewer's key and a first snapshot
of the table. The streams of a demo carry envelopes only, so the announcement of the hand is made
from this answer.

## Contents

* `DemoInfo.check`, `DemoInfo.ofReply`: the answer of the ledger.
* `DemoInfo.playerCount`, `DemoInfo.shufflerCount`: what the snapshot says about the table.
* `DemoInfo.toHandCreated`: the announcement of the hand.
-/

namespace MentalPoker

open Schema

/-- A new demo. -/
structure DemoInfo where
  demoId : Uuid
  gameId : Int
  handId : Int
  viewerKey : Text
  snapshot : Option (Table Text Json)
  deriving DecidableEq

namespace DemoInfo

def ofMembers (members : Table Text Json) : Checked DemoInfo :=
  DemoInfo.mk
    <$> required (.plain "demo_id") members Uuid.check
    <*> required (.plain "game_id") members Check.int
    <*> required (.plain "hand_id") members Check.int
    <*> required (.plain "viewer_public_key") members Check.string
    <*> optional (.plain "initial_snapshot") members Check.dict

def check (v : Json) : Checked DemoInfo := (Check.model "DemoSessionInfo" v).andThen ofMembers

def request : Request := ⟨text "POST", text "/games/demo", []⟩

/-- The demo that a reply announces. -/
def ofReply [Json.Room] (reply : Reply) : Except CallFault DemoInfo :=
  match Ledger.body request reply with
  | .error fault => .error fault
  | .ok v =>
    match check v with
    | .good info => .ok info
    | .bad issues => .error (.ledger (.badDemo issues))

/-! ## The table -/

/-- How many are on a roster: null marks an empty place of a roster with keys. -/
def rosterCount : Json → Nat
  | .obj members => (Table.values members).countP fun v => decide (v ≠ Json.null)
  | .arr items => items.length
  | _ => 0

/-- The size of a roster of the snapshot; an empty one counts as none. -/
def rosterSize? (info : DemoInfo) (key : String) : Option Nat :=
  match info.snapshot with
  | none => none
  | some r =>
    let size := rosterCount (Json.member key (.obj r))
    if size = 0 then none else some size

/-- The count of players: those who are seated, or else those who are listed. A count that no
table has is replaced by the usual one. -/
def playerCount (info : DemoInfo) : Nat :=
  match (info.rosterSize? "seating").or (info.rosterSize? "players") with
  | some n => if n ≤ mostSeats then n else usualPlayers
  | none => usualPlayers

def shufflerCount (info : DemoInfo) : Option Nat := info.rosterSize? "shufflers"

/-- The demo as a report shows it. -/
def toJson (info : DemoInfo) : Json :=
  Json.object [
    ("demo_id", .str info.demoId.display),
    ("game_id", .int info.gameId),
    ("hand_id", .int info.handId),
    ("viewer_public_key", .str info.viewerKey),
    ("initial_snapshot", Json.ofOption .obj info.snapshot),
    ("player_count", Json.nat info.playerCount),
    ("shuffler_count", Json.ofOption Json.nat info.shufflerCount)]

/-! ## The announcement -/

/-- The announcement of the hand, or the issues of ids that no hand has. -/
def toHandCreated (info : DemoInfo) : Checked HandCreated :=
  FeedEvent.checkHand [
    (text "game_id", .int info.gameId),
    (text "hand_id", .int info.handId),
    (text "player_count", Json.nat info.playerCount),
    (text "shuffler_count", Json.ofOption Json.nat info.shufflerCount),
    (text "snapshot", Json.ofOption .obj info.snapshot)]

end DemoInfo

end MentalPoker
