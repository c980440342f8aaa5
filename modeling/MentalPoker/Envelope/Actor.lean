import MentalPoker.Schema
import MentalPoker.Slot

/-!
# Actors

Who made an envelope: a player at a seat, a shuffler, or nobody in particular. On the wire an
actor is the word `none`, an object under the key `player` or `shuffler`, or one flat object that
names its kind. Ids that the kind does not call for are kept.

## Contents

* `Actor`, with the ids that its kind requires.
* `Actor.seat`, `Actor.contributor`: how the views refer to an actor.
* `Actor.check`: an actor on the wire.
-/

namespace MentalPoker

inductive ActorKind where
  | none
  | player
  | shuffler
  deriving DecidableEq, Repr

namespace ActorKind

def name : ActorKind → Text
  | none => text "none"
  | player => text "player"
  | shuffler => text "shuffler"

def all : List ActorKind := [none, player, shuffler]

end ActorKind

namespace Actor

/-- What an actor of the kind lacks, if anything. -/
def complaint? (kind : ActorKind) (seatId : Option (Fin 256)) (playerId : Option Nat)
    (shufflerId : Option Int) : Option Text :=
  match kind with
  | .none => .none
  | .player =>
    if seatId.isSome && playerId.isSome then .none
    else some (text "player actor requires seat_id and player_id")
  | .shuffler =>
    if shufflerId.isSome then .none else some (text "shuffler actor requires shuffler_id")

end Actor

/-- Who made an envelope. -/
structure Actor where
  kind : ActorKind
  seatId : Option (Fin 256)
  playerId : Option Nat
  shufflerId : Option Int
  complete : Actor.complaint? kind seatId playerId shufflerId = none
  deriving DecidableEq

namespace Actor

open Schema

/-- The seat of a player; others have none. -/
def seat (a : Actor) : Int :=
  match a.kind, a.seatId with
  | .player, some s => s.val
  | _, _ => unknownSeat

/-- The key under which the shares of an actor are counted. -/
def contributor (a : Actor) : Text :=
  match a.kind with
  | .player => text "seat:" ++ (a.seatId.elim [] fun s => Text.ofNat s.val)
  | .shuffler => text "shuffler:" ++ (a.shufflerId.elim [] Text.ofInt)
  | .none => text "none"

/-- The flat form. -/
def toJson (a : Actor) : Json :=
  Json.object [
    ("kind", .str a.kind.name),
    ("seat_id", Json.ofOption (fun s => Json.nat s.val) a.seatId),
    ("player_id", Json.ofOption Json.nat a.playerId),
    ("shuffler_id", Json.ofOption .int a.shufflerId)]

/-- The form in which the ledger writes an actor, with the ids that its kind requires. -/
def toWire (a : Actor) : Json :=
  match a.kind with
  | .none => Json.lit "none"
  | .player =>
    Json.object [("player", Json.object [
      ("seat_id", Json.ofOption (fun s => Json.nat s.val) a.seatId),
      ("player_id", Json.ofOption Json.nat a.playerId)])]
  | .shuffler =>
    Json.object [("shuffler", Json.object [
      ("shuffler_id", Json.ofOption .int a.shufflerId)])]

/-- The members of one object written over those of another. -/
def overlay (base members : Table Text Json) : Table Text Json :=
  members.foldl (fun t entry => Table.insert entry.1 entry.2 t) base

/-- The flat form of any wire form, or what is wrong with the nested object. -/
def flatten (v : Json) : Except Text Json :=
  match v with
  | .null => .ok (Json.object [("kind", Json.lit "none")])
  | .str t => .ok (if t = text "none" then Json.object [("kind", Json.lit "none")] else v)
  | .obj members =>
    if Table.has (text "kind") members then .ok v
    else match Table.get? (text "player") members, Table.get? (text "shuffler") members with
      | some inner, _ => nest "player" inner
      | none, some inner => nest "shuffler" inner
      | none, none => .ok v
  | _ => .ok v
where
  nest (kind : String) (inner : Json) : Except Text Json :=
    match inner with
    | .obj members => .ok (.obj (overlay [(text "kind", Json.lit kind)] members))
    | _ => .error (text kind ++ text " actor must be an object")

/-- An actor whose ids are those that its kind requires. -/
def ofFields (v : Json) (kind : ActorKind) (seatId : Option (Fin 256)) (playerId : Option Nat)
    (shufflerId : Option Int) : Checked Actor :=
  match h : complaint? kind seatId playerId shufflerId with
  | none => .good ⟨kind, seatId, playerId, shufflerId, h⟩
  | some message => .fail (.valueError message) v

/-- An actor on the wire. -/
def check (v : Json) : Checked Actor :=
  match flatten v with
  | .error message => .fail (.valueError message) v
  | .ok flat =>
    (Check.model "Actor" flat).andThen fun members =>
      ((fun kind seat player shuffler => (kind, seat, player, shuffler))
        <$> required (.wire "kind") members
          (Check.word .literal (ActorKind.all.map fun k => (k.name, k)))
        <*> optional (.wire "seat_id") members (Check.upTo 255)
        <*> optional (.wire "player_id") members Check.nat
        <*> optional (.wire "shuffler_id") members Check.int).andThen
      fun (kind, seat, player, shuffler) => ofFields v kind seat player shuffler

end Actor

end MentalPoker
