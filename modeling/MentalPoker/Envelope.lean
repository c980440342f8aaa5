import MentalPoker.Envelope.Actor
import MentalPoker.Envelope.Message
import MentalPoker.Envelope.Status

/-!
# Envelopes

A signed message with the data that routes it, and the form in which the ledger records it: with
a status, the phase of the hand afterwards, and the number that orders all envelopes of a hand.

## Contents

* `LedgerPhase`, `Signed`, `Envelope`, `Finalized`.
* `Finalized.check`: a recorded envelope in the nested layout.
* `Finalized.toJson`: all fields; `Finalized.toWire`: the form in which the ledger sends them.
-/

namespace MentalPoker

open Schema

/-- The phase of a hand as the ledger sees it. -/
inductive LedgerPhase where
  | pending
  | shuffling
  | dealing
  | betting
  | reveals
  | showdown
  | complete
  | cancelled
  deriving DecidableEq, Repr

namespace LedgerPhase

def all : List LedgerPhase :=
  [pending, shuffling, dealing, betting, reveals, showdown, complete, cancelled]

def name : LedgerPhase → Text
  | pending => text "pending"
  | shuffling => text "shuffling"
  | dealing => text "dealing"
  | betting => text "betting"
  | reveals => text "reveals"
  | showdown => text "showdown"
  | complete => text "complete"
  | cancelled => text "cancelled"

def check (v : Json) : Checked LedgerPhase :=
  Check.word .enumeration (all.map fun p => (p.name, p)) v

end LedgerPhase

/-! ## Signed messages -/

/-- A message with its signature. -/
structure Signed where
  value : Message
  signature : Hex
  transcript : List (Fin 256)
  deriving DecidableEq

namespace Signed

def toJson (s : Signed) : Json :=
  Json.object [
    ("value", s.value.toJson),
    ("signature", s.signature.toJson),
    ("transcript", .arr (s.transcript.map fun b => Json.nat b.val))]

def check (v : Json) : Checked Signed :=
  (Check.model "WithSignature" v).andThen fun members =>
    Signed.mk
      <$> required (.wire "value") members Message.check
      <*> required (.wire "signature") members Hex.check
      <*> defaulted (.wire "transcript") members [] (Check.list (Check.upTo 255))

end Signed

/-! ## Envelopes -/

/-- A signed message with its routing. -/
structure Envelope where
  handId : Nat
  gameId : Nat
  actor : Actor
  nonce : Nat
  publicKey : Hex
  message : Signed
  deriving DecidableEq

namespace Envelope

def toJson (e : Envelope) : Json :=
  Json.object [
    ("hand_id", Json.nat e.handId),
    ("game_id", Json.nat e.gameId),
    ("actor", e.actor.toJson),
    ("nonce", Json.nat e.nonce),
    ("public_key", e.publicKey.toJson),
    ("message", e.message.toJson)]

def check (v : Json) : Checked Envelope :=
  (Check.model "Envelope" v).andThen fun members =>
    Envelope.mk
      <$> required (.wire "hand_id") members Check.nat
      <*> required (.wire "game_id") members Check.nat
      <*> required (.wire "actor") members Actor.check
      <*> required (.wire "nonce") members Check.nat
      <*> required (.wire "public_key") members Hex.check
      <*> required (.wire "message") members Signed.check

end Envelope

/-! ## Recorded envelopes -/

/-- An envelope as the ledger records it. -/
structure Finalized where
  envelope : Envelope
  status : SnapshotStatus
  phase : LedgerPhase
  seqId : Nat
  createdAt : Option Nat
  deriving DecidableEq

namespace Finalized

/-- The message that the envelope carries. -/
def message (f : Finalized) : Message := f.envelope.message.value

def members (f : Finalized) : List (String × Json) :=
  [("envelope", f.envelope.toJson),
    ("snapshot_status", f.status.toJson),
    ("applied_phase", .str f.phase.name),
    ("snapshot_sequence_id", Json.nat f.seqId),
    ("created_timestamp", Json.ofOption Json.nat f.createdAt)]

def toJson (f : Finalized) : Json := Json.object f.members

/-- The nested form in which the ledger sends a recorded envelope. -/
def toWire (f : Finalized) : Json :=
  Json.object [
    ("envelope", Json.object [
      ("hand_id", Json.nat f.envelope.handId),
      ("game_id", Json.nat f.envelope.gameId),
      ("actor", f.envelope.actor.toWire),
      ("nonce", Json.nat f.envelope.nonce),
      ("public_key", f.envelope.publicKey.toJson),
      ("message", f.envelope.message.toJson)]),
    ("snapshot_status", f.status.toWire),
    ("applied_phase", .str f.phase.name),
    ("snapshot_sequence_id", Json.nat f.seqId)]

def ofMembers (members : Table Text Json) : Checked Finalized :=
  Finalized.mk
    <$> required (.wire "envelope") members Envelope.check
    <*> required (.wire "snapshot_status") members SnapshotStatus.check
    <*> required (.wire "applied_phase") members LedgerPhase.check
    <*> required (.wire "snapshot_sequence_id") members Check.nat
    <*> optional (.wire "created_timestamp") members Check.nat

def check (v : Json) : Checked Finalized :=
  (Check.model "FinalizedEnvelope" v).andThen ofMembers

end Finalized

end MentalPoker
