import MentalPoker.Envelope.HandMessage
import MentalPoker.Ledger

/-!
# Messages of a hand

A query for the messages of a hand, over a range of numbers. Its answer lists entries of several
forms; those that do not decode are left out, and the others are put in the order of their numbers.

## Contents

* `MessageQuery.request`: the request of a query.
* `MessageQuery.ofReply`: the envelopes of its answer.
-/

namespace MentalPoker

/-- A query for messages of a hand. -/
structure MessageQuery where
  gameId : Int
  handId : Int
  range : List (Text × Text)
  deriving DecidableEq, Repr

namespace MessageQuery

variable [Json.Room]

/-- The range from the least to the greatest of some numbers, or else from a number on. -/
def rangeOf (ids : List Int) (since : Option Int) : List (Text × Text) :=
  match ids.min?, ids.max?, since with
  | some low, some high, _ =>
    [(text "from_sequence", Text.ofInt low), (text "to_sequence", Text.ofInt high)]
  | _, _, some first => [(text "from_sequence", Text.ofInt first)]
  | _, _, none => []

/-- The query that covers some numbers. -/
def covering (gameId handId : Int) (ids : List Int) (since : Option Int) : MessageQuery :=
  ⟨gameId, handId, rangeOf ids since⟩

def request (q : MessageQuery) : Request :=
  ⟨text "GET",
    text "/games/" ++ Text.ofInt q.gameId ++ text "/hands/" ++ Text.ofInt q.handId
      ++ text "/messages",
    q.range⟩

/-- What a value holds when one goes through it: the items of a list, the characters of a text,
the keys of an object. -/
def enumerate? : Json → Option (List Json)
  | .arr items => some items
  | .str t => some (t.map fun c => .str [c])
  | .obj members => some (members.map fun entry => .str entry.1)
  | _ => none

/-- The entries of an answer: its messages, or else its events, or none. -/
def entries? (members : Table Text Json) : Option (List Json) :=
  match Json.member "messages" (.obj members) with
  | .null =>
    match Table.get? (text "events") members with
    | none => some []
    | some v => enumerate? v
  | v => enumerate? v

/-- The envelopes of the entries that decode. -/
def decodeAll (q : MessageQuery) : List Json → Except Failure (List Finalized)
  | [] => .ok []
  | entry :: rest =>
    match HandMessage.decodeEntry (.int q.gameId) (.int q.handId) entry with
    | .ok f => (decodeAll q rest).map (f :: ·)
    | .error fault =>
      match fault.failure? with
      | none => decodeAll q rest
      | some failure => .error failure

/-- The order of the numbers; envelopes with one number keep theirs. -/
def sorted (fs : List Finalized) : List Finalized := fs.mergeSort fun a b => a.seqId ≤ b.seqId

/-- The envelopes that a reply brings. -/
def ofReply (q : MessageQuery) (reply : Reply) : Except CallFault (List Finalized) :=
  match Ledger.body q.request reply with
  | .error fault => .error fault
  | .ok (.obj members) =>
    match entries? members with
    | none => .error (.failure .notEnumerable)
    | some entries => ((q.decodeAll entries).map sorted).mapError .failure
  | .ok _ => .error (.ledger .notObject)

end MessageQuery

end MentalPoker
