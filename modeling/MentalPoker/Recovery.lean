import MentalPoker.Ledger.Messages

/-!
# Recovery of missing envelopes

One round of recovery asks the ledger for the range of numbers that covers all missing ones. A
round that fails brings nothing, and nothing more is done about it: the next envelope that arrives
ahead of the gap starts another round.

## Contents

* `Recovery`: a round, with the numbers that it is about.
* `Recovery.request?`: its request, if any number is missing.
* `Recovery.result`: what came of it.
-/

namespace MentalPoker

/-- A round of recovery. -/
structure Recovery where
  gameId : Int
  handId : Int
  missing : List Int
  deriving DecidableEq, Repr

/-- What came of a round. -/
structure RecoveryResult where
  requested : List Int
  envelopes : List Finalized
  /-- Why it failed, if it did. -/
  error : Option Text

namespace RecoveryResult

def success (r : RecoveryResult) : Bool := r.error.isNone

/-- The numbers of what came. -/
def fetchedIds (r : RecoveryResult) : List Nat := r.envelopes.map Finalized.seqId

end RecoveryResult

namespace Recovery

/-- The missing numbers in order, each once. -/
def requested (r : Recovery) : List Int := r.missing.eraseDups.mergeSort

def query (r : Recovery) : MessageQuery := .covering r.gameId r.handId r.requested none

/-- The request of the round. -/
def request? (r : Recovery) : Option Request :=
  if r.requested.isEmpty then none else some r.query.request

/-- What came of a round with nothing to ask for. -/
def idle : RecoveryResult := ⟨[], [], none⟩

/-- What came of the round, given the reply to its request. -/
def result [Json.Room] (r : Recovery) (reply : Reply) : Except Failure RecoveryResult :=
  match r.query.ofReply reply with
  | .ok envelopes => .ok ⟨r.requested, envelopes, none⟩
  | .error (.ledger fault) => .ok ⟨r.requested, [], some fault.message⟩
  | .error (.failure failure) => .error failure

end Recovery

end MentalPoker
