import MentalPoker.Address.Url
import MentalPoker.Http
import MentalPoker.Schema.Report

/-!
# The ledger service

The addresses of the ledger, and what may go wrong with a request to it.

## Contents

* `LedgerAddress`: the streams below the root of the service.
* `LedgerFault`, with `message` and `status?`.
* `CallFault`: a fault of the ledger, or a failure.
* `Ledger.body`: the JSON value of a reply.
-/

namespace MentalPoker

open Schema

/-! ## Addresses -/

/-- The root of the service, without slashes at its end. -/
structure LedgerAddress where
  root : Text
  deriving DecidableEq, Repr

namespace LedgerAddress

def ofRoot (root : Text) : LedgerAddress := ⟨Text.dropTrailing 0x2F root⟩

def url (a : LedgerAddress) (path : Text) : Text := a.root ++ path

/-- The parts of the address. -/
def parts (a : LedgerAddress) : Url := (Url.parse a.root).toOption.getD ⟨[], [], [], []⟩

/-- The address names a host, and how to speak to it. -/
def isComplete (a : LedgerAddress) : Bool := !a.parts.scheme.isEmpty && !a.parts.authority.isEmpty

/-- The path of the root, in front of all paths of the service. -/
def path (a : LedgerAddress) : Text :=
  let path := Url.unescape a.parts.path
  if a.isComplete || path.isEmpty then path else 0x2F :: path.dropWhile (· == 0x2F)

/-- A request as the service gets it. -/
def locate (a : LedgerAddress) (r : Request) : Request := { r with path := a.path ++ r.path }

/-- A reply as it comes back. One from an incomplete address cannot be taken. -/
def taken (a : LedgerAddress) (r : Request) (reply : Reply) : Reply :=
  match reply with
  | .answered .. => if a.isComplete then reply else .broken (.incompleteAddress (a.locate r).target)
  | _ => reply

/-- What is said where there is no network. -/
def unreachable (a : LedgerAddress) : Text :=
  let scheme := a.parts.scheme
  if !a.isComplete then text "Request URL is missing an 'http://' or 'https://' protocol."
  else if ["http", "https", "ws", "wss"].any fun known => text known = scheme then
    text "All connection attempts failed"
  else text "Request URL has an unsupported protocol '" ++ scheme ++ text "://'."

/-- The stream of the live demo. -/
def demoStream (a : LedgerAddress) : Text := a.url (text "/games/demo/stream")

/-- The stream of the shuffle of a demo. -/
def shuffleStream (a : LedgerAddress) (demoId : Text) : Text :=
  a.url (text "/games/demo/" ++ demoId ++ text "/shuffle")

/-- The stream of the deal of a demo. -/
def dealStream (a : LedgerAddress) (demoId : Text) : Text :=
  a.url (text "/games/demo/" ++ demoId ++ text "/deal")

end LedgerAddress

/-! ## Faults -/

/-- What is wrong with the answer to a request. -/
inductive LedgerFault where
  /-- There is none. -/
  | network (request : Request) (reason : Text)
  /-- Its status reports an error. -/
  | status (request : Request) (code : Nat)
  /-- Its body is no JSON. -/
  | notJson (request : Request) (code : Nat)
  /-- The messages of a hand are no object. -/
  | notObject
  /-- A new demo does not fit its schema. -/
  | badDemo (issues : List Issue)

namespace LedgerFault

/-- Request line, as messages show it. -/
def line (r : Request) : Text := r.method ++ text " " ++ r.path

/-- The message, without the list of issues. -/
def headline : LedgerFault → Text
  | network r reason => line r ++ text " failed: " ++ reason
  | status r code =>
    line r ++ text " returned " ++ Text.ofNat code ++ text ": " ++ Status.phrase code
  | notJson r _ => line r ++ text " returned invalid JSON"
  | notObject => text "Hand messages response is not an object"
  | badDemo _ => text "Invalid create-demo response"

/-- The whole message. -/
def message : LedgerFault → Text
  | badDemo issues =>
    headline (badDemo issues) ++ text ": " ++ report (text "DemoSessionInfo") issues
  | fault => fault.headline

/-- The status of an answer that came but could not be used. -/
def status? : LedgerFault → Option Nat
  | status _ code => some code
  | notJson _ code => some code
  | _ => none

end LedgerFault

/-- Why a call to the ledger brings nothing. -/
inductive CallFault where
  | ledger (fault : LedgerFault)
  | failure (failure : Failure)

namespace Ledger

/-- The fault of a body that cannot be read. Integers that are too long make it no JSON; a body
that is nested too deep stops the call. -/
def bodyFault (request : Request) (code : Nat) : Json.Fault → CallFault
  | .limit .deepList => .failure (.limit .deepList)
  | .limit .deepObject => .failure (.limit .deepObject)
  | _ => .ledger (.notJson request code)

/-- The JSON value of the reply to a request. -/
def body [Json.Room] (request : Request) : Reply → Except CallFault Json
  | .failed reason => .error (.ledger (.network request reason))
  | .broken failure => .error (.failure failure)
  | .answered code bytes =>
    if Status.isError code then .error (.ledger (.status request code))
    else (Json.ofBytes bytes).mapError (bodyFault request code)

end Ledger

end MentalPoker
