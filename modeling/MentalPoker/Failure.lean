import MentalPoker.Charset.Fault
import MentalPoker.Json.Literal
import MentalPoker.Json.Reader

/-!
# Failures

What can go wrong without anybody providing for it. A part of the viewer that runs into a failure
stops at once, and the failure goes on to whoever called that part.
-/

namespace MentalPoker

/-- What stops a part of the viewer. -/
inductive Failure where
  /-- A JSON text goes beyond the limits of the reader. -/
  | limit (l : Json.Limit)
  /-- What should be a list cannot be gone through. -/
  | notEnumerable
  /-- A delay of more seconds than can be counted. -/
  | endlessDelay
  /-- A stream cannot be read in the charset that it announces. -/
  | charset (f : CharsetFault)
  /-- The address of a service has no scheme or no host. -/
  | incompleteAddress (url : Text)
  /-- A failure of something that the viewer uses, by its kind and by what it says. -/
  | other (kind message : Text)
  deriving DecidableEq, Repr

namespace Failure

def message : Failure → Text
  | limit l => l.message
  | notEnumerable => []
  | endlessDelay => text "integer division result too large for a float"
  | charset f => f.message
  | incompleteAddress url => text "unknown url type: " ++ Json.quoted url
  | other _ message => message

end Failure

end MentalPoker
