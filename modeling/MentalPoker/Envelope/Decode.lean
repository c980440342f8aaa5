import MentalPoker.Envelope
import MentalPoker.Envelope.Layout
import MentalPoker.Payload

/-!
# Decoding recorded envelopes

A recorded envelope in any layout. A type tag next to it is left out of account.
-/

namespace MentalPoker.Finalized

open Schema

/-- A recorded envelope in any layout. -/
def ofLayout (members : Table Text Json) : Checked Finalized :=
  ofMembers (Table.erase (text "type") (Layout.merge members))

/-- A recorded envelope, as an entry of a list of messages gives it. -/
def decode [Json.Room] (p : Payload) : Decoded Finalized :=
  match p.load with
  | .error fault => .error fault
  | .ok members => (ofLayout members).decoded fun _ => text "finalized envelope"

end MentalPoker.Finalized
