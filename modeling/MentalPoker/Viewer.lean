import MentalPoker.Session.Reaction
import MentalPoker.Walkthrough

/-!
# The viewer

The viewer follows the live feed in one session. Beside it runs a walkthrough, and the streams of
its phases feed a session of their own, which has no transport.

## Contents

* `Viewer`, starting at `Viewer.fresh`.
* `Viewer.react`: the reaction to an input to one of its parts.
-/

namespace MentalPoker

/-- The parts of the viewer. -/
structure Viewer where
  /-- Follows the live feed. -/
  live : Session
  walkthrough : Walkthrough
  /-- Follows the streams of the walkthrough. -/
  demo : Session

/-- What is fixed while the viewer runs. -/
structure ViewerSettings where
  ledger : LedgerAddress
  /-- The settings of the live session. -/
  live : SessionSettings

namespace ViewerSettings

/-- The settings of the session that the walkthrough feeds. -/
def demo (s : ViewerSettings) : SessionSettings := { s.live with hasTransport := false }

end ViewerSettings

/-- What happens to the viewer. -/
inductive ViewerInput where
  | live (input : SessionInput)
  | walkthrough (input : WalkthroughInput)
  | demo (input : SessionInput)
  /-- An event of a stream that the walkthrough opened. -/
  | streamEvent (stream : Nat) (e : FeedEvent)

/-- What the viewer does outside itself. -/
inductive ViewerEffect where
  | live (e : SessionEffect)
  | walkthrough (e : WalkthroughEffect)
  | demo (e : SessionEffect)

namespace Viewer

def fresh : Viewer := ⟨.fresh, .fresh, .fresh⟩

/-- The reaction to an input. -/
def react (s : ViewerSettings) (v : Viewer) : ViewerInput → Viewer × List ViewerEffect
  | .live input =>
    let (live, effects) := Session.react s.live input v.live
    ({ v with live := live }, effects.map .live)
  | .walkthrough input =>
    let (walkthrough, effects) := v.walkthrough.react s.ledger input
    ({ v with walkthrough := walkthrough }, effects.map .walkthrough)
  | .demo input => demoReact input
  | .streamEvent stream e =>
    if stream < v.walkthrough.opened.length then demoReact (.event e) else (v, [])
where
  /-- The session of the walkthrough reacts. -/
  demoReact (input : SessionInput) : Viewer × List ViewerEffect :=
    let (demo, effects) := Session.react s.demo input v.demo
    ({ v with demo := demo }, effects.map .demo)

/-- The reactions to a series of inputs. -/
def run (s : ViewerSettings) (v : Viewer) : List ViewerInput → Viewer × List ViewerEffect
  | [] => (v, [])
  | input :: rest =>
    let (v, effects) := v.react s input
    let (v, more) := run s v rest
    (v, effects ++ more)

end Viewer

end MentalPoker
