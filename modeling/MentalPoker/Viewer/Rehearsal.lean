import MentalPoker.Rehearsal
import MentalPoker.Viewer.Api

/-!
# Rehearsals of the viewer

The whole viewer in rehearsal: calls of its interface, events of its feeds, and a ledger whose
replies come from a script.

## Contents

* `ViewerRehearsal`, with `call` and `feed`.
-/

namespace MentalPoker

/-- The viewer in rehearsal. -/
structure ViewerRehearsal where
  settings : Api.Settings
  /-- The services are set up. -/
  configured : Bool
  viewer : Viewer
  script : LedgerScript
  now : Int

namespace ViewerRehearsal

variable [Json.Room]

def react (w : ViewerRehearsal) (input : ViewerInput) : ViewerRehearsal :=
  { w with viewer := (w.viewer.react w.settings.viewer input).1 }

/-- An input that brings an event; then recovery settles in both sessions. -/
def feed (w : ViewerRehearsal) (input : ViewerInput) : ViewerRehearsal × List Request :=
  let w := w.react input
  let (live, _, first) := Rehearsal.settle w.settings.viewer.live (.start w.viewer.live w.script)
  let (demo, _, second) :=
    Rehearsal.settle w.settings.viewer.demo (.start w.viewer.demo live.script)
  let viewer := { w.viewer with live := live.session, demo := demo.session }
  ({ w with viewer := viewer, script := demo.script }, first ++ second)

/-- A call of the interface. -/
def call (w : ViewerRehearsal) (method path : Text) :
    ViewerRehearsal × List Request × Api.Answer :=
  let (next, rest) := w.script.next
  let (viewer, effects, a) :=
    Api.answer w.settings w.configured w.now next.reply method path w.viewer
  let asked := effects.any fun e => e matches .walkthrough .request
  ({ w with viewer := viewer, script := if asked then rest else w.script },
    if asked then [DemoInfo.request] else [], a)

end ViewerRehearsal

end MentalPoker
