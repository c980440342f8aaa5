import MentalPoker.Text

/-!
# Routes

The calls that the viewer's HTTP interface knows, and how a request finds its call.

## Contents

* `Route`, with `method` and `path`.
* `Route.find`: the call of a request, or why there is none.
-/

namespace MentalPoker

/-- A call of the interface. -/
inductive Route where
  | health
  | readiness
  | session
  | sessionDebug
  | connectSession
  | resetSession
  | demo
  | createDemo
  | shuffleDemo
  | dealDemo
  | resetDemo
  deriving DecidableEq, Repr

namespace Route

def all : List Route :=
  [health, readiness, session, sessionDebug, connectSession, resetSession, demo, createDemo,
    shuffleDemo, dealDemo, resetDemo]

/-- Reading is asked for with `GET`, acting with `POST`. -/
def method : Route → Text
  | health | readiness | session | sessionDebug | demo => text "GET"
  | connectSession | resetSession | createDemo | shuffleDemo | dealDemo | resetDemo => text "POST"

def path : Route → Text
  | health => text "/health"
  | readiness => text "/ready"
  | session => text "/api/session"
  | sessionDebug => text "/api/session/debug"
  | connectSession => text "/api/session/connect"
  | resetSession => text "/api/session/reset"
  | demo | createDemo => text "/api/demo"
  | shuffleDemo => text "/api/demo/shuffle"
  | dealDemo => text "/api/demo/deal"
  | resetDemo => text "/api/demo/reset"

/-- Every call is listed. -/
theorem mem_all (r : Route) : r ∈ all := by cases r <;> decide

/-! ## Finding -/

/-- What a request finds. -/
inductive Found where
  | route (r : Route)
  /-- The path is known, but not with this method. -/
  | otherMethod
  /-- The path would be known without the slashes at its end. -/
  | trailingSlash
  | nothing
  deriving DecidableEq, Repr

def isPath (path : Text) : Bool := all.any fun r => r.path = path

/-- The call of a request. -/
def find (method path : Text) : Found :=
  match all.find? fun r => r.path = path ∧ r.method = method with
  | some r => .route r
  | none =>
    if isPath path then .otherMethod
    else if isPath (Text.dropTrailing 0x2F path) then .trailingSlash
    else .nothing

/-! ## Targets -/

/-- Octets that are spelled with a percent sign stand for themselves. -/
def unescape : Text → Text
  | 0x25 :: a :: b :: rest =>
    match Text.hexValue? a, Text.hexValue? b with
    | some high, some low => (16 * high + low) :: unescape rest
    | _, _ => 0x25 :: unescape (a :: b :: rest)
  | c :: rest => c :: unescape rest
  | [] => []

/-- The path of a request target: what stands before the query and the fragment, below the
root. -/
def pathOf (target : Text) : Text :=
  let bare := (Text.splitFirst 0x3F (Text.splitFirst 0x23 target).1).1
  unescape (0x2F :: bare.dropWhile (· == 0x2F))

end Route

end MentalPoker
