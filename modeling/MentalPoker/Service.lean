import MentalPoker.Feed.Broker
import MentalPoker.Feed.BrokerUrl
import MentalPoker.Feed.Sse
import MentalPoker.Settings
import MentalPoker.Viewer

/-!
# The service

How the settings become a running viewer: where its live feed comes from, who closes the HTTP
clients, and what the server is told.

## Contents

* `LiveFeed`, `Settings.liveFeed`: the source of the live feed.
* `ClientUse`: an HTTP client is closed by the part that made it.
* `Settings.start`: the viewer when the service starts.
-/

namespace MentalPoker

/-! ## Feeds -/

/-- Where the live feed comes from. -/
inductive LiveFeed where
  | stream (settings : Sse.Settings)
  | broker (address : BrokerUrl) (channel : Text)

/-- The live stream of the ledger; it has no end, so it is opened again when it breaks off. -/
def Sse.Settings.live (url : Text) : Sse.Settings := ⟨url, true, false⟩

/-- The stream of a phase; its end is the end of the phase. -/
def Sse.Settings.phase (url : Text) : Sse.Settings := ⟨url, false, true⟩

namespace Settings

def ledger (s : Settings) : LedgerAddress := .ofRoot s.ledgerUrl

def backoff (s : Settings) : Backoff := .start s.reconnectBase s.reconnectLimit

/-- The feed that the settings name: the broker's channel of one hand, or else the stream of the
ledger. -/
def liveFeed (s : Settings) : Except BrokerUrlFault LiveFeed :=
  if s.transport = text "redis" then
    (BrokerUrl.parse s.brokerUrl).map fun address =>
      .broker address (Broker.channel s.followGame s.followHand)
  else .ok (.stream (.live s.ledger.demoStream))

end Settings

/-! ## HTTP clients -/

/-- How a part of the viewer came by its HTTP client. -/
inductive ClientUse where
  /-- It made the client for itself. -/
  | own
  /-- It was given a client that others use too. -/
  | shared
  deriving DecidableEq, Repr

namespace ClientUse

/-- Whether the part closes the client when it is closed itself. -/
def closes : ClientUse → Bool
  | own => true
  | shared => false

/-- The use that the ledger and the live stream make of a client, which may be given. -/
def ofGiven (given : Bool) : ClientUse := if given then shared else own

/-- The streams of a walkthrough share a client that the walkthrough made. -/
def ofPhaseStream : ClientUse := shared

def ofWalkthrough : ClientUse := own

end ClientUse

/-- Seconds until a request to the ledger is given up where nothing else is said. -/
def usualTimeout : Nat := 10

/-! ## Start -/

namespace Settings

/-- What is fixed while the viewer runs, with the deck for the show. -/
def viewer (s : Settings) (deck : List Card) : ViewerSettings :=
  ⟨s.ledger, ⟨true, s.stallAttempts, deck⟩⟩

/-- The viewer when the service starts. -/
def start (s : Settings) (deck : List Card) : Viewer × List ViewerEffect :=
  Viewer.run (s.viewer deck) .fresh (if s.autoConnect then [.live .start] else [])

/-! ## Server -/

/-- What the server is told. -/
structure Serving where
  application : Text
  host : Text
  port : Int
  /-- The program is loaded again when it changes. -/
  reload : Bool
  logLevel : Text

def serving (s : Settings) : Serving :=
  ⟨text "main:app", s.host, s.port, s.debug, Text.lower s.logLevel⟩

end Settings

end MentalPoker
