import MentalPoker.Json
import MentalPoker.Number.Shortest
import MentalPoker.Settings.Environment

/-!
# Settings

The settings of the viewer, each taken from a variable of the environment.

## Contents

* `Settings`, with the defaults.
* `Settings.ofEnvironment`: the settings that an environment spells.
* `Settings.toJson`: the settings as a report shows them.
-/

namespace MentalPoker

/-- The settings of the viewer. -/
structure Settings where
  host : Text := text "0.0.0.0"
  port : Int := 8000
  debug : Bool := false
  logLevel : Text := text "INFO"
  /-- Where the viewer runs: in production or elsewhere. -/
  environment : Text := text "development"
  /-- The root of the ledger service. -/
  ledgerUrl : Text := text "http://localhost:4000"
  /-- Seconds until a request is given up. -/
  requestTimeout : Binary64 := .ofInt 10
  /-- The kind of the live feed. -/
  transport : Text := text "sse"
  brokerUrl : Text := text "redis://localhost:6379"
  /-- The hand that is followed through the broker. -/
  followGame : Int := 0
  followHand : Int := 0
  /-- The live session is connected from the start. -/
  autoConnect : Bool := false
  /-- The least and the greatest delay before a reconnect, in milliseconds. -/
  reconnectBase : Int := 1000
  reconnectLimit : Int := 30000
  /-- So many rounds of recovery that leave a gap are a stall. -/
  stallAttempts : Int := 5
  deriving DecidableEq

namespace Settings

/-- The settings where nothing else is said. -/
def usual : Settings := {}

/-- The settings that an environment spells. -/
def ofEnvironment (env : Environment) : Settings where
  host := env.text (text "HOST") usual.host
  port := env.int (text "PORT") usual.port
  debug := env.bool (text "DEBUG") usual.debug
  logLevel := env.text (text "LOG_LEVEL") usual.logLevel
  environment := env.text (text "ENVIRONMENT") usual.environment
  ledgerUrl := Text.dropTrailing 0x2F (env.text (text "LEDGER_URL") usual.ledgerUrl)
  requestTimeout := env.float (text "REQUEST_TIMEOUT_SECONDS") usual.requestTimeout
  transport := Text.lower (env.text (text "TRANSPORT") usual.transport)
  brokerUrl := env.text (text "REDIS_URL") usual.brokerUrl
  followGame := env.int (text "FOLLOW_GAME_ID") usual.followGame
  followHand := env.int (text "FOLLOW_HAND_ID") usual.followHand
  autoConnect := env.bool (text "AUTO_CONNECT") usual.autoConnect
  reconnectBase := env.int (text "RECONNECT_BASE_DELAY_MS") usual.reconnectBase
  reconnectLimit := env.int (text "RECONNECT_MAX_DELAY_MS") usual.reconnectLimit
  stallAttempts := env.int (text "GAP_STALL_WARNING_ATTEMPTS") usual.stallAttempts

/-- The settings as a report shows them, each under the name of its variable. -/
def toJson (s : Settings) : Json :=
  Json.object [
    ("HOST", .str s.host),
    ("PORT", .int s.port),
    ("DEBUG", .bool s.debug),
    ("LOG_LEVEL", .str s.logLevel),
    ("ENVIRONMENT", .str s.environment),
    ("LEDGER_URL", .str s.ledgerUrl),
    ("REQUEST_TIMEOUT_SECONDS", .str (s.requestTimeout.fixed 6)),
    ("TRANSPORT", .str s.transport),
    ("REDIS_URL", .str s.brokerUrl),
    ("FOLLOW_GAME_ID", .int s.followGame),
    ("FOLLOW_HAND_ID", .int s.followHand),
    ("AUTO_CONNECT", .bool s.autoConnect),
    ("reconnect", Json.object [
      ("base_delay_ms", .int s.reconnectBase), ("max_delay_ms", .int s.reconnectLimit)]),
    ("gap_recovery", Json.object [("stall_warning_attempts", .int s.stallAttempts)])]

/-- An empty environment leaves the settings as they are. -/
theorem ofEnvironment_nil : ofEnvironment [] = usual := by decide +kernel

end Settings

end MentalPoker
