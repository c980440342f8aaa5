import MentalPoker.Log

/-!
# Layouts of log records

In production a record is a JSON object for the collection of logs, elsewhere a coloured line for
the eye. The time of a record is left to whoever writes it.

## Contents

* `LogRecord.toJson`, `LogRecord.line`: the two layouts.
* `LogSetup.ofSettings`: how logging is set up.
-/

namespace MentalPoker

namespace LogRecord

/-! ## Objects -/

def placeJson (p : LogPlace) : Json :=
  Json.object [("file", .str p.file), ("line", Json.nat p.line), ("function", .str p.function)]

/-- The record as an object. Errors tell where they were made. -/
def toJson (surroundings : LogAttributes) (r : LogRecord) : Json :=
  Json.object <| [
    ("level", .str r.level.name),
    ("logger", .str r.logger),
    ("message", .str r.message)]
    ++ r.context surroundings
    ++ (if LogLevel.error.number ≤ r.level.number then [("source", placeJson r.place)] else [])
    ++ (r.error.map fun e => ("exception", Json.str e)).toList

/-! ## Lines -/

/-- The code that switches a terminal to the colour of a level. -/
def colour (l : LogLevel) : Text :=
  if l = .debug then text "\x1b[36m"
  else if l = .info then text "\x1b[32m"
  else if l = .warning then text "\x1b[33m"
  else if l = .error then text "\x1b[31m"
  else if l = .critical then text "\x1b[35m"
  else []

/-- The code that switches back, if a colour was switched on. -/
def colourEnd (l : LogLevel) : Text := if (colour l).isEmpty then [] else text "\x1b[0m"

/-- A part of the context, under the first word of its name. Sessions are cut to eight code
points. -/
def contextPart (entry : String × Json) : Text :=
  let (name, v) := entry
  let shown := if name = "session_id" then v.display.take 8 else v.display
  (Text.splitFirst 0x5F (text name)).1 ++ text "=" ++ shown

def contextText : List (String × Json) → Text
  | [] => []
  | entries => text " [" ++ Text.join (text ", ") (entries.map contextPart) ++ text "]"

/-- The record as a line, after the time. -/
def line (surroundings : LogAttributes) (r : LogRecord) : Text :=
  colour r.level ++ Text.padRight 8 r.level.name ++ colourEnd r.level ++ text " " ++ r.logger
    ++ contextText (r.context surroundings) ++ text " - " ++ r.message
    ++ (r.error.map fun e => text "\n" ++ e).getD []

end LogRecord

/-- The two layouts. -/
inductive LogLayout where
  | object
  | line
  deriving DecidableEq, Repr

/-- How logging is set up. -/
structure LogSetup where
  level : LogLevel
  layout : LogLayout
  /-- Loggers with levels of their own. -/
  others : List (String × LogLevel)

namespace LogSetup

/-- Loggers that would say too much. -/
def talkative : List String := ["httpx", "httpcore", "uvicorn.access", "asyncio"]

/-- The setup for a level and an environment, each as the settings spell it. -/
def ofSettings (level environment : Text) : Except LevelFault LogSetup :=
  (LogLevel.ofSetting level).map fun level =>
    { level := level
      layout := if environment = text "production" then .object else .line
      others := talkative.map fun name => (name, .warning) }

end LogSetup

end MentalPoker
