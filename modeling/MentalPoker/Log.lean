import MentalPoker.Json.Literal
import MentalPoker.Text.Case

/-!
# Log records

What the viewer logs: a level, the name of the logger, a message, and the hand that it is about.

## Contents

* `LogLevel`: levels by number and by name.
* `LogRecord`, with `LogRecord.context`: the session, the hand and the envelope it is about.
* `LogAttributes.and`: attributes that a logger adds to its records; `LogAttributes.clash?`: one
  that no record can take.
-/

namespace MentalPoker

/-- How grave a record is. -/
structure LogLevel where
  number : Nat
  deriving DecidableEq, Repr

/-- Why a setting is no level. -/
inductive LevelFault where
  | unknown (name : Text)
  /-- It is neither a number nor a name. -/
  | wrongKind
  deriving DecidableEq, Repr

namespace LevelFault

def message : LevelFault → Text
  | unknown name => text "Unknown level: " ++ Json.quoted name
  | wrongKind => text "Level not an integer or a valid string"

end LevelFault

namespace LogLevel

def debug : LogLevel := ⟨10⟩

def info : LogLevel := ⟨20⟩

def warning : LogLevel := ⟨30⟩

def error : LogLevel := ⟨40⟩

def critical : LogLevel := ⟨50⟩

/-- No level: every record passes. -/
def notSet : LogLevel := ⟨0⟩

/-- The names of levels. Of two names of a level the first is shown. -/
def names : List (LogLevel × String) :=
  [(critical, "CRITICAL"), (critical, "FATAL"), (error, "ERROR"), (warning, "WARNING"),
    (warning, "WARN"), (info, "INFO"), (debug, "DEBUG"), (notSet, "NOTSET")]

def name (l : LogLevel) : Text :=
  match Table.get? l names with
  | some s => text s
  | none => text "Level " ++ Text.ofNat l.number

def ofName? (t : Text) : Option LogLevel :=
  (names.find? fun entry => text entry.2 = t).map Prod.fst

/-- The pattern of records that have no layout of their own. -/
def basicPattern : Text := text "%(levelname)s:%(name)s:%(message)s"

/-- The level of a name in letters of any case. Two names are taken that are those of the pattern
and of the styles of records, which are no levels; all other names mean `info`. -/
def ofSetting (t : Text) : Except LevelFault LogLevel :=
  let name := Text.upperAscii t
  if name = text "BASIC_FORMAT" then .error (.unknown basicPattern)
  else if name = text "_STYLES" then .error .wrongKind
  else .ok ((ofName? name).getD info)

/-- Every name is the name of its level. -/
theorem ofName?_name : ∀ entry ∈ names, ofName? (text entry.2) = some entry.1 := by decide

end LogLevel

/-- Named values that go with a record. -/
abbrev LogAttributes := Table Text Json

namespace LogAttributes

/-- The names that records use for themselves. -/
def reserved : List Text :=
  ["name", "msg", "args", "levelname", "levelno", "pathname", "filename", "module", "exc_info",
    "exc_text", "stack_info", "lineno", "funcName", "created", "msecs", "relativeCreated",
    "thread", "threadName", "processName", "process", "message", "asctime"].map text

/-- The first name among the attributes that a record uses for itself. -/
def clash? (a : LogAttributes) : Option Text := (a.map Prod.fst).find? reserved.contains

/-- The attributes together; of two values for a name the later one counts. -/
def and (a b : LogAttributes) : LogAttributes :=
  b.foldl (fun t (k, v) => Table.insert k v t) a

/-- The attributes of several loggers, from the outermost to the innermost. -/
def all (parts : List LogAttributes) : LogAttributes := parts.foldl and []

/-- The value of an attribute; null when it is absent. -/
def value (a : LogAttributes) (name : String) : Json := Json.member name (.obj a)

end LogAttributes

/-- Where in the program a record was made. -/
structure LogPlace where
  file : Text
  line : Nat
  function : Text

/-- A record. -/
structure LogRecord where
  level : LogLevel
  logger : Text
  message : Text
  attributes : LogAttributes
  /-- The error that the record reports, on a line of its own. -/
  error : Option Text
  place : LogPlace

namespace LogRecord

/-- What a record is about. -/
def contextNames : List String := ["session_id", "game_id", "hand_id", "seq_id"]

/-- The value for a name: what the surroundings say goes before what the record says. A session
that is empty is as good as none. -/
def contextValue (surroundings : LogAttributes) (r : LogRecord) (name : String) : Json :=
  let around := surroundings.value name
  let own := r.attributes.value name
  if name = "session_id" then
    if around.truthy then around else if own.truthy then own else .null
  else if name = "seq_id" then own
  else if around = .null then own
  else around

/-- The session, the hand and the envelope that a record is about, as far as they are known. -/
def context (surroundings : LogAttributes) (r : LogRecord) : List (String × Json) :=
  (contextNames.map fun name => (name, r.contextValue surroundings name)).filter
    fun entry => entry.2 ≠ .null

end LogRecord

end MentalPoker
