import ModelServing.Error.Failure
import ModelServing.Log.Record
import ModelServing.Value

/-! The logger above all others, and how the service sets it up. -/

namespace ModelServing

/-- The logger above all others: its level as it was given, and the formats of its handlers. -/
structure RootLogger where
  level : Value := .int usualLevel
  formats : List String := []
  deriving Repr

namespace RootLogger

/-- The format of the service's log lines. -/
def serviceFormat : String := "%(asctime)s - %(name)s - %(levelname)s - %(message)s"

/-- The levels that have names. -/
def namedLevels : List (String × Int) :=
  [("CRITICAL", 50), ("FATAL", 50), ("ERROR", 40), ("WARN", 30), ("WARNING", 30), ("INFO", 20),
    ("DEBUG", 10), ("NOTSET", 0)]

/-- The level that a value stands for, and none where the value leaves the level as it is. -/
def readLevel (level : Value) : Except Failure (Option Value) :=
  -- Truth values count as levels of their own, and only texts are looked up.
  match level with
  | .null => .ok none
  | .int n => .ok (some (.int n))
  | .bool b => .ok (some (.bool b))
  | .text name =>
    match namedLevels.find? fun entry => entry.1 == name with
    | some (_, number) => .ok (some (.int number))
    | none => .error (.unknownLevel name)
  | _ => .error .wrongShape

/-- Sets up logging: the first call adds the handler and then sets the level, and every later call
does nothing. A level that cannot be read leaves the handler in place. -/
def configure (logger : RootLogger) (level : Value) : RootLogger × Except Failure Unit :=
  -- The handler comes first, so a level that fails leaves it behind.
  if !logger.formats.isEmpty then (logger, .ok ())
  else
    let logger := { logger with formats := [serviceFormat] }
    match readLevel level with
    | .error failure => (logger, .error failure)
    | .ok none => (logger, .ok ())
    | .ok (some level) => ({ logger with level }, .ok ())

end RootLogger

end ModelServing
