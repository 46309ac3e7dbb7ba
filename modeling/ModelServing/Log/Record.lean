/-! Log messages and their levels. -/

namespace ModelServing

/-- How serious a log message is. -/
inductive Severity where
  | debug
  | info
  | warning
  | error
  deriving DecidableEq, Repr

/-- The name of a severity. -/
def Severity.name : Severity → String
  | .debug => "DEBUG"
  | .info => "INFO"
  | .warning => "WARNING"
  | .error => "ERROR"

/-- A message as a logger receives it. -/
structure LogRecord where
  severity : Severity
  text : String
  deriving DecidableEq, Repr

/-- A message of the lowest severity. -/
def LogRecord.debug (text : String) : LogRecord := ⟨.debug, text⟩

/-- A message that tells what goes on. -/
def LogRecord.info (text : String) : LogRecord := ⟨.info, text⟩

/-- A message that warns. -/
def LogRecord.warning (text : String) : LogRecord := ⟨.warning, text⟩

/-- A message about an error. -/
def LogRecord.error (text : String) : LogRecord := ⟨.error, text⟩

/-- The level at which a logger without one of its own passes messages on. -/
def usualLevel : Int := 30

/-- Whether a logger passes on messages of a level. A logger of level zero has the usual one, and
messages have to be above level zero. -/
def passes (loggerLevel level : Int) : Bool :=
  0 < level && (if loggerLevel == 0 then usualLevel else loggerLevel) ≤ level

end ModelServing
