import ModelServing.Console.Color
import ModelServing.Error.Backend
import ModelServing.Schema.Issue
import ModelServing.Text.Utf8
import ModelServing.Yaml.Fault

/-! Everything that a request can fail with. -/

namespace ModelServing

/-- Why a request fails. -/
inductive Failure where
  /-- A backend reports an error. -/
  | backend (error : BackendError)
  /-- A record is rejected. -/
  | rejected (rejection : Schema.Rejection)
  /-- A system call fails. -/
  | system (error : SystemError)
  /-- A YAML text yields no value. -/
  | document (fault : Yaml.Fault)
  /-- A file is not UTF-8. -/
  | notUnicode (part : Text.Utf8.IllFormed)
  /-- A text that is handed to the system holds a null character. -/
  | nullCharacter
  /-- The name of an environment variable holds an equals sign. -/
  | variableName
  /-- There is no registry file. -/
  | registryAbsent (path : String)
  /-- The registry file does not list any models. -/
  | modelsAbsent
  /-- A value is not of a kind that this place can work with. -/
  | wrongShape
  /-- The backend was made without a registry. -/
  | registryMissing
  /-- An output line of a process is too long. -/
  | overlongLine
  /-- The log sink does not take any more text. -/
  | sinkClosed
  /-- A delay is too long to be counted in seconds. -/
  | hugeDelay
  /-- There is no log level of this name. -/
  | unknownLevel (name : String)
  /-- There is no mode of this value, which is shown as it would be inside another one. -/
  | unknownMode (shown : String)
  /-- A text cannot be shown on the console. -/
  | markup (fault : Console.MarkupFault)
  deriving DecidableEq, Repr

namespace Failure

/-- What a failure says. -/
def message : Failure → String
  | .backend error => error.message
  | .rejected rejection => rejection.text
  | .system error => error.message
  | .document fault => fault.headline
  | .notUnicode part => part.message
  | .nullCharacter => "embedded null byte"
  | .variableName => "illegal environment variable name"
  | .registryAbsent path => "Model config not found: " ++ path
  | .modelsAbsent => "Invalid models.yaml: missing 'models' key"
  | .wrongShape => "unexpected kind of value"
  | .registryMissing => "no registry"
  | .overlongLine => "line too long"
  | .sinkClosed => "log sink closed"
  | .hugeDelay => "int too large to convert to float"
  | .unknownLevel name => "Unknown level: " ++ Text.quoted name
  | .unknownMode shown => shown ++ " is not a valid BackendMode"
  | .markup fault => fault.message

end Failure

end ModelServing
