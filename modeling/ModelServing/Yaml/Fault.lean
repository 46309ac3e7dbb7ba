/-! Why a YAML text yields no value. -/

namespace ModelServing.Yaml

/-- A fault of a YAML text. -/
inductive Fault where
  /-- The text, a tag or a key breaks a rule: what was being read, if that is told, and what is
  wrong. -/
  | broken (reading : Option String) (wrong : String)
  /-- An escape names a number that is no character. -/
  | notCharacter
  /-- An escape names a number too large to be looked at. -/
  | hugeCharacter
  /-- A scalar does not spell a value of its tag. -/
  | misspelt (message : String)
  /-- A number is spelt without any digit. -/
  | emptyNumber
  /-- A number in base sixty has more parts than floating-point numbers can weigh. -/
  | hugeNumber
  /-- A truth value is spelt in no known way. -/
  | unknownTruth
  /-- A time is not spelt like one. -/
  | notTime
  deriving DecidableEq, Repr

/-- The first line of a fault's wording. -/
def Fault.headline : Fault → String
  | .broken (some reading) _ => reading
  | .broken none wrong => wrong
  | .notCharacter => "chr() arg not in range(0x110000)"
  | .hugeCharacter => "character number out of range"
  | .misspelt message => message
  | .emptyNumber => "string index out of range"
  | .hugeNumber => "int too large to convert to float"
  | .unknownTruth => "unknown truth value"
  | .notTime => "no time"

end ModelServing.Yaml
