import ModelServing.Run.Image
import ModelServing.Schema.Field

/-! Deployment settings, with their defaults and the variables that override them. -/

namespace ModelServing

open Schema

/-- How the service is deployed. -/
structure Settings where
  /-- The directory of the prebuilt installation. -/
  installDirectory : String := "/opt/sglang-env/bin"
  /-- The file name of the prebuilt launcher. -/
  binaryName : String := "sglang"
  /-- The interpreter that is looked for when there is no prebuilt installation. -/
  interpreter : String := "python3"
  /-- The path of the model registry. -/
  registryPath : String := "/app/config/models.yaml"
  /-- How many seconds a server has to stop before it is killed. -/
  gracePeriod : Int := 30
  logLevel : String := "INFO"
  deriving DecidableEq, Repr

namespace Settings

/-- The names of the settings in their order. -/
def fieldNames : List String :=
  ["sglang_dir", "sglang_binary_name", "python_executable", "models_config_path",
    "shutdown_grace_period", "log_level"]

/-- What the names of the variables that override settings begin with. -/
def variablePrefix : String := "unified_inference_"

/-- The settings that variables override. Case does not matter, and a later variable wins. -/
def fromVariables (environment : Environment) : Fields :=
  fieldNames.filterMap fun name =>
    (environment.reverse.find? fun entry => entry.1.toLower == variablePrefix ++ name).map
      fun entry => (name, .text entry.2)

/-- The settings that are given, under their own names; the case of a name does not matter. -/
def fromGiven (fields : Fields) : Fields :=
  fields.map fun (name, value) =>
    if fieldNames.contains name.toLower then (name.toLower, value) else (name, value)

/-- The issues of fields that are no settings. -/
def unknownIssues (fields : Fields) : List Issue :=
  (fields.filter fun field => !fieldNames.contains field.1).map fun field =>
    ⟨[.field field.1], .unknownField, .of field.2⟩

/-- Passes if there are no issues. -/
def noneOf (issues : List Issue) : Checked Unit :=
  if issues.isEmpty then .ok () else .error issues

/-- The fields of settings. -/
def check (fields : Fields) : Checked Settings :=
  -- The issues come in the order of the fields, and those of unknown fields after them.
  let usual : Settings := {}
  let text (name otherwise : String) := defaulted textField name otherwise fields
  (Checked.both (text "sglang_dir" usual.installDirectory)
    (Checked.both (text "sglang_binary_name" usual.binaryName)
      (Checked.both (text "python_executable" usual.interpreter)
        (Checked.both (text "models_config_path" usual.registryPath)
          (Checked.both
            (defaulted integerField "shutdown_grace_period" usual.gracePeriod fields)
            (Checked.both (text "log_level" usual.logLevel)
              (noneOf (unknownIssues fields)))))))).map
                fun (installDirectory, binaryName, interpreter, registryPath, gracePeriod,
                    logLevel, ()) =>
                  { installDirectory, binaryName, interpreter, registryPath, gracePeriod, logLevel }

/-- Reads settings: those given win over variables, and variables over defaults. -/
def read (environment : Environment) (given : Fields) : Except Rejection Settings :=
  accepted "Settings" (check (fromGiven given ++ fromVariables environment))

end Settings

end ModelServing
