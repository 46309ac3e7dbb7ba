import ModelServing.Error.Kind
import ModelServing.Schema.Field

/-! Model bundles, and the records that describe runs and errors. -/

namespace ModelServing

open Schema

/-- What a bundle declares about running its model. -/
structure RuntimeConfig where
  /-- The context length in tokens. -/
  contextSize : Option Int := none
  deriving DecidableEq, Repr

/-- What a caller overrides for one run. -/
structure BackendConfiguration where
  /-- The context length in tokens; only a positive one counts. -/
  contextSize : Option Int := none
  /-- Flags handed to the server as they are. -/
  runtimeFlags : List String := []
  deriving DecidableEq, Repr

/-- The memory that serving a model takes, in bytes. -/
structure RequiredMemory where
  ram : Int
  vram : Int
  deriving DecidableEq, Repr

/-- An error as it is shown to a user. -/
structure ErrorDetail where
  code : String
  message : String
  hint : Option String := none
  deriving DecidableEq, Repr

/-- A named model with its weights. -/
structure ModelBundle where
  name : String
  /-- The path of the weights file; empty when the bundle has none. -/
  safetensorsPath : String := ""
  runtimeConfig : RuntimeConfig := {}
  /-- The fields that other engines use, in their order. -/
  extra : Fields := []
  deriving Repr

/-- A declared context length, which has to be positive if it is not null. -/
def RuntimeConfig.declared (value : Value) : Checked (Option Int) := do
  match ← optional integerField value with
  | some n => if n ≤ 0 then .fail (.notPositive "context_size") value else .ok (some n)
  | none => .ok none

/-- The fields of a runtime configuration. -/
def RuntimeConfig.check (fields : Fields) : Checked RuntimeConfig :=
  (defaulted RuntimeConfig.declared "context_size" none fields).map
    fun contextSize => ⟨contextSize⟩

/-- Reads a runtime configuration. -/
def RuntimeConfig.ofFields (fields : Fields) : Except Rejection RuntimeConfig :=
  accepted "RuntimeConfig" (RuntimeConfig.check fields)

/-- The fields of a run's overrides. -/
def BackendConfiguration.check (fields : Fields) : Checked BackendConfiguration :=
  (Checked.both (defaulted (optional integerField) "context_size" none fields)
    (defaulted (listField textField) "runtime_flags" [] fields)).map
      fun (contextSize, runtimeFlags) => ⟨contextSize, runtimeFlags⟩

/-- Reads the overrides of a run. -/
def BackendConfiguration.ofFields (fields : Fields) : Except Rejection BackendConfiguration :=
  accepted "BackendConfiguration" (BackendConfiguration.check fields)

/-- The fields of a memory requirement. -/
def RequiredMemory.check (fields : Fields) : Checked RequiredMemory :=
  (Checked.both (required integerField "ram" fields) (required integerField "vram" fields)).map
    fun (ram, vram) => ⟨ram, vram⟩

/-- Reads a memory requirement. -/
def RequiredMemory.ofFields (fields : Fields) : Except Rejection RequiredMemory :=
  accepted "RequiredMemory" (RequiredMemory.check fields)

/-- The fields of an error detail. -/
def ErrorDetail.check (fields : Fields) : Checked ErrorDetail :=
  -- The issues of all three fields are collected, in the order of the fields.
  (Checked.both (required textField "code" fields)
    (Checked.both (required textField "message" fields)
      (defaulted (optional textField) "hint" none fields))).map
        fun (code, message, hint) => ⟨code, message, hint⟩

/-- Reads an error detail. -/
def ErrorDetail.ofFields (fields : Fields) : Except Rejection ErrorDetail :=
  accepted "ErrorDetail" (ErrorDetail.check fields)

/-- The text-keyed entries of a mapping. -/
def textEntries (entries : List (Value × Value)) : Fields :=
  -- An entry with another key cannot be an extra field, so it is passed over.
  entries.filterMap fun (key, value) =>
    match key with
    | .text name => some (name, value)
    | _ => none

/-- A field that holds a runtime configuration. -/
def runtimeField (value : Value) : Checked RuntimeConfig :=
  match value with
  | .map entries => RuntimeConfig.check (textEntries entries)
  | _ => .fail (.notRecord "RuntimeConfig") value

/-- The names of a bundle's own fields. -/
def ModelBundle.fieldNames : List String := ["name", "safetensors_path", "runtime_config"]

/-- The fields of a bundle; those it does not know are kept. -/
def ModelBundle.check (fields : Fields) : Checked ModelBundle :=
  -- What no check has asked for is an extra field, and stays with the bundle.
  (Checked.both (required textField "name" fields)
    (Checked.both (defaulted textField "safetensors_path" "" fields)
      (defaulted runtimeField "runtime_config" {} fields))).map
        fun (name, safetensorsPath, runtimeConfig) =>
          ⟨name, safetensorsPath, runtimeConfig,
            fields.filter fun field => !ModelBundle.fieldNames.contains field.1⟩

/-- Reads a bundle. -/
def ModelBundle.ofFields (fields : Fields) : Except Rejection ModelBundle :=
  accepted "ModelBundle" (ModelBundle.check fields)

/-- An error as it is made: its kind, and the values given for its fields. -/
structure ErrorReport where
  kind : ErrorKind
  message : Value
  hint : Value := .null
  /-- The exit code, which only the error of an exited process has. -/
  exitCode : Value := .null
  deriving Repr

namespace ErrorReport

/-- What an error says. -/
def text (report : ErrorReport) : String := report.message.display

/-- The detail of an error, which takes only texts. -/
def detail (report : ErrorReport) : Except Schema.Rejection ErrorDetail :=
  ErrorDetail.ofFields
    [("code", .text report.kind.code), ("message", report.message), ("hint", report.hint)]

end ErrorReport

end ModelServing
