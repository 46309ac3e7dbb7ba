import ModelServing.Error.Kind
import ModelServing.Filesystem.Errno

/-! The errors that a backend reports, by their causes. -/

namespace ModelServing

/-- A failure that a backend reports to its caller. -/
inductive BackendError where
  | unsupportedPlatform
  | engineNotFound
  /-- The interpreter could not import the engine's package: its path and exit code. -/
  | packageNotInstalled (interpreter : String) (code : Int)
  | missingArtifact
  | rerankingUnsupported
  /-- The mode is none of the known ones, and is shown like this. -/
  | unknownMode (shown : String)
  /-- The bundle of this name is not among the names that are registered. -/
  | modelNotFound (name : String) (registered : List String)
  | probeFailed (cause : SystemError)
  | diskUsage (cause : SystemError)
  | launchFailed (backend : String) (cause : SystemError)
  | exited (backend : String) (code : Int)
  deriving DecidableEq, Repr

namespace BackendError

/-- The kind of an error. -/
def kind : BackendError → ErrorKind
  | .unsupportedPlatform => .unsupportedPlatform
  | .engineNotFound => .engineNotFound
  | .packageNotInstalled .. => .packageNotInstalled
  | .missingArtifact => .missingArtifact
  | .rerankingUnsupported => .unsupportedMode
  | .unknownMode _ => .unsupportedMode
  | .modelNotFound .. => .modelNotFound
  | .probeFailed _ => .probeFailed
  | .diskUsage _ => .diskUsage
  | .launchFailed .. => .launchFailed
  | .exited .. => .exited

/-- What an error says. -/
def message : BackendError → String
  | .unsupportedPlatform => "SGLang is not supported on this platform"
  | .engineNotFound => "SGLang binary not found"
  | .packageNotInstalled interpreter code =>
    "sglang package not installed for " ++ interpreter ++ " (exit code " ++ toString code ++ ")"
  | .missingArtifact => "safetensors path required by SGLang backend"
  | .rerankingUnsupported => "reranking mode not supported by SGLang backend"
  | .unknownMode shown => "unsupported backend mode '" ++ shown ++ "'"
  | .modelNotFound name _ => "Model '" ++ name ++ "' is not registered"
  | .probeFailed cause => "failed to check SGLang binary: " ++ cause.message
  | .diskUsage cause => "error while getting store size: " ++ cause.message
  | .launchFailed backend cause => "unable to start " ++ backend ++ ": " ++ cause.message
  | .exited backend code =>
    backend ++ " terminated unexpectedly with exit code " ++ toString code

/-- Names in their order, separated by commas, or a word for none. -/
def listing (names : List String) : String :=
  if names.isEmpty then "none"
  else ", ".intercalate (names.mergeSort fun a b => decide (a ≤ b))

/-- What a caller may do about an error. -/
def hint? : BackendError → Option String
  | .modelNotFound _ registered => some ("Available models: " ++ listing registered)
  | _ => none

/-- The failed system call behind an error. -/
def cause? : BackendError → Option SystemError
  | .probeFailed cause => some cause
  | .diskUsage cause => some cause
  | .launchFailed _ cause => some cause
  | _ => none

/-- The exit code that an error tells. -/
def exitCode? : BackendError → Option Int
  | .exited _ code => some code
  | _ => none

end BackendError

end ModelServing
