/-! The kinds of errors that a backend reports. -/

namespace ModelServing

/-- What kind of failure a backend reports. -/
inductive ErrorKind where
  /-- A failure of no particular kind. -/
  | general
  /-- The engine cannot run on this platform. -/
  | unsupportedPlatform
  /-- There is neither a prebuilt binary nor a usable interpreter. -/
  | engineNotFound
  /-- There is an interpreter, which lacks the engine's package. -/
  | packageNotInstalled
  /-- The bundle has no path to its weights. -/
  | missingArtifact
  /-- The engine does not support the requested mode. -/
  | unsupportedMode
  /-- No bundle is registered under the name. -/
  | modelNotFound
  /-- Whether the engine is installed could not be found out. -/
  | probeFailed
  /-- The size of the installation could not be measured. -/
  | diskUsage
  /-- The server process could not be started. -/
  | launchFailed
  /-- The server process exited on its own. -/
  | exited
  deriving DecidableEq, Repr

/-- The stable code of a kind of error. -/
def ErrorKind.code : ErrorKind → String
  | .general => "BACKEND_ERROR"
  | .unsupportedPlatform => "UNSUPPORTED_PLATFORM"
  | .engineNotFound => "ENGINE_NOT_FOUND"
  | .packageNotInstalled => "PACKAGE_NOT_INSTALLED"
  | .missingArtifact => "MISSING_ARTIFACT"
  | .unsupportedMode => "UNSUPPORTED_MODE"
  | .modelNotFound => "MODEL_NOT_FOUND"
  | .probeFailed => "PROBE_FAILED"
  | .diskUsage => "DISK_USAGE_FAILED"
  | .launchFailed => "BACKEND_LAUNCH_FAILED"
  | .exited => "BACKEND_EXITED"

end ModelServing
