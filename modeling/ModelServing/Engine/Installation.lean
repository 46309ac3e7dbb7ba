/-! What the last check for an installation found. -/

namespace ModelServing.Engine

/-- How the engine is installed. -/
inductive Topology where
  /-- A prebuilt environment in the image. -/
  | dockerPrebuilt
  /-- A package of the host's interpreter. -/
  | hostInterpreter
  | notFound
  deriving DecidableEq, Repr

/-- The name of a topology. -/
def Topology.text : Topology → String
  | .dockerPrebuilt => "docker_prebuilt"
  | .hostInterpreter => "host_python"
  | .notFound => "not_found"

/-- What is known about the installation. A version is absent when it could not be read. -/
inductive Installation where
  /-- No check has come to an end yet. -/
  | unchecked
  | prebuilt (version : Option String)
  /-- The interpreter at a path has the package. -/
  | host (interpreter : String) (version : Option String)
  /-- There is no interpreter. -/
  | interpreterMissing
  /-- The interpreter at a path lacks the package. -/
  | packageMissing (interpreter : String)
  deriving DecidableEq, Repr

namespace Installation

/-- The status of an engine that runs with a version. -/
def runningStatus (version : Option String) : String :=
  "running sglang version: " ++ version.getD "unknown"

/-- The status that is shown to users. -/
def status : Installation → String
  | .unchecked => "not installed"
  | .prebuilt version => runningStatus version
  | .host _ version => runningStatus version
  | .interpreterMissing => "SGLang binary not found"
  | .packageMissing _ => "sglang package not installed"

/-- The topology that was found, if a check has come to an end. -/
def topology? : Installation → Option Topology
  | .unchecked => none
  | .prebuilt _ => some .dockerPrebuilt
  | .host .. => some .hostInterpreter
  | .interpreterMissing => some .notFound
  | .packageMissing _ => some .notFound

/-- The interpreter that was found, if there is one. -/
def interpreter? : Installation → Option String
  | .host interpreter _ => some interpreter
  | .packageMissing interpreter => some interpreter
  | _ => none

end Installation

end ModelServing.Engine
