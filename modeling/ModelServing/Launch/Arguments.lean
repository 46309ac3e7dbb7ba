import ModelServing.Bundle
import ModelServing.Filesystem.Path
import ModelServing.Launch.Mode

/-! The argument list of a server process. -/

namespace ModelServing.Launch

/-- What starts the server inside an interpreter. -/
def moduleArguments : List String := ["-m", "sglang.launch_server"]

/-- The context length that a caller asks for: only a positive one counts. -/
def requestedLength? (config : Option BackendConfiguration) : Option Int :=
  (config.bind (·.contextSize)).filter fun size => 0 < size

/-- The context length of a run: what the bundle declares, or else what the caller asks for. -/
def contextLength? (declared : RuntimeConfig) (config : Option BackendConfiguration) : Option Int :=
  match declared.contextSize with
  | some size => some size
  | none => requestedLength? config

/-- The arguments that select a mode. -/
def modeArguments (mode : Value) : Except BackendError (List String) :=
  -- A mode that is known and not supported is told apart from one that is not known.
  match Mode.ofValue? mode with
  | some .completion => .ok []
  | some .embedding => .ok ["--is-embedding"]
  | some .reranking => .error .rerankingUnsupported
  | none => .error (.unknownMode mode.display)

/-- The arguments that set the context length. -/
def lengthArguments (declared : RuntimeConfig) (config : Option BackendConfiguration) :
    List String :=
  match contextLength? declared config with
  | some size => ["--context-length", toString size]
  | none => []

/-- The flags that a caller hands to the server as they are. -/
def flags (config : Option BackendConfiguration) : List String :=
  (config.map (·.runtimeFlags)).getD []

/-- The arguments of a server for a bundle: the base ones, then those that the request sets, then
the caller's flags. The server takes the directory of the weights, not the file. -/
def arguments (base : List String) (bundle : ModelBundle) (socket : String) (mode : Value)
    (config : Option BackendConfiguration) : Except BackendError (List String) :=
  -- The weights are asked for before the mode.
  if bundle.safetensorsPath.isEmpty then .error .missingArtifact
  else do
    let selected ← modeArguments mode
    return base ++ moduleArguments ++ ["--model-path", Path.directory bundle.safetensorsPath]
      ++ ["--host", socket] ++ selected ++ lengthArguments bundle.runtimeConfig config
      ++ flags config

end ModelServing.Launch
