import ModelServing.Engine.Detection
import ModelServing.Filesystem.Size
import ModelServing.Launch.Arguments
import ModelServing.Registry.Store
import ModelServing.Run.Server

/-! The engine as a backend: what it is made of, what it knows, and what it can be asked to do. -/

namespace ModelServing

/-- The engine with what its last check found. -/
structure Engine where
  /-- The directory of the prebuilt installation. -/
  directory : String
  /-- The file name of the prebuilt launcher. -/
  binaryName : String
  /-- The name or path of the interpreter to look for. -/
  interpreter : String
  /-- The arguments before all others. -/
  base : List String := []
  /-- Where bundles are looked up. -/
  registry : Option Registry := none
  supported : Bool := true
  installation : Engine.Installation := .unchecked
  deriving Repr

/-- A request to serve a model. -/
structure ServeRequest where
  socket : String
  model : String
  /-- The second name under which the model is served. -/
  reference : String
  mode : Value
  config : Option BackendConfiguration := none
  deriving Repr

namespace Engine

/-- Whether the engine runs on a platform: it is built for Linux only. -/
def supportsPlatform (platform : String) : Bool := platform.startsWith "linux"

/-- A text, or another one where it is missing or empty. -/
def orElse (text : Option String) (otherwise : String) : String :=
  (text.filter fun text => !text.isEmpty).getD otherwise

/-- An engine with what is not given taken from the settings. -/
def create (settings : Settings) (registry : Option Registry) (base : List String)
    (directory interpreter : Option String) (supported : Bool) : Engine where
  -- An empty path counts as one that is not given.
  directory := orElse directory settings.installDirectory
  binaryName := settings.binaryName
  interpreter := orElse interpreter settings.interpreter
  base := base
  registry := registry
  supported := supported

/-- The name of the engine. -/
def name : String := "sglang"

/-- What the engine's server is called in messages. -/
def serverName : String := "SGLang"

/-- The path of the prebuilt binary. -/
def binaryPath (engine : Engine) : String := Path.join engine.directory engine.binaryName

/-- The path of the file with the prebuilt version: it stands beside the installation. -/
def versionPath (engine : Engine) : String :=
  Path.join (Path.directory (Path.normalize engine.directory)) "version"

/-- What a check knows, after it what was known before if it has not changed. -/
def learn (engine : Engine) (known : Option Installation) : Engine :=
  { engine with installation := known.getD engine.installation }

@[simp] theorem learn_binaryPath (engine : Engine) (known : Option Installation) :
    (engine.learn known).binaryPath = engine.binaryPath :=
  -- Learning touches only what is known.
  rfl

@[simp] theorem learn_directory (engine : Engine) (known : Option Installation) :
    (engine.learn known).directory = engine.directory :=
  -- Learning touches only what is known.
  rfl

/-- Checks for an installation on a site. -/
def install {σ : Type} (engine : Engine) (site : Site σ) (machine : σ) : Engine × Checked σ :=
  let checked := detect site machine
  (engine.learn checked.known, checked)

/-- The program that serves, and the directory it is bound to: the prebuilt binary where there is
one now, or else the interpreter that the last check found. -/
def launcher? (engine : Engine) (fs : Filesystem) : Option (String × Option String) :=
  if fs.contains engine.binaryPath then some (engine.binaryPath, some engine.directory)
  else engine.installation.interpreter?.bind fun interpreter =>
    if interpreter.isEmpty then none else some (interpreter, none)

/-- The server of a request with the arguments that its bundle takes: what serves, and the directory
that it is bound to. -/
def requested (request : ServeRequest) (arguments : List String)
    (launcher : String × Option String) : Run.Server where
  -- The model is served under its own name and under that of the reference, in this order.
  name := serverName
  socket := request.socket
  program := launcher.1
  sandbox := launcher.2
  arguments := arguments ++ ["--served-model-name", request.model, request.reference]

/-- The server that a request asks for. -/
def serverFor (engine : Engine) (fs : Filesystem) (request : ServeRequest) :
    Except Failure Run.Server := do
  -- The order of the checks is that of the errors: platform, model, arguments, launcher.
  if !engine.supported then throw (.backend .unsupportedPlatform)
  match engine.registry with
  | none => throw .registryMissing
  | some registry =>
    let bundle ← (registry.require request.model).mapError Failure.backend
    let arguments ← (Launch.arguments engine.base bundle request.socket request.mode
      request.config).mapError Failure.backend
    match engine.launcher? fs with
    | none => throw (.backend .engineNotFound)
    | some launcher => return requested request arguments launcher

/-- What is logged when a request cannot even be looked at. -/
def refusalLogs (engine : Engine) : List LogRecord :=
  if engine.supported then [] else [.warning "SGLang backend is not supported on this platform"]

/-- Serves a request on a machine, with what runs a server there and hands its output to a sink. A
request that is refused leaves the machine and the sink alone. -/
def serve {σ : Type} (engine : Engine) (run : Run.Server → Host → σ → Run.Result σ)
    (request : ServeRequest) (host : Host) (sink : σ) : Run.Result σ :=
  -- The request is looked at as a whole before anything is run.
  match engine.serverFor host.fs request with
  | .error failure =>
    { outcome := some (.failed failure), sink, logs := engine.refusalLogs, fs := host.fs }
  | .ok server => run server host sink

/-- The size of the prebuilt installation; without one it is zero. -/
def diskUsage (engine : Engine) (fs : Filesystem) : Except BackendError Nat :=
  if fs.isDirectory engine.directory then (fs.size engine.directory).mapError .diskUsage else .ok 0

/-- The memory that serving a model takes: a placeholder, whatever the model. -/
def requiredMemory (engine : Engine) : Except BackendError RequiredMemory :=
  if engine.supported then .ok ⟨1, 1⟩ else .error .unsupportedPlatform

end Engine

end ModelServing
