import ModelServing.Command.Invocation
import ModelServing.Command.Outcome
import ModelServing.Engine.Machine
import ModelServing.Log.RootLogger
import ModelServing.Shell.Words

/-! How commands are carried out. -/

namespace ModelServing.Command

/-- Where a command is carried out. -/
structure Deployment where
  settings : Settings := {}
  host : Host
  platform : String := "linux"
  /-- What comes of running the interpreter. -/
  interpreter : Engine.Interpreter := Engine.runCode none
  /-- What a server does that is run. -/
  programs : Run.Programs := Run.hostPrograms
  /-- Why the system refuses to remove a socket that was left behind, if it does. -/
  refused : Option Errno := none
  /-- Whether the terminal drops blanks beyond its width from lines that it does not break. -/
  crops : Bool := true

/-- The version of the program. -/
def versionText : String := "unified-inference-sglang v0.1.0"

/-- Whether a registry that could not be loaded is told as that. -/
def isReported : Failure → Bool
  | .system _ | .registryAbsent _ | .modelsAbsent | .rejected _ | .notUnicode _ => true
  | .document (.broken ..) | .document .notCharacter | .document (.misspelt _) => true
  | _ => false

/-- What is told of a registry that could not be loaded. -/
def registryText (path : String) (failure : Failure) : String :=
  "[red]Error:[/red] could not load model registry " ++ path ++ ": " ++ failure.message

namespace Deployment

/-- How a line is printed that is not to be broken. -/
def unbroken (deployment : Deployment) : Console.Manner :=
  { wrapped := false, cropped := deployment.crops }

/-- The path of the registry: the one asked for, or the usual one. -/
def registryPath (deployment : Deployment) (path : Option String) : String :=
  Engine.orElse path deployment.settings.registryPath

/-- Goes on with the registry at a path. -/
def withRegistry (deployment : Deployment) (path : Option String) (next : Registry → Outcome) :
    Outcome :=
  -- A failure that is not expected leaves the command, whatever it would have gone on with.
  match Registry.load deployment.host.fs (deployment.registryPath path) with
  | .ok registry => next registry
  | .error failure =>
    if isReported failure then
      Outcome.afterPrinting deployment.unbroken
        (registryText (deployment.registryPath path) failure) { ending := .exited 1 }
    else { ending := .crashed failure }

/-- A registry that is loaded is handed on. -/
theorem withRegistry_of_ok {deployment : Deployment} {path : Option String} {registry : Registry}
    (loaded : Registry.load deployment.host.fs (deployment.registryPath path) = .ok registry)
    (next : Registry → Outcome) : deployment.withRegistry path next = next registry := by
  -- There is only the one branch for a registry.
  unfold withRegistry
  rw [loaded]

/-- The engine of a deployment. -/
def engine (deployment : Deployment) (registry : Option Registry) (directory : Option String) :
    Engine :=
  Engine.create deployment.settings registry [] directory none
    (Engine.supportsPlatform deployment.platform)

/-- Checks for an installation of the engine of a deployment. -/
def install (deployment : Deployment) (registry : Option Registry) (directory : Option String) :
    Engine × Engine.Checked Host :=
  (deployment.engine registry directory).installAs (some deployment.interpreter) deployment.host

/-- Runs a server on a machine, with its output passed on to the log. -/
def run (deployment : Deployment) (host : Host) (server : Run.Server) : Run.Result LineSink :=
  server.runWith deployment.programs deployment.refused deployment.settings Run.logSink none {} host

end Deployment

namespace LaunchOptions

/-- The configuration that is asked for, if anything is. -/
def config (options : LaunchOptions) : Option BackendConfiguration :=
  if options.contextSize.isNone && options.flags.isEmpty then none
  else some { contextSize := options.contextSize, runtimeFlags := options.flags }

/-- The arguments of a server for a bundle of a registry. -/
def arguments (options : LaunchOptions) (registry : Registry) :
    Except BackendError (List String) := do
  let bundle ← registry.require options.model
  Launch.arguments [] bundle options.socket (.text options.mode.text) options.config

/-- The request for a server. -/
def request (options : LaunchOptions) (reference : Option String) : ServeRequest where
  -- The name of the model serves as its reference as well, unless there is another one.
  socket := options.socket
  model := options.model
  reference := Engine.orElse reference options.model
  mode := .text options.mode.text
  config := options.config

end LaunchOptions

/-- Words as a line to be given to a shell. -/
def shellLine (words : List String) : String :=
  String.ofList (Shell.joinWords (words.map String.toList))

/-- Shows the arguments of a server for a model of a registry. -/
def showArgumentsFrom (deployment : Deployment) (options : LaunchOptions) (registry : Registry) :
    Outcome :=
  -- The line is meant to be read back by a shell, so nothing in it is markup.
  match options.arguments registry with
  | .ok words =>
    Outcome.afterPrinting { deployment.unbroken with markup := false } (shellLine words) {}
  | .error error => Outcome.ofError error

/-- Shows the arguments of a server without running it. -/
def showArguments (deployment : Deployment) (options : LaunchOptions) : Outcome :=
  deployment.withRegistry options.registryPath (showArgumentsFrom deployment options)

/-- Prints what is known about the installation. -/
def showInstallation (known : Engine.Installation) : Outcome :=
  -- A line for the status always comes; the others only where something is known.
  let topology := known.topology?.map fun topology => "Topology: " ++ topology.text
  let interpreter := (known.interpreter?.filter fun path => !path.isEmpty).map fun path =>
    "Interpreter: " ++ path
  (["[green]Status:[/green] " ++ known.status] ++ topology.toList ++ interpreter.toList).foldr
    (Outcome.afterPrinting {}) {}

/-- Checks for an installation, and shows what was found. -/
def probe (deployment : Deployment) (directory : Option String) : Outcome :=
  -- The status is printed before an error, since the check may have learned something all the same.
  let (engine, checked) := deployment.install none directory
  Outcome.afterLogs checked.logs <|
    match checked.ending with
    | .found => showInstallation engine.installation
    | .failed (.backend error) =>
      Outcome.afterPrinting {} ("Status: " ++ engine.installation.status) (Outcome.ofError error)
    | .failed failure => { ending := .crashed failure }
    | .cancelled | .pending => { ending := .unfinished }

/-- Runs a server until it ends, and tells how it has ended. -/
def runServer (deployment : Deployment) (host : Host) (server : Run.Server) : Outcome :=
  -- A server that ends has ended for a reason, and a command that goes on has no exit code yet.
  let result := deployment.run host server
  Outcome.afterLogs result.logs <|
    match result.outcome.bind server.failure? with
    | some failure => Outcome.ofFailure failure
    | none => { ending := .unfinished }

/-- Runs the server that a request asks for until it ends. -/
def launch (deployment : Deployment) (engine : Engine) (host : Host) (request : ServeRequest) :
    Outcome :=
  match engine.serverFor host.fs request with
  | .error failure => Outcome.afterLogs engine.refusalLogs (Outcome.ofFailure failure)
  | .ok server => runServer deployment host server

/-- Checks for an installation, shows its status, and runs a server for a model of a registry. -/
def serveFrom (deployment : Deployment) (options : LaunchOptions)
    (reference directory : Option String) (registry : Registry) : Outcome :=
  -- The status is printed between the check and the launch, so a display that fails prevents the
  -- launch.
  let (engine, checked) := deployment.install (some registry) directory
  Outcome.afterLogs checked.logs <|
    match checked.ending with
    | .found =>
      Outcome.afterPrinting {} ("[green]" ++ engine.installation.status ++ "[/green]")
        (launch deployment engine checked.machine (options.request reference))
    | .failed failure => Outcome.ofFailure failure
    | .cancelled | .pending => { ending := .unfinished }

/-- Checks for an installation, shows its status, and runs a server. -/
def serve (deployment : Deployment) (options : LaunchOptions)
    (reference directory : Option String) : Outcome :=
  -- Logging is set up first, so an unknown level ends the command before the registry is looked at.
  match (({} : RootLogger).configure (.text deployment.settings.logLevel)).2 with
  | .error failure => { ending := .crashed failure }
  | .ok () =>
    deployment.withRegistry options.registryPath
      (serveFrom deployment options reference directory)

/-- Shows the size of the prebuilt installation. -/
def diskUsage (deployment : Deployment) (directory : Option String) : Outcome :=
  match (deployment.engine none directory).diskUsage deployment.host.fs with
  | .ok size => Outcome.afterPrinting {} (toString size) {}
  | .error error => Outcome.ofError error

/-- Carries out what a command line asks for. -/
def Invocation.perform (deployment : Deployment) : Invocation → Outcome
  | .probe directory => Command.probe deployment directory
  | .showArguments options => Command.showArguments deployment options
  | .serve options reference directory => Command.serve deployment options reference directory
  | .diskUsage directory => Command.diskUsage deployment directory
  | .version => Outcome.afterPrinting {} versionText {}

/-- The code that a command line exits with if it is not well formed. -/
def usageCode : Nat := 2

/-- Carries out a command line. -/
def perform (deployment : Deployment) (arguments : List String) : Outcome :=
  match Invocation.read? arguments with
  | some invocation => invocation.perform deployment
  | none => { ending := .exited usageCode }

end ModelServing.Command
