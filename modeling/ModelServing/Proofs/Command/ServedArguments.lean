import ModelServing.Command.Execution
import ModelServing.Proofs.Engine.LaunchHistory
import ModelServing.Proofs.Registry.Reload

/-! What serving a model has in common with showing its arguments. -/

namespace ModelServing

namespace Engine

/-- A check finds an installation on a supported platform only. -/
theorem supported_of_found {engine : Engine} {ask : Option Interpreter} {host : Host}
    (found : (engine.installAs ask host).2.ending = .found) : engine.supported = true := by
  -- Without an interpreter the check does not even begin, so only the other case has to be
  -- excluded.
  cases ask with
  | none => cases found
  | some ask =>
    -- An unsupported platform would have ended the check.
    cases supported : engine.supported with
    | true => rfl
    | false =>
      rw [installAs, install, detect_of_unsupported (engine.site ask) host supported] at found
      cases found

end Engine

namespace Command

/-- What a command to serve has come to when it looks at its request: the log level was set, the
registry was loaded, the check has found an installation, and its status was shown. -/
structure Prepares (deployment : Deployment) (options : LaunchOptions) (directory : Option String)
    (registry : Registry) (engine : Engine) (checked : Engine.Checked Host) (status : String) :
    Prop where
  level : (({} : RootLogger).configure (.text deployment.settings.logLevel)).2 = .ok ()
  loaded : Registry.load deployment.host.fs (deployment.registryPath options.registryPath)
    = .ok registry
  installed : deployment.install (some registry) directory = (engine, checked)
  found : checked.ending = .found
  shown : Console.display {} ("[green]" ++ engine.installation.status ++ "[/green]") = .ok status

section Prepared

variable {deployment : Deployment} {options : LaunchOptions} {directory : Option String}
  {registry : Registry} {engine : Engine} {checked : Engine.Checked Host} {status : String}

/-- What such a command leaves behind is what comes of its request, after the status. -/
theorem Prepares.serve_eq
    (prepared : Prepares deployment options directory registry engine checked status)
    (reference : Option String) :
    let launched := launch deployment engine checked.machine (options.request reference)
    serve deployment options reference directory
      = { launched with
          stdout := status ++ launched.stdout
          logs := checked.logs ++ launched.logs } := by
  -- Each condition of the preparation settles one step of the command, in the order it takes them.
  obtain ⟨level, loaded, installed, found, shown⟩ := prepared
  simp only [serve, level, Deployment.withRegistry_of_ok loaded, serveFrom, installed, found,
    Outcome.afterPrinting, shown, Outcome.afterLogs]

/-- The engine that looks at the request is the one that was made, but for what it knows. -/
theorem Prepares.exists_engine_eq
    (prepared : Prepares deployment options directory registry engine checked status) :
    ∃ known, engine = (deployment.engine (some registry) directory).learn known := by
  -- A check changes an engine in nothing but what it knows.
  obtain ⟨known, learned, _⟩ :=
    Engine.installAs_concludes (deployment.engine (some registry) directory)
      (some deployment.interpreter) deployment.host
  rw [show Engine.installAs _ _ _ = _ from prepared.installed] at learned
  exact ⟨known, learned⟩

/-- The platform of the engine that looks at the request is supported. -/
theorem Prepares.supported
    (prepared : Prepares deployment options directory registry engine checked status) :
    engine.supported = true := by
  -- Learning does not touch the platform, so it is enough to look at the engine before its check.
  have found : (deployment.install (some registry) directory).2.ending = .found := by
    rw [prepared.installed]
    exact prepared.found
  have before : (deployment.engine (some registry) directory).supported = true :=
    Engine.supported_of_found found
  obtain ⟨known, rfl⟩ := prepared.exists_engine_eq
  exact before

/-- The server of a request has the arguments that are shown for it, and the names of its model. -/
theorem Prepares.arguments_eq
    (prepared : Prepares deployment options directory registry engine checked status)
    {reference : Option String} {words : List String}
    (built : options.arguments registry = .ok words) {server : Run.Server}
    (given : engine.serverFor checked.machine.fs (options.request reference) = .ok server) :
    server.arguments
      = words ++ ["--served-model-name", options.model, Engine.orElse reference options.model] := by
  -- Both commands read the options through one and the same function.
  obtain ⟨known, rfl⟩ := prepared.exists_engine_eq
  -- The server was made from the bundle of the same model, with the same base and the same options.
  obtain ⟨_, _, bundle, arguments, launcher, registered, found, same, _, rfl⟩ :=
    Engine.serverFor_eq_ok_iff.mp given
  cases registered
  have again : options.arguments registry = .ok arguments := by
    unfold LaunchOptions.arguments
    rw [show registry.require options.model = .ok bundle from found]
    exact same
  rw [Except.ok.inj (built.symm.trans again)]
  rfl

/-- A request for which no arguments are shown is refused with the same error. -/
theorem Prepares.serverFor_of_error
    (prepared : Prepares deployment options directory registry engine checked status)
    (reference : Option String) {error : BackendError}
    (failed : options.arguments registry = .error error) :
    engine.serverFor checked.machine.fs (options.request reference) = .error (.backend error) := by
  -- Neither the platform nor the registry stands in the way, which leaves the error of the
  -- arguments.
  have supported := prepared.supported
  obtain ⟨known, rfl⟩ := prepared.exists_engine_eq
  exact Engine.serverFor_of_refusal supported rfl failed

/-- If arguments are shown for a model, then any server that is run for it with the same options is
given these arguments and, after them, the names of the model. If an error is told instead, then
serving the model tells the same error behind the status, and runs no server. -/
theorem served_as_shown
    (prepared : Prepares deployment options directory registry engine checked status)
    (reference : Option String) :
    let request := options.request reference
    let shown := showArguments deployment options
    let served := serve deployment options reference directory
    (∀ words, options.arguments registry = .ok words →
      shown = Outcome.afterPrinting { deployment.unbroken with markup := false } (shellLine words)
        {} ∧
      ∀ server, engine.serverFor checked.machine.fs request = .ok server →
        server.arguments
          = words ++ ["--served-model-name", options.model,
              Engine.orElse reference options.model] ∧
        let ran := runServer deployment checked.machine server
        served = { ran with stdout := status ++ ran.stdout, logs := checked.logs ++ ran.logs }) ∧
    ∀ error, options.arguments registry = .error error →
      shown = Outcome.ofError error ∧
      engine.serverFor checked.machine.fs request = .error (.backend error) ∧
      served = { shown with stdout := status ++ shown.stdout, logs := checked.logs } := by
  -- The two cases are the two results of one function of the options, which both commands call.
  intro request shown served
  have showing : shown = showArgumentsFrom deployment options registry :=
    Deployment.withRegistry_of_ok prepared.loaded _
  have serving : served = _ := prepared.serve_eq reference
  constructor
  · intro words built
    refine ⟨by rw [showing, showArgumentsFrom, built], fun server given => ?_⟩
    refine ⟨prepared.arguments_eq built given, ?_⟩
    have launched : launch deployment engine checked.machine request
        = runServer deployment checked.machine server := by
      unfold launch
      rw [given]
    rw [serving, launched]
  · intro error failed
    have told : shown = Outcome.ofError error := by rw [showing, showArgumentsFrom, failed]
    have refused := prepared.serverFor_of_error reference failed
    -- On a supported platform nothing is logged about a refusal.
    have launched : launch deployment engine checked.machine request = Outcome.ofError error := by
      unfold launch
      rw [refused]
      simp [Engine.refusalLogs, prepared.supported, Outcome.afterLogs, Outcome.ofFailure]
    have silent : (Outcome.ofError error).logs = [] := Outcome.logs_ofError error
    refine ⟨told, refused, ?_⟩
    rw [serving, launched, told, silent, List.append_nil]

end Prepared

/-- A machine with a registry of one model in its root, and a prebuilt installation. -/
def installedMachine : Deployment where
  -- The binary is a program of its own, so that the check asks no interpreter.
  host :=
    { fs :=
        { root := .directory
            [("m.yaml", .file
              { identity := 0
                content :=
                  { bytes := "models:\n- name: m\n  safetensors_path: w/m\n".toUTF8.toList } }),
              ("engine", .directory [("sglang", Filesystem.programFile 1 "true")])] } }

/-- What is asked about a model of that machine. -/
def aboutModel (model : String) : LaunchOptions where
  -- Only the name of the model is left open.
  model := model
  socket := "host"
  registryPath := some "/m.yaml"

/-- The model of that machine is served with the arguments that are shown for it, and another one is
refused with the error that is told instead of its arguments. -/
theorem served_as_shown_with_binary :
    let words := ["-m", "sglang.launch_server", "--model-path", "/w", "--host", "host"]
    ∃ registry engine checked status,
      (∀ model, Prepares installedMachine (aboutModel model) (some "/engine") registry engine checked
        status) ∧
      (aboutModel "m").arguments registry = .ok words ∧
      (∃ server, engine.serverFor checked.machine.fs ((aboutModel "m").request (some "r"))
        = .ok server ∧ server.arguments = words ++ ["--served-model-name", "m", "r"]) ∧
      (aboutModel "n").arguments registry = .error (.modelNotFound "n" ["m"]) ∧
      let shown := showArguments installedMachine (aboutModel "n")
      serve installedMachine (aboutModel "n") none (some "/engine")
        = { shown with stdout := status ++ shown.stdout, logs := checked.logs } := by
  -- The registry is loaded once, by evaluation, and the general statement is applied to either
  -- model.
  intro words
  have level : (({} : RootLogger).configure (.text installedMachine.settings.logLevel)).2
      = .ok () := by decide +kernel
  have told : (Registry.load installedMachine.host.fs "/m.yaml").map (fun registry =>
      ((aboutModel "m").arguments registry, (aboutModel "n").arguments registry))
        = .ok (.ok words, .error (.modelNotFound "n" ["m"])) := by decide +kernel
  cases loaded : Registry.load installedMachine.host.fs "/m.yaml" with
  | error failure =>
    rw [loaded] at told
    cases told
  | ok registry =>
    rw [loaded] at told
    obtain ⟨built, failed⟩ := Prod.mk.inj (Except.ok.inj told)
    -- What the check finds does not hang on the registry.
    let made := installedMachine.install (some registry) (some "/engine")
    let bare := installedMachine.install none (some "/engine")
    have same : made.2 = bare.2 := rfl
    have found : bare.2.ending = .found := by decide +kernel
    have shown : Console.display {} ("[green]" ++ bare.1.installation.status ++ "[/green]")
        = .ok "running sglang version: unknown\n" := by decide +kernel
    have prepared : ∀ model, Prepares installedMachine (aboutModel model) (some "/engine") registry
        made.1 made.2 "running sglang version: unknown\n" := fun model =>
      ⟨level, loaded, rfl, same ▸ found, shown⟩
    have present : bare.2.machine.fs.contains bare.1.binaryPath = true := by decide +kernel
    refine ⟨registry, _, _, _, prepared, built, ?_, failed, ?_⟩
    · -- The binary is there, so that a server is given, and its arguments are the ones shown.
      cases known : registry.require (aboutModel "m").model with
      | error unknown =>
        rw [LaunchOptions.arguments, known] at built
        cases built
      | ok bundle =>
        have arguments := built
        rw [LaunchOptions.arguments, known] at arguments
        have given := @Engine.serverFor_of_arguments made.1 made.2.machine.fs
          ((aboutModel "m").request (some "r")) registry bundle words (prepared "m").supported rfl
          known arguments
        have launched : made.1.launcher? made.2.machine.fs = _ :=
          Engine.launcher?_of_present present
        rw [launched] at given
        exact ⟨_, given, (((served_as_shown (prepared "m") (some "r")).1 _ built).2 _ given).1⟩
    · exact ((served_as_shown (prepared "n") none).2 _ failed).2.2

end Command

end ModelServing
