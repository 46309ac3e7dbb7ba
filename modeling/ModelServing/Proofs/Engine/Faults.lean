import ModelServing.Proofs.Engine.LaunchHistory
import ModelServing.Proofs.Launch.CommandLine

/-! What can be wrong with a request, which of it is told, and what is run if nothing is. -/

namespace ModelServing.Engine

/-- The kinds of errors that a request can be refused with, in the order in which they are told. -/
def faultOrder : List ErrorKind :=
  [.unsupportedPlatform, .modelNotFound, .missingArtifact, .unsupportedMode, .engineNotFound]

/-- Whether a request is at fault in some way, whatever else is wrong with it. -/
def faulty (engine : Engine) (registry : Registry) (fs : Filesystem) (request : ServeRequest) :
    ErrorKind → Bool
  -- Each kind of fault is decided on its own, so that the order among them is a matter of its own.
  | .unsupportedPlatform => !engine.supported
  | .modelNotFound => (registry.get? request.model).isNone
  | .missingArtifact => (registry.get? request.model).any fun bundle => bundle.safetensorsPath.isEmpty
  | .unsupportedMode =>
    match request.mode with
    | .text "completion" | .text "embedding" => false
    | _ => true
  | .engineNotFound =>
    -- There is no binary now, and no check has left an interpreter that has a path.
    !fs.contains engine.binaryPath &&
      (engine.installation.interpreter?.filter fun interpreter => !interpreter.isEmpty).isNone
  | _ => false

/-- What a request has to be told of, if anything. -/
def fault? (engine : Engine) (registry : Registry) (fs : Filesystem) (request : ServeRequest) :
    Option ErrorKind :=
  faultOrder.find? (faulty engine registry fs request)

section Refusals

variable {engine : Engine} {registry : Registry} {fs : Filesystem} {request : ServeRequest}

/-- A mode is at fault exactly if no arguments can be built for it. -/
theorem faulty_mode_iff :
    faulty engine registry fs request .unsupportedMode = true ↔
      ∃ error, Launch.modeArguments request.mode = .error error := by
  -- The modes that are served are the two that the arguments know.
  rw [Launch.modeArguments_refused_iff]
  simp only [faulty]
  split <;> simp_all

/-- Nothing can serve exactly if the request is at fault for that. -/
theorem faulty_launcher_iff :
    faulty engine registry fs request .engineNotFound = true ↔ engine.launcher? fs = none := by
  -- A launcher needs the binary or an interpreter, and an empty path counts as none.
  simp only [faulty, launcher?]
  cases fs.contains engine.binaryPath with
  | true => simp
  | false => cases engine.installation.interpreter? <;> simp [Option.filter]

/-- What serves is the prebuilt binary where it is there, bound to its directory, and elsewhere the
interpreter that is held. -/
theorem launcher_cases {program : String} {sandbox : Option String}
    (launches : engine.launcher? fs = some (program, sandbox)) :
    (fs.contains engine.binaryPath = true →
      program = engine.binaryPath ∧ sandbox = some engine.directory) ∧
    (fs.contains engine.binaryPath = false →
      engine.installation.interpreter? = some program ∧ sandbox = none) := by
  -- The binary is asked for first, and it hides whatever interpreter is held.
  constructor
  · intro present
    rw [launcher?_of_present present] at launches
    cases launches
    exact ⟨rfl, rfl⟩
  · intro absent
    simp only [launcher?, absent, Bool.false_eq_true, if_false, Option.bind_eq_some_iff] at launches
    obtain ⟨interpreter, held, same⟩ := launches
    split at same <;> cases same
    exact ⟨held, rfl⟩

/-- On an unsupported platform, every request is refused for that. -/
theorem serverFor_of_unsupported (unsupported : engine.supported = false) :
    engine.serverFor fs request = .error (.backend .unsupportedPlatform) := by
  -- The platform is asked before the request is looked at.
  simp [serverFor, unsupported, throw, throwThe, MonadExceptOf.throw, Bind.bind, Except.bind]

/-- What a request is given that has to be told of a fault, or of none: a refusal of that kind, or a
server with the arguments of its bundle. -/
inductive Settles (engine : Engine) (registry : Registry) (fs : Filesystem)
    (request : ServeRequest) : Option ErrorKind → Prop
  | refused {kind : ErrorKind} (error : BackendError) (same : error.kind = kind)
    (given : engine.serverFor fs request = .error (.backend error)) :
    Settles engine registry fs request (some kind)
  | served {bundle : ModelBundle} {arguments : List String} {launcher : String × Option String}
    (known : registry.get? request.model = some bundle)
    (built : Launch.arguments engine.base bundle request.socket request.mode request.config
      = .ok arguments)
    (launches : engine.launcher? fs = some launcher)
    (given : engine.serverFor fs request = .ok (requested request arguments launcher)) :
    Settles engine registry fs request none

/-- With weights, a request is settled by its mode and by what can serve. -/
theorem settles_of_weighted (supported : engine.supported = true)
    (registered : engine.registry = some registry) {bundle : ModelBundle}
    (known : registry.get? request.model = some bundle) (weighted : bundle.safetensorsPath ≠ "") :
    Settles engine registry fs request (fault? engine registry fs request) := by
  -- A known model with weights leaves two faults, which are asked in this order.
  have required : registry.require request.model = .ok bundle := by
    simp [Registry.require, known]
  -- Three of the faults are out of the question.
  have platform : faulty engine registry fs request .unsupportedPlatform = false := by
    simp [faulty, supported]
  have model : faulty engine registry fs request .modelNotFound = false := by
    simp [faulty, known]
  have artifact : faulty engine registry fs request .missingArtifact = false := by
    simp [faulty, known, weighted]
  cases chosen : Launch.modeArguments request.mode with
  | error error =>
    have mode : faulty engine registry fs request .unsupportedMode = true :=
      faulty_mode_iff.mpr ⟨error, chosen⟩
    have first : fault? engine registry fs request = some .unsupportedMode := by
      simp [fault?, faultOrder, platform, model, artifact, mode]
    rw [first]
    refine .refused error (Launch.kind_of_modeArguments chosen)
      (serverFor_of_refusal supported registered ?_)
    rw [required]
    exact (Launch.arguments_eq_error_iff weighted).mpr chosen
  | ok selected =>
    have mode : faulty engine registry fs request .unsupportedMode = false := by
      rw [Bool.eq_false_iff, Ne, faulty_mode_iff, chosen]
      simp
    obtain ⟨arguments, built⟩ : ∃ arguments, Launch.arguments engine.base bundle
        request.socket request.mode request.config = .ok arguments :=
      ⟨_, Launch.arguments_eq_ok_iff.mpr ⟨weighted, selected, chosen, rfl⟩⟩
    have given : engine.serverFor fs request = _ :=
      serverFor_of_arguments supported registered required built
    cases launches : engine.launcher? fs with
    | none =>
      have launcher : faulty engine registry fs request .engineNotFound = true :=
        faulty_launcher_iff.mpr launches
      have first : fault? engine registry fs request = some .engineNotFound := by
        simp [fault?, faultOrder, platform, model, artifact, mode, launcher]
      rw [launches] at given
      rw [first]
      exact .refused .engineNotFound rfl given
    | some launcher =>
      have launched : faulty engine registry fs request .engineNotFound = false := by
        rw [Bool.eq_false_iff, Ne, faulty_launcher_iff, launches]
        simp
      have sound : fault? engine registry fs request = none := by
        simp [fault?, faultOrder, platform, model, artifact, mode, launched]
      rw [launches] at given
      rw [sound]
      exact .served known built launches given

/-- A request is refused for the first thing that is wrong with it. With nothing wrong, it is given
a server. -/
theorem settles_fault (registered : engine.registry = some registry) :
    Settles engine registry fs request (fault? engine registry fs request) := by
  -- The checks come one after the other, and each failing one ends the request.
  cases supported : engine.supported with
  | false =>
    have first : fault? engine registry fs request = some .unsupportedPlatform := by
      simp [fault?, faultOrder, faulty, supported]
    rw [first]
    exact .refused .unsupportedPlatform rfl (serverFor_of_unsupported supported)
  | true =>
    cases known : registry.get? request.model with
    | none =>
      have first : fault? engine registry fs request = some .modelNotFound := by
        simp [fault?, faultOrder, faulty, supported, known]
      rw [first]
      refine .refused (.modelNotFound request.model registry.names) rfl
        (serverFor_of_refusal supported registered ?_)
      simp [Registry.require, known, Bind.bind, Except.bind]
    | some bundle =>
      by_cases weightless : bundle.safetensorsPath = ""
      · have first : fault? engine registry fs request = some .missingArtifact := by
          simp [fault?, faultOrder, faulty, supported, known, weightless]
        rw [first]
        refine .refused .missingArtifact rfl (serverFor_of_refusal supported registered ?_)
        simp [Registry.require, known, Bind.bind, Except.bind,
          Launch.arguments_of_weightless weightless]
      · exact settles_of_weighted supported registered known weightless

/-- After any acts on an engine, a request is refused for the first of its faults, and then,
whatever runs servers, none is run and the files and the sink are left alone. A request without a
fault comes to what is run for it: one server at the same address, with the arguments of its bundle
as the engine was first given them, followed by the names under which the model is served. It is the
prebuilt binary, bound to its directory, where that is there now, and otherwise the interpreter that
is held. -/
theorem serve_after_acts {engine : Engine} {registry : Registry}
    (registered : engine.registry = some registry) (host : Host) (acts : List Act)
    (request : ServeRequest) :
    let session := (Session.follow { engine, host } acts).1
    let now := session.host.fs
    (∀ kind, fault? session.engine registry now request = some kind →
      ∃ error : BackendError, error.kind = kind ∧
        ∀ {σ : Type} (run : Run.Server → Host → σ → Run.Result σ) (sink : σ),
          session.engine.serve run request session.host sink =
            { outcome := some (.failed (.backend error)), sink
              logs := session.engine.refusalLogs, fs := now }) ∧
    (fault? session.engine registry now request = none →
      ∃ bundle arguments program sandbox, registry.get? request.model = some bundle ∧
        Launch.arguments engine.base bundle request.socket request.mode request.config
          = .ok arguments ∧
        (now.contains engine.binaryPath = true →
          program = engine.binaryPath ∧ sandbox = some engine.directory) ∧
        (now.contains engine.binaryPath = false →
          session.engine.installation.interpreter? = some program ∧ sandbox = none) ∧
        ∀ {σ : Type} (run : Run.Server → Host → σ → Run.Result σ) (sink : σ),
          session.engine.serve run request session.host sink =
            run { name := "SGLang", socket := request.socket, program, sandbox
                  arguments :=
                    arguments ++ ["--served-model-name", request.model, request.reference] }
              session.host sink) := by
  -- A history fixes what the engine knows; what a request meets now is the order of its faults.
  intro session now
  -- Acts change nothing about the engine but what it knows of its installation.
  obtain ⟨known, same⟩ : ∃ known, session.engine = engine.learn known := follow_engine _ acts
  have settles : Settles session.engine registry now request _ :=
    settles_fault (by rw [same]; exact registered)
  constructor
  · intro kind first
    rw [first] at settles
    cases settles with
    | refused error told given =>
      exact ⟨error, told, fun run sink => by simp only [serve, now, given]⟩
  · intro sound
    rw [sound] at settles
    cases settles with
    | @served bundle arguments launcher found built launches given =>
      obtain ⟨program, sandbox⟩ := launcher
      obtain ⟨present, absent⟩ := launcher_cases launches
      -- Where the binary lies and which arguments come first is as it was before the acts.
      rw [same] at built
      rw [show session.engine.binaryPath = engine.binaryPath by rw [same]; rfl] at present absent
      rw [show session.engine.directory = engine.directory by rw [same]; rfl] at present
      exact ⟨bundle, arguments, program, sandbox, found, built, present, absent,
        fun run sink => by simp only [serve, now] at given ⊢; rw [given]; rfl⟩

end Refusals

/-- How a service runs servers on a plain host, their output passed on to its log. -/
def runLogged (server : Run.Server) (host : Host) (sink : LineSink) : Run.Result LineSink :=
  server.run {} Run.logSink none sink host

/-- After a check that has left an interpreter without the package, a request is served by that
interpreter, and one for an unknown model in an unknown mode is refused for the model. -/
theorem serve_after_check :
    let session := (Session.follow { engine := smallEngine, host := bareHost }
      [.check (some (runCode none))]).1
    session.engine.serve runLogged smallRequest session.host {} =
        runLogged { name := "SGLang", socket := "sock", program := "/py", arguments :=
          ["-m", "sglang.launch_server", "--model-path", "/weights", "--host", "sock",
            "--served-model-name", "m", "m"] } session.host {} ∧
      ∃ error : BackendError, error.kind = .modelNotFound ∧
        session.engine.serve runLogged { smallRequest with model := "n", mode := .text "x" }
            session.host {}
          = { outcome := some (.failed (.backend error)), sink := {}
              logs := session.engine.refusalLogs, fs := session.host.fs } := by
  -- The interpreter is there although it has not the package, and it is what serves.
  intro session
  constructor
  · obtain ⟨_, served⟩ :=
      @serve_after_acts smallEngine smallRegistry rfl bareHost [.check (some (runCode none))]
        smallRequest
    have sound : fault? session.engine smallRegistry session.host.fs smallRequest = none := by
      decide +kernel
    have absent : session.host.fs.contains smallEngine.binaryPath = false := by decide +kernel
    have held : session.engine.installation.interpreter? = some "/py" := by decide +kernel
    obtain ⟨bundle, arguments, program, sandbox, found, built, _, launches, runs⟩ := served sound
    obtain ⟨same, free⟩ := launches absent
    cases found
    cases held.symm.trans same
    cases free
    have words : ["-m", "sglang.launch_server", "--model-path", "/weights", "--host", "sock"]
        = arguments := Except.ok.inj (Eq.trans (by decide +kernel) built)
    subst words
    exact runs runLogged {}
  · obtain ⟨refused, _⟩ := @serve_after_acts smallEngine smallRegistry rfl bareHost
      [.check (some (runCode none))] { smallRequest with model := "n", mode := .text "x" }
    obtain ⟨error, kind, told⟩ := refused .modelNotFound (by decide +kernel)
    exact ⟨error, kind, told runLogged {}⟩

end ModelServing.Engine
