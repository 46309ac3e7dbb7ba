import ModelServing.Proofs.Engine.LaunchHistory

/-! Whether a request is served by what the check before it has reported. -/

namespace ModelServing.Engine

section Detection

variable {σ : Type}

/-- What a check has seen if it found an installation: a prebuilt binary, which it leaves alone, or
no binary at all and an interpreter. -/
inductive Sees (site : Site σ) (machine : σ) (checked : Checked σ) : Prop
  | prebuilt (present : site.checkBinary machine = .ok ()) (version : Option String)
    (known : checked.known = some (.prebuilt version)) (untouched : checked.machine = machine)
  | host {path : String} (absent : site.checkBinary machine = .error (.system ⟨.noEntry, path⟩))
    {interpreter : String} (named : site.findInterpreter machine = some interpreter)
    (version : Option String) (known : checked.known = some (.host interpreter version))

/-- A check that sees a binary and comes to an end has not touched the machine. -/
theorem detectPrebuilt_sees {site : Site σ} {machine : σ}
    (present : site.checkBinary machine = .ok ())
    (found : (detectPrebuilt site machine).ending = .found) :
    Sees site machine (detectPrebuilt site machine) := by
  -- Such a check reads a file and runs nothing.
  unfold detectPrebuilt at found ⊢
  -- Only a version that is read, or that the system refuses to read, lets the check end well.
  cases read : site.readVersion machine with
  | ok text =>
    rw [read] at found
    exact .prebuilt present _ rfl rfl
  | error failure =>
    rw [read] at found
    cases failure with
    | system cause => exact .prebuilt present none rfl rfl
    | _ => cases found

/-- A check that asks an interpreter for the version and comes to an end knows of that
interpreter. -/
theorem detectVersion_known {site : Site σ} {interpreter : String} {logs : List LogRecord}
    {machine : σ} (found : (detectVersion site interpreter logs machine).ending = .found) :
    ∃ version, (detectVersion site interpreter logs machine).known
      = some (.host interpreter version) := by
  -- The run has told something, and then the interpreter is held with it, whatever the version.
  unfold detectVersion at found ⊢
  generalize site.runCode interpreter versionCode machine = ran at found ⊢
  obtain ⟨probe, after⟩ := ran
  cases told : probe.result interpreter with
  | error ending =>
    simp only [told] at found
    rcases Probe.result_error told with rfl | rfl <;> cases found
  | ok result =>
    simp only [told]
    exact ⟨_, rfl⟩

/-- A check that looks for an interpreter and comes to an end knows of the one that it found. -/
theorem detectHost_known {site : Site σ} {machine : σ}
    (found : (detectHost site machine).ending = .found) :
    ∃ interpreter version, site.findInterpreter machine = some interpreter ∧
      (detectHost site machine).known = some (.host interpreter version) := by
  -- Only a found interpreter with the package brings the check to its second run.
  unfold detectHost at found ⊢
  cases named : site.findInterpreter machine with
  | none =>
    rw [named] at found
    cases found
  | some interpreter =>
    simp only [named] at found ⊢
    generalize ran : site.runCode interpreter presenceCode machine = result at found ⊢
    obtain ⟨probe, after⟩ := result
    cases told : probe.result interpreter with
    | error ending =>
      simp only [ran, told] at found
      rcases Probe.result_error told with rfl | rfl <;> cases found
    | ok result =>
      obtain ⟨code, output, logs⟩ := result
      simp only [ran, told] at found ⊢
      -- Without the package, the check would have failed.
      by_cases present : (code == 0) = true
      · rw [if_pos present] at found ⊢
        obtain ⟨version, known⟩ := detectVersion_known found
        exact ⟨interpreter, version, rfl, known⟩
      · rw [if_neg present] at found
        cases found

/-- What a check has seen that found an installation. -/
theorem detect_sees {site : Site σ} {machine : σ}
    (found : (detect site machine).ending = .found) : Sees site machine (detect site machine) := by
  -- The stages of the check are followed, and all but two end in another way.
  unfold detect at found ⊢
  -- An unsupported platform ends the check, and so does whatever else is wrong with the binary.
  split at found
  · cases found
  · rename_i supported
    rw [if_neg supported]
    cases seen : site.checkBinary machine with
    | ok _ =>
      rw [seen] at found
      exact detectPrebuilt_sees seen found
    | error failure =>
      rw [seen] at found
      split at found
      · rename_i same
        cases same
      · rename_i path same
        cases same
        obtain ⟨interpreter, version, named, known⟩ := detectHost_known found
        exact .host seen named version known
      · cases found
      · cases found

end Detection

/-- A path that can be looked at leads to an entry, and one that cannot leads to none. -/
theorem contains_eq_checkPath (host : Host) (path : String) :
    host.fs.contains path = (checkPath host path).isOk := by
  -- Looking at a path is asking for its status, once null characters are out of the way.
  unfold Filesystem.contains checkPath
  cases Filesystem.hasNull path with
  | true => rfl
  | false =>
    -- Both ask the system for the status of the path.
    cases host.fs.status path <;> rfl

/-- The program that an engine shows as its installation, and the directory that it is bound to. -/
inductive Reports (engine : Engine) : String × Option String → Prop
  | prebuilt (found : engine.installation.topology? = some .dockerPrebuilt) :
    Reports engine (engine.binaryPath, some engine.directory)
  | host {interpreter : String} (found : engine.installation.topology? = some .hostInterpreter)
    (named : engine.installation.interpreter? = some interpreter) :
    Reports engine (interpreter, none)

/-- After a check that found an installation, whatever the interpreter does when it is run, a
request that can be taken on is served by what the check has reported exactly if the binary is there
after the check as it was before it, so that no run of the interpreter has put it there. A prebuilt
installation is reported where the binary was there before the check, and then it is there after it
as well; an interpreter where it was not. Wherever the binary is there after the check, it serves.
In no case is the engine not found. -/
theorem launch_as_reported_iff {engine : Engine} {registry : Registry}
    (supported : engine.supported = true) (registered : engine.registry = some registry)
    {request : ServeRequest} {bundle : ModelBundle} (servable : Servable registry request bundle)
    {host : Host} {run : Interpreter} {after : Engine} {checked : Checked Host}
    (installed : engine.install (engine.site run) host = (after, checked))
    (found : checked.ending = .found) :
    ∃ launcher arguments, Reports after launcher ∧
      Launch.arguments engine.base bundle request.socket request.mode request.config
        = .ok arguments ∧
      (after.serverFor checked.machine.fs request = .ok (requested request arguments launcher) ↔
        checked.machine.fs.contains engine.binaryPath = host.fs.contains engine.binaryPath) ∧
      (after.installation.topology? = some .dockerPrebuilt →
        host.fs.contains engine.binaryPath = true ∧
          checked.machine.fs.contains engine.binaryPath = true) ∧
      (after.installation.topology? = some .hostInterpreter →
        host.fs.contains engine.binaryPath = false) ∧
      (checked.machine.fs.contains engine.binaryPath = true →
        after.serverFor checked.machine.fs request
          = .ok (requested request arguments (engine.binaryPath, some engine.directory))) ∧
      after.serverFor checked.machine.fs request ≠ .error (.backend .engineNotFound) := by
  -- A check reports what it has seen before it ran anything, and the request looks once more.
  obtain ⟨arguments, built⟩ := servable.exists_arguments engine.base
  -- The engine after the check differs from the one before it in what it knows.
  simp only [install, Prod.mk.injEq] at installed
  obtain ⟨rfl, rfl⟩ := installed
  generalize site : engine.site run = seen at found ⊢
  have looks : seen.checkBinary host = checkPath host engine.binaryPath := by
    rw [← site]
    rfl
  have served : ∀ known fs, (engine.learn known).serverFor fs request = _ := fun known _ =>
    @serverFor_of_arguments (engine.learn known) _ _ _ _ _ supported registered servable.known built
  cases detect_sees found with
  | prebuilt present version known untouched =>
    -- The binary was there, and nothing has happened to it.
    have there : host.fs.contains engine.binaryPath = true := by
      rw [contains_eq_checkPath, ← looks, present]
      rfl
    rw [known, untouched]
    have launched : (engine.learn (some (.prebuilt version))).launcher? host.fs = _ :=
      launcher?_of_present there
    rw [served, launched]
    exact ⟨_, arguments, .prebuilt rfl, built, iff_of_true rfl rfl, fun _ => ⟨there, there⟩, nofun,
      fun _ => rfl, nofun⟩
  | host absent named version known =>
    -- The binary was not there, and the interpreter that was found has a path.
    rename_i path interpreter
    have away : host.fs.contains engine.binaryPath = false := by
      rw [contains_eq_checkPath, ← looks, absent]
      rfl
    have somewhere : which host engine.interpreter = some interpreter := by
      rw [← named, ← site]
      rfl
    rw [known]
    refine ⟨_, arguments, .host rfl rfl, built, ?_⟩
    generalize (detect seen host).machine.fs = now
    cases present : now.contains engine.binaryPath with
    | true =>
      -- A run of the interpreter has put the binary there.
      have launched : (engine.learn (some (.host interpreter version))).launcher? now = _ :=
        launcher?_of_present present
      rw [served, launched]
      refine ⟨iff_of_false ?_ (by simp [away]), nofun, fun _ => away, fun _ => rfl, nofun⟩
      intro same
      have bound := congrArg Run.Server.sandbox (Except.ok.inj same)
      cases bound
    | false =>
      have launched : (engine.learn (some (.host interpreter version))).launcher? now = _ :=
        launcher?_of_absent present fun other held => by
          cases held
          exact which_ne_empty somewhere
      rw [served, launched]
      exact ⟨iff_of_true rfl away.symm, nofun, fun _ => away, nofun, nofun⟩

/-- A machine with a shell, the directory of an installation without a binary, and an interpreter
that is a script of some lines. -/
def scriptedHost (script : String) : Host where
  -- The script can do whatever a shell can, that is, also change the machine.
  fs :=
    { root := .directory
        [("bin", .directory [("sh", Filesystem.programFile 0 "sh")]), ("engine", .directory []),
          ("py", .file
            { identity := 1, executable := true
              content := { bytes := ("#!/bin/sh\n" ++ script).toUTF8.toList } })] }

/-- An interpreter that prints a version serves after the check that has found it. -/
theorem launch_as_reported_of_script :
    let (after, checked) := smallEngine.installOn none (scriptedHost "echo 2\n")
    checked.ending = .found ∧ after.installation = .host "/py" (some "2") ∧
      after.serverFor checked.machine.fs smallRequest
        = .ok (requested smallRequest
            ["-m", "sglang.launch_server", "--model-path", "/weights", "--host", "sock"]
            ("/py", none)) := by
  -- The binary is away before and after, so the two times agree.
  have found : (smallEngine.installOn none (scriptedHost "echo 2\n")).2.ending = .found := by
    decide +kernel
  have known : (smallEngine.installOn none (scriptedHost "echo 2\n")).1.installation
      = .host "/py" (some "2") := by decide +kernel
  have away : (smallEngine.installOn none (scriptedHost "echo 2\n")).2.machine.fs.contains
      smallEngine.binaryPath = (scriptedHost "echo 2\n").fs.contains smallEngine.binaryPath := by
    decide +kernel
  have built : Launch.arguments [] { name := "m", safetensorsPath := "/weights/m.safetensors" }
      smallRequest.socket smallRequest.mode smallRequest.config
      = .ok ["-m", "sglang.launch_server", "--model-path", "/weights", "--host", "sock"] := by
    decide +kernel
  obtain ⟨launcher, arguments, reports, same, served, -⟩ :=
    @launch_as_reported_iff smallEngine smallRegistry rfl rfl smallRequest _ servable_small
      (scriptedHost "echo 2\n") (runCode none)
      (smallEngine.installOn none (scriptedHost "echo 2\n")).1
      (smallEngine.installOn none (scriptedHost "echo 2\n")).2 rfl found
  -- What the check has reported is the interpreter, so that the request is served by that.
  have reported : launcher = ("/py", none) := by
    cases reports with
    | prebuilt prebuilt =>
      rw [known] at prebuilt
      cases prebuilt
    | host _ named =>
      rw [known] at named
      cases named
      rfl
  have words : _ = arguments := Except.ok.inj (built.symm.trans same)
  subst reported words
  exact ⟨found, known, served.mpr away⟩

/-- An interpreter that puts the binary in place while it is checked is reported, and does not
serve. -/
theorem launch_not_as_reported :
    let (after, checked) := smallEngine.installOn none (scriptedHost ": > /engine/sglang\n")
    checked.ending = .found ∧ after.installation.topology? = some .hostInterpreter ∧
      after.installation.interpreter? = some "/py" ∧
      (after.serverFor checked.machine.fs smallRequest).map (fun server =>
        (server.program, server.sandbox)) = .ok ("/engine/sglang", some "/engine") := by
  -- The script itself creates the file, between the two looks.
  decide +kernel

end ModelServing.Engine
