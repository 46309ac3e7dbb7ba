import Mathlib.Data.List.Induction
import ModelServing.Engine.Session
import ModelServing.Proofs.Engine.Detection
import ModelServing.Proofs.Engine.Request

/-! Which program serves a request after any history of checks. -/

namespace ModelServing.Engine

/-- The interpreter that the last completed check leaves to requests, if any. A check that found one
without the package leaves it all the same. Nothing is said of a check that could not look. -/
inductive Leaves : Option Finding → Option String → Prop
  | unchecked : Leaves none none
  | prebuilt : Leaves (some ⟨.found, some .dockerPrebuilt, none⟩) none
  | host (interpreter : String) :
    Leaves (some ⟨.found, some .hostInterpreter, some interpreter⟩) (some interpreter)
  | interpreterMissing : Leaves (some ⟨.failed (.backend .engineNotFound), some .notFound, none⟩) none
  | packageMissing (interpreter : String) (code : Int) :
    Leaves (some ⟨.failed (.backend (.packageNotInstalled interpreter code)), some .notFound,
      some interpreter⟩) (some interpreter)

/-- The empty path leads to nothing that could be run. -/
theorem isRunnable_ne_empty {fs : Filesystem} {path : String}
    (runnable : isRunnable fs path = true) : path ≠ "" := by
  -- Looking up the empty path fails at once.
  rintro rfl
  simp [isRunnable, Filesystem.status, Filesystem.find, Filesystem.place, Bind.bind, Except.bind,
    Except.map] at runnable

/-- A program that is found has a path. -/
theorem which_ne_empty {host : Host} {program path : String}
    (found : which host program = some path) : path ≠ "" := by
  -- Wherever a program is found, it was seen to be runnable there.
  unfold which at found
  split at found
  · split at found
    · rename_i runnable
      cases found
      exact isRunnable_ne_empty runnable
    · cases found
  · split at found
    · cases found
    · exact isRunnable_ne_empty (List.find?_some found)

/-- What an engine knows agrees with what its completed checks told. -/
structure Tracks (session : Session) (told : List Report) : Prop where
  /-- The engine holds the interpreter that its last completed check leaves. -/
  left : ∀ interpreter, Leaves (lastFinding? told) interpreter →
    session.engine.installation.interpreter? = interpreter
  /-- An interpreter that the engine holds was told by a completed check. -/
  told : ∀ interpreter, session.engine.installation.interpreter? = some interpreter →
    interpreter ≠ "" ∧ ∃ finding ∈ told.filterMap Report.completed?,
      finding.interpreter = some interpreter

/-- Following one act more takes one step more. -/
theorem follow_snoc (session : Session) (acts : List Act) (act : Act) :
    session.follow (acts ++ [act]) =
      (((session.follow acts).1.after act).1,
        ((session.follow acts).1.after act).2 :: (session.follow acts).2) := by
  -- Acts are followed from the left, so the last one comes outside.
  simp [Session.follow, List.foldl_append]

/-- An act that leaves the installation alone and completes no check keeps what agrees. -/
theorem Tracks.keep {session next : Session} {told : List Report} (tracks : Tracks session told)
    (same : next.engine.installation = session.engine.installation) {report : Report}
    (silent : report.completed? = none) : Tracks next (report :: told) := by
  -- Neither side of the agreement changes: the last finding stays the last.
  constructor
  · intro interpreter leaves
    rw [same]
    apply tracks.left
    simpa [lastFinding?, silent] using leaves
  · intro interpreter held
    rw [same] at held
    simpa [silent] using tracks.told interpreter held

/-- A completed check that tells the interpreter it leaves makes the engine agree with it. -/
theorem Tracks.complete {session : Session} {told : List Report} {finding : Finding}
    (completed : finding.ending.isCompleted = true)
    (shown : finding.interpreter = session.engine.installation.interpreter?)
    (left : ∀ interpreter, Leaves (some finding) interpreter → finding.interpreter = interpreter)
    (named : ∀ interpreter, finding.interpreter = some interpreter → interpreter ≠ "") :
    Tracks session (.checked finding :: told) := by
  -- The new finding is the last one, and it shows what the engine holds.
  have last : Report.completed? (.checked finding) = some finding := by
    simp [Report.completed?, completed]
  constructor
  · intro interpreter leaves
    rw [← shown]
    exact left interpreter (by simpa [lastFinding?, last] using leaves)
  · intro interpreter held
    rw [← shown] at held
    exact ⟨named interpreter held, finding, by simp [last], held⟩

/-- A check that fails without learning anything leaves the interpreter that was held before. -/
theorem Tracks.unsettled {session next : Session} {told : List Report}
    (tracks : Tracks session told)
    (same : next.engine.installation = session.engine.installation) {finding : Finding}
    (completed : finding.ending.isCompleted = true)
    (silent : ∀ interpreter, ¬Leaves (some finding) interpreter) :
    Tracks next (.checked finding :: told) := by
  -- The new finding leaves nothing to agree with, and the earlier ones are still told.
  have last : Report.completed? (.checked finding) = some finding := by
    simp [Report.completed?, completed]
  constructor
  · intro interpreter leaves
    exact absurd (by simpa [lastFinding?, last] using leaves) (silent interpreter)
  · intro interpreter held
    rw [same] at held
    obtain ⟨named, earlier, member, shown⟩ := tracks.told interpreter held
    exact ⟨named, earlier, by simpa [last] using Or.inr (by simpa using member), shown⟩

/-- No act parts what an engine knows from what its completed checks told. -/
theorem Tracks.after {session : Session} {told : List Report} (tracks : Tracks session told)
    (act : Act) : Tracks (session.after act).1 ((session.after act).2 :: told) := by
  -- Only a completed check tells anything, and then it replaces all that was known.
  cases act with
  | check ask =>
    obtain ⟨known, learned, concluded⟩ := installAs_concludes session.engine ask session.host
    simp only [Session.after]
    rw [learned]
    generalize (session.engine.installAs ask session.host).2.ending = ending at concluded
    -- Each conclusion fixes what is told, and what the engine holds from then on.
    cases concluded with
    | cancelled | pending => refine tracks.keep ?_ ?_ <;> rfl
    | prebuilt version =>
      exact .complete rfl rfl (by rintro _ ⟨⟩; rfl) nofun
    | host version named =>
      exact .complete rfl rfl (by rintro _ ⟨⟩; rfl)
        (by rintro _ ⟨⟩; exact which_ne_empty named)
    | interpreterMissing =>
      exact .complete rfl rfl (by rintro _ ⟨⟩; rfl) nofun
    | packageMissing code named =>
      exact .complete rfl rfl (by rintro _ ⟨⟩; rfl)
        (by rintro _ ⟨⟩; exact which_ne_empty named)
    | unsupported | probeFailed | nullCharacter | notUnicode =>
      refine tracks.unsettled ?_ ?_ ?_
      · rfl
      · rfl
      · rintro interpreter ⟨⟩
  | serve request => refine tracks.keep ?_ ?_ <;> rfl
  | measure => refine tracks.keep ?_ ?_ <;> rfl
  | estimate => refine tracks.keep ?_ ?_ <;> rfl
  | change host => refine tracks.keep ?_ ?_ <;> rfl

/-- After any acts, what an engine knows agrees with what its completed checks told. -/
theorem follow_tracks (session : Session) (unchecked : session.engine.installation = .unchecked)
    (acts : List Act) : Tracks (session.follow acts).1 (session.follow acts).2 := by
  -- The induction adds acts at the end, where the last report is told.
  induction acts using List.reverseRecOn with
  | nil =>
    constructor
    · rintro _ ⟨⟩
      simp [Session.follow, unchecked, Installation.interpreter?]
    · simp [Session.follow, unchecked, Installation.interpreter?]
  | append_singleton acts act ih =>
    rw [follow_snoc]
    exact ih.after act

/-- Acts change nothing about an engine but what it knows of its installation. -/
theorem follow_engine (session : Session) (acts : List Act) :
    ∃ known, (session.follow acts).1.engine = session.engine.learn known := by
  -- Only a check changes the engine, and it only learns.
  induction acts using List.reverseRecOn with
  | nil => exact ⟨none, rfl⟩
  | append_singleton acts act ih =>
    obtain ⟨known, same⟩ := ih
    rw [follow_snoc]
    cases act with
    | check ask =>
      obtain ⟨found, learned, _⟩ := installAs_concludes (session.follow acts).1.engine ask
        (session.follow acts).1.host
      refine ⟨some (found.getD (known.getD session.engine.installation)), ?_⟩
      simp only [Session.after]
      rw [learned, same]
      rfl
    | _ => exact ⟨known, same⟩

/-- A prebuilt binary serves, bound to its directory. -/
theorem launcher?_of_present {engine : Engine} {fs : Filesystem}
    (present : fs.contains engine.binaryPath = true) :
    engine.launcher? fs = some (engine.binaryPath, some engine.directory) :=
  -- The binary is looked for before anything that is known.
  if_pos present

/-- Without a prebuilt binary, what serves is the interpreter that the engine holds. -/
theorem launcher?_of_absent {engine : Engine} {fs : Filesystem}
    (absent : fs.contains engine.binaryPath = false)
    (named : ∀ interpreter, engine.installation.interpreter? = some interpreter →
      interpreter ≠ "") :
    engine.launcher? fs = engine.installation.interpreter?.map fun interpreter =>
      (interpreter, none) := by
  -- An interpreter that is held is not empty, so that it counts.
  cases held : engine.installation.interpreter? with
  | none => simp [launcher?, absent, held]
  | some interpreter => simp [launcher?, absent, held, named interpreter held]

/-- After any history of checks, requests and changes of the machine, a request for a known model
whose arguments can be built is served as follows. Where the prebuilt binary is there at that
moment, it serves, bound to its directory. Elsewhere the interpreter serves that the last completed
check leaves, bound to no directory, or no engine is found. In no history does anything serve but
these: the interpreter was told by a completed check, and no other failure comes up. -/
theorem launch_after_checks {settings : Settings} {registry : Registry} {base : List String}
    {directory interpreter : Option String} {engine : Engine}
    (created : engine = create settings (some registry) base directory interpreter true)
    {host : Host} {acts : List Act} {session : Session} {told : List Report}
    (followed : Session.follow { engine, host } acts = (session, told))
    {request : ServeRequest} {bundle : ModelBundle} {arguments : List String}
    (known : registry.require request.model = .ok bundle)
    (built : Launch.arguments base bundle request.socket request.mode request.config
      = .ok arguments) :
    (session.host.fs.contains engine.binaryPath = true →
      session.engine.serverFor session.host.fs request
        = .ok (requested request arguments (engine.binaryPath, some engine.directory))) ∧
    (session.host.fs.contains engine.binaryPath = false →
      (∀ left, Leaves (lastFinding? told) left →
        session.engine.serverFor session.host.fs request =
          match left with
          | some interpreter => .ok (requested request arguments (interpreter, none))
          | none => .error (.backend .engineNotFound)) ∧
      (session.engine.serverFor session.host.fs request = .error (.backend .engineNotFound) ∨
        ∃ interpreter,
          session.engine.serverFor session.host.fs request
            = .ok (requested request arguments (interpreter, none)) ∧
          ∃ finding ∈ told.filterMap Report.completed?,
            finding.interpreter = some interpreter)) := by
  -- A history is followed by one invariant, which says of the engine what its completed checks have
  -- told.
  subst created
  have tracks := follow_tracks
    { engine := create settings (some registry) base directory interpreter true, host } rfl acts
  rw [followed] at tracks
  obtain ⟨learned, same⟩ := follow_engine _ acts
  rw [followed] at same
  dsimp only at tracks same
  -- The request sees the engine as it was made, but for its installation.
  have served : session.engine.serverFor session.host.fs request = _ :=
    serverFor_of_arguments (by rw [same]; rfl) (by rw [same]; rfl) known (by rw [same]; exact built)
  constructor
  · intro present
    rw [served, same, launcher?_of_present (by simpa using present)]
    simp
  · intro absent
    have found : session.engine.launcher? session.host.fs = _ :=
      launcher?_of_absent (by simpa [same] using absent) fun interpreter held =>
        (tracks.told interpreter held).1
    constructor
    · intro left leaves
      rw [served, found, tracks.left left leaves]
      cases left <;> rfl
    · cases held : session.engine.installation.interpreter? with
      | none =>
        left
        rw [served, found, held]
        rfl
      | some interpreter =>
        right
        refine ⟨interpreter, ?_, (tracks.told interpreter held).2⟩
        rw [served, found, held]
        rfl

/-- A machine that holds nothing but an interpreter that the system cannot run. -/
def bareHost : Host where
  fs := { root := .directory [("py", .file { identity := 0, executable := true })] }

/-- A registry with one bundle. -/
def smallRegistry : Registry where
  path := "/models.yaml"
  bundles := [("m", { name := "m", safetensorsPath := "/weights/m.safetensors" })]

/-- A request for the only bundle of the small registry. -/
def smallRequest : ServeRequest where
  -- There is one model, and no more is asked for than its completion.
  socket := "sock"
  model := "m"
  reference := "m"
  mode := .text "completion"

/-- The small request can be taken on with the small registry. -/
theorem servable_small : Servable smallRegistry smallRequest
    { name := "m", safetensorsPath := "/weights/m.safetensors" } where
  -- The model has weights, and its mode is one that is served.
  known := rfl
  weighted := by decide
  supported := .inl rfl

/-- An engine of the small registry, with its installation in one directory and its interpreter at
one path. -/
def smallEngine : Engine := create {} (some smallRegistry) [] (some "/engine") (some "/py") true

/-- The interpreter that comes up between two checks serves, although the second has refused it. -/
theorem launch_after_refusal :
    let acts := [.check (some (runCode none)), .change bareHost, .serve smallRequest,
      .check (some (runCode none))]
    let (session, told) := Session.follow { engine := smallEngine, host := default } acts
    lastFinding? told
      = some ⟨.failed (.backend (.packageNotInstalled "/py" (-1))), some .notFound, some "/py"⟩ ∧
    session.engine.serverFor session.host.fs smallRequest
      = .ok (requested smallRequest
          ["-m", "sglang.launch_server", "--model-path", "/weights", "--host", "sock"]
          ("/py", none)) := by
  -- Both checks are followed by evaluation; only what serves then needs the general statement.
  intro acts
  have last : lastFinding? (Session.follow { engine := smallEngine, host := default } acts).2
      = some ⟨.failed (.backend (.packageNotInstalled "/py" (-1))), some .notFound, some "/py"⟩ := by
    decide +kernel
  have absent : (Session.follow { engine := smallEngine, host := default } acts).1.host.fs.contains
      smallEngine.binaryPath = false := by decide +kernel
  have built : Launch.arguments [] { name := "m", safetensorsPath := "/weights/m.safetensors" }
      smallRequest.socket smallRequest.mode smallRequest.config
      = .ok ["-m", "sglang.launch_server", "--model-path", "/weights", "--host", "sock"] := by
    decide +kernel
  have left : Leaves (lastFinding?
      (Session.follow { engine := smallEngine, host := default } acts).2) (some "/py") := by
    rw [last]
    exact .packageMissing "/py" (-1)
  have launch := @launch_after_checks {} smallRegistry [] (some "/engine") (some "/py") smallEngine
    rfl default acts (Session.follow { engine := smallEngine, host := default } acts).1
    (Session.follow { engine := smallEngine, host := default } acts).2 rfl smallRequest _ _ rfl built
  exact ⟨last, (launch.2 absent).1 (some "/py") left⟩

/-- An interpreter without the package serves although the only check has refused it. -/
theorem launch_without_package :
    let (session, told) :=
      Session.follow { engine := smallEngine, host := bareHost } [.check (some (runCode none))]
    lastFinding? told
      = some ⟨.failed (.backend (.packageNotInstalled "/py" (-1))), some .notFound, some "/py"⟩ ∧
    session.host.fs.contains smallEngine.binaryPath = false ∧
    (session.engine.serverFor session.host.fs smallRequest).isOk = true := by
  -- The check holds on to the interpreter that it has refused.
  decide +kernel

end ModelServing.Engine
