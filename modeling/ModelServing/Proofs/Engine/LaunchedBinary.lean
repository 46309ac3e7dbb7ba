import ModelServing.Proofs.Engine.LaunchHistory
import ModelServing.Proofs.Run.Starting

/-! Whether the prebuilt binary that is found is the file that a server is started from. -/

namespace ModelServing

/-- A path that is seen from a directory holds a slash. -/
theorem Path.contains_slash_join {directory name : String} (placed : directory ≠ "")
    (named : Path.IsName name) : (Path.join directory name).toList.contains '/' = true := by
  -- Joining puts a slash between a place and a name.
  obtain ⟨front, joined, -⟩ :=
    join_cases placed (Filesystem.isAbsolute_eq_false named)
  simp [joined]

namespace Run.Server

/-- A program that is named from the root, or from the directory that the server runs in, is seen by
the server as it is seen by whoever starts it. -/
theorem sight_of_rooted {server : Server} {host : Host} {there : List String}
    (rooted : Path.isAbsolute server.program = true ∨ there = host.fs.current)
    (refused : Option Errno) :
    (∀ file, host.fs.status server.program = .ok (.file file) →
        (server.sight refused host there).status server.program = .ok (.file file)) ∧
      ∀ image, load { host.fs with current := there } false server.program server.arguments
          interpreterLimit = .ok image →
        load (server.sight refused host there) false server.program server.arguments
          interpreterLimit = .ok image := by
  -- At most a socket is taken away, which is neither executed nor led through.
  have covers := Filesystem.covers_withoutSocket host.fs refused server.socket
  refine ⟨fun file found => Filesystem.status_of_covers covers ?_ found, fun image loaded =>
    @load_of_covers { host.fs with current := there } (server.sight refused host there) covers rfl _
      _ _ image loaded⟩
  rcases rooted with absolute | same
  · simp [Filesystem.base, absolute]
  · simp [Filesystem.base, sight, same]

end Run.Server

namespace Engine

/-- A request that can be taken on is given a server for the prebuilt binary that is found, bound to
the directory of the installation. The server is started from the very file that was found exactly
if the system takes the request, and the path of the binary leads to that file once more from that
directory, and can be executed there, once the socket of the server is removed unless that is
refused. A run that has started it does not end as one that could not. The path leads to the file
once more where the directory of the installation is told by an absolute path, or is the one that
the request is made in. -/
theorem binary_started_iff {engine : Engine} {registry : Registry}
    (supported : engine.supported = true) (registered : engine.registry = some registry)
    (placed : engine.directory ≠ "") (named : Path.IsName engine.binaryName)
    {request : ServeRequest} {bundle : ModelBundle} (servable : Servable registry request bundle)
    {host : Host} {file : File} (clean : Filesystem.hasNull engine.binaryPath = false)
    (found : host.fs.status engine.binaryPath = .ok (.file file)) :
    ∃ server there entries,
      engine.serverFor host.fs request = .ok server ∧
      server.program = engine.binaryPath ∧ server.directory? = some engine.directory ∧
      host.fs.find true engine.directory = .ok (there, .directory entries) ∧
      ∀ refused, (server.Starts refused host file there ↔ server.Startable refused host file there) ∧
        (server.Starts refused host file there → ∀ programs settings deadline sink cause,
          (server.runWith programs refused settings Run.logSink deadline sink host).outcome
            ≠ some (.failed (.backend (.launchFailed server.name cause)))) ∧
        (Path.isAbsolute engine.directory = true ∨ there = host.fs.current →
          (server.sight refused host there).status server.program = .ok (.file file) ∧
          ∀ image, Run.load { host.fs with current := there } false server.program
              server.arguments Run.interpreterLimit = .ok image →
            Run.load (server.sight refused host there) false server.program server.arguments
              Run.interpreterLimit = .ok image) := by
  -- What the engine hands over is settled first, and the file that is found once more decides the
  -- rest.
  obtain ⟨arguments, built⟩ := servable.exists_arguments engine.base
  -- The binary is there for whoever makes the request.
  have present : host.fs.contains engine.binaryPath = true := by
    simp [Filesystem.contains, clean, found, Except.isOk, Except.toBool]
  have given : engine.serverFor host.fs request
      = .ok (requested request arguments (engine.binaryPath, some engine.directory)) := by
    rw [serverFor_of_arguments supported registered servable.known built,
      launcher?_of_present present]
  generalize launched :
    requested request arguments (engine.binaryPath, some engine.directory) = server at given
  have program : server.program = engine.binaryPath := by
    rw [← launched]
    rfl
  have bound : server.directory? = some engine.directory := by
    rw [← launched]
    simp [requested, Run.Server.directory?, placed]
  -- What leads to the binary leads through its directory.
  obtain ⟨there, entries, reached⟩ :
      ∃ there entries, host.fs.find true engine.directory = .ok (there, .directory entries) := by
    unfold Filesystem.status at found
    cases reaches : host.fs.find true engine.binaryPath with
    | error errno => rw [reaches] at found; cases found
    | ok reached => exact Filesystem.find_directory_of_join placed named reaches
  refine ⟨server, there, entries, given, program, bound, reached, fun refused =>
    ⟨Run.Server.starts_iff (program ▸ Path.contains_slash_join placed named) bound reached,
    ?_, ?_⟩⟩
  · intro starts programs settings deadline sink cause failed
    -- A server that has been started fails in other ways only.
    rcases Run.Server.failed_of_starts starts failed with other | other
    · cases other
    · cases other
  · intro rooted
    have seen : Path.isAbsolute server.program = true ∨ there = host.fs.current := by
      rw [program, binaryPath, Filesystem.isAbsolute_join placed named]
      exact rooted
    obtain ⟨again, loads⟩ := Run.Server.sight_of_rooted seen refused
    exact ⟨again file (program ▸ found), loads⟩

/-- An engine of the small registry with its installation in a directory. -/
def engineIn (directory : String) : Engine :=
  create {} (some smallRegistry) [] (some directory) (some "/py") true

/-- A prebuilt binary. -/
def binaryFile : File where
  -- The file is a shell, so that starting it is something that can be computed.
  identity := 0
  executable := true
  program := some "sh"

/-- A machine with a prebuilt binary in a directory of its root. -/
def binaryHost : Host where
  fs := { root := .directory [("env", .directory [("sglang", .file binaryFile)])] }

/-- The server that the small request is given there, from a directory told by an absolute path. -/
def binaryServer : Run.Server :=
  -- The arguments are the ones that the small request has everywhere.
  requested smallRequest
    ["-m", "sglang.launch_server", "--model-path", "/weights", "--host", "sock"]
    ("/env/sglang", some "/env")

/-- From a directory that is told by an absolute path, the binary that is found is started. -/
theorem binary_started_from_root :
    binaryHost.fs.status (engineIn "/env").binaryPath = .ok (.file binaryFile) ∧
      (engineIn "/env").serverFor binaryHost.fs smallRequest = .ok binaryServer ∧
      binaryServer.Starts none binaryHost binaryFile ["env"] := by
  -- An absolute path is the same from every directory, so the file is found again.
  have found : binaryHost.fs.status (engineIn "/env").binaryPath
      = .ok (.file binaryFile) := rfl
  have served : (engineIn "/env").serverFor binaryHost.fs smallRequest = .ok binaryServer := rfl
  have root : (binaryHost.fs.find true "/env").map (·.1) = .ok ["env"] := by decide +kernel
  obtain ⟨server, there, entries, given, -, -, reached, starts⟩ :=
    @binary_started_iff (engineIn "/env") smallRegistry rfl rfl (by decide)
      ⟨by decide, by decide, by decide⟩ smallRequest _ servable_small binaryHost binaryFile
      (by decide +kernel) found
  -- The server and the directory are the ones that are told.
  obtain rfl : binaryServer = server := Except.ok.inj (served.symm.trans given)
  have same : (binaryHost.fs.find true "/env").map (·.1) = .ok there := congrArg _ reached
  obtain rfl : ["env"] = there := Except.ok.inj (root.symm.trans same)
  obtain ⟨started, -, rooted⟩ := starts none
  obtain ⟨again, loads⟩ := rooted (.inl (by decide))
  have executable : Run.load { binaryHost.fs with current := ["env"] } false
      binaryServer.program binaryServer.arguments Run.interpreterLimit
      = .ok ⟨"sh", binaryServer.arguments⟩ := by decide +kernel
  exact ⟨found, served, started.mpr ⟨by decide +kernel, by decide +kernel, by decide +kernel,
    again, _, loads _ executable⟩⟩

/-- From a directory that is told by a relative path, the binary that is found is not started,
although it can be executed: it is looked for below that directory once more. -/
theorem binary_missed_below_directory :
    binaryHost.fs.status (engineIn "env").binaryPath = .ok (.file binaryFile) ∧
      (∀ arguments, Run.load binaryHost.fs false (engineIn "env").binaryPath arguments
        Run.interpreterLimit = .ok ⟨"sh", arguments⟩) ∧
      ((engineIn "env").serverFor binaryHost.fs smallRequest).map (fun server =>
          (server.run {} Run.logSink none {} binaryHost).outcome)
        = .ok (some (.failed (.backend (.launchFailed "SGLang" ⟨.noEntry, "env/sglang"⟩)))) :=
  -- The relative path is read twice, from the caller's directory and from that of the installation.
  ⟨rfl, fun _ => rfl, by decide +kernel⟩

end Engine

end ModelServing
