import ModelServing.Proofs.Command.ServedArguments
import ModelServing.Proofs.Console.Verbatim
import ModelServing.Proofs.Engine.ReportedLauncher
import ModelServing.Proofs.Engine.VersionFile
import ModelServing.Proofs.Filesystem.Rewriting

/-! What the version of a prebuilt installation makes of the command to serve. -/

namespace ModelServing

/-- What is left of a text without blanks around it was in the text. -/
theorem Text.mem_of_mem_strip {c : Char} {text : String} (member : c ∈ (strip text).toList) :
    c ∈ text.toList := by
  -- Blanks are dropped at one end and then at the other, and both leave a part of the text.
  rw [strip, String.toList_ofList, trimBy, List.mem_reverse] at member
  have within := (List.dropWhile_sublist _).subset member
  exact (List.dropWhile_sublist _).subset (List.mem_reverse.mp within)

/-- Registries are loaded alike from machines on which the same is read of their file. -/
theorem Registry.load_eq_of_readFile {fs other : Filesystem} {path : String}
    (same : readFile other (Path.plain path) = readFile fs (Path.plain path)) :
    load other path = load fs path := by
  -- A load looks at the files through this one reading.
  simp only [load, fill, readDocument, same]

namespace Engine

/-- What is read as a text can be read. -/
theorem exists_read_of_readText {host : Host} {path text : String}
    (read : readText host path = .ok text) : ∃ content, host.fs.read path = .ok content := by
  -- There are two ways to fail before the decoding, which is reached with a content in hand.
  unfold readText at read
  split at read
  · cases read
  · split at read
    · cases read
    · exact ⟨_, by assumption⟩

/-- A path that can be looked at can still be looked at where all paths lead to as much as
before. -/
theorem checkPath_of_status {host : Host} {path : String} (seen : checkPath host path = .ok ())
    {fs : Filesystem} {change : Entry → Entry}
    (looks : ∀ path, fs.status path = (host.fs.status path).map change) :
    checkPath { host with fs } path = .ok () := by
  -- The path has no NUL, so looking at it is a question to the files, and those answer with as
  -- much.
  have clean := hasNull_of_checkPath seen
  rw [checkPath_of_clean clean] at seen ⊢
  rw [looks]
  cases found : host.fs.status path with
  | error errno =>
    rw [found] at seen
    cases seen
  | ok entry => rfl

/-- With a prebuilt binary in sight and a version that is a text, a check finds that version, and
does nothing else on the machine. -/
theorem installAs_of_text {engine : Engine} {host : Host} {text : String}
    (supported : engine.supported = true) (present : checkPath host engine.binaryPath = .ok ())
    (read : readText host engine.versionPath = .ok text) (ask : Interpreter) :
    engine.installAs (some ask) host
      = (engine.learn (some (.prebuilt (some (Text.strip text)))),
        { ending := .found, known := some (.prebuilt (some (Text.strip text)))
          logs := [.info ("Using prebuilt SGLang at " ++ engine.binaryPath)], machine := host }) := by
  -- The binary is found first, and the version file is all that is read after it.
  have detected : detectPrebuilt (engine.site ask) host
      = { ending := .found, known := some (.prebuilt (some (Text.strip text)))
          logs := [.info ("Using prebuilt SGLang at " ++ engine.binaryPath)], machine := host } := by
    simp only [detectPrebuilt, site, read]
  rw [installAs, install_of_present supported present, detected]

/-- Where there is a prebuilt binary, what is known of the installation makes no difference to the
server that a request is given, and neither do other files. -/
theorem serverFor_learn_of_present {engine : Engine} {fs other : Filesystem}
    (present : fs.contains engine.binaryPath = true)
    (still : other.contains engine.binaryPath = true) (known again : Option Installation)
    (request : ServeRequest) :
    (engine.learn again).serverFor other request = (engine.learn known).serverFor fs request := by
  -- The launcher is the only thing in which what is known and the files come in, and it is the
  -- binary.
  have launched : (engine.learn known).launcher? fs = _ := launcher?_of_present present
  have relaunched : (engine.learn again).launcher? other = _ := launcher?_of_present still
  unfold serverFor
  rw [launched, relaunched]
  rfl

end Engine

namespace Command

/-- A deployment whose machine holds other files. -/
def Deployment.holding (deployment : Deployment) (fs : Filesystem) : Deployment :=
  { deployment with host := { deployment.host with fs } }

/-- The engine of a deployment is made without a look at the files. -/
theorem Deployment.engine_holding (deployment : Deployment) (fs : Filesystem)
    (registry : Option Registry) (directory : Option String) :
    (deployment.holding fs).engine registry directory = deployment.engine registry directory :=
  -- Holding other files changes no other field of the deployment.
  rfl

/-- The path of the binary does not hang on the registry. -/
theorem Deployment.binaryPath_engine (deployment : Deployment) (registry : Option Registry)
    (directory : Option String) :
    (deployment.engine registry directory).binaryPath
      = (deployment.engine none directory).binaryPath := by
  -- The directory of the installation decides it, which every engine of the deployment shares.
  unfold Engine.binaryPath
  rfl

/-- The path of the version file does not hang on the registry. -/
theorem Deployment.versionPath_engine (deployment : Deployment) (registry : Option Registry)
    (directory : Option String) :
    (deployment.engine registry directory).versionPath
      = (deployment.engine none directory).versionPath := by
  -- The directory of the installation decides it, which every engine of the deployment shares.
  unfold Engine.versionPath
  rfl

/-- Whether a command to serve hands over a server to be run. -/
def Hands (deployment : Deployment) (options : LaunchOptions) (reference directory : Option String)
    (server : Run.Server) : Prop :=
  -- Everything up to the server is hidden, since it differs from one version to the next.
  ∃ registry engine checked status,
    Prepares deployment options directory registry engine checked status ∧
      engine.serverFor checked.machine.fs (options.request reference) = .ok server

/-- The line that is printed for the version of a prebuilt installation, if it can be displayed. -/
def versionLine (text : String) : Except Console.MarkupFault String :=
  Console.display {}
    ("[green]" ++ (Engine.Installation.prebuilt (some (Text.strip text))).status ++ "[/green]")

/-- Whether the same command serves alike on two machines with different version texts. It hands
over the same servers. If these come to the same end on both machines, then the command ends in the
same way, and prints the same behind the line for the version. -/
structure ServedAlike (first second : Deployment) (options : LaunchOptions)
    (reference directory : Option String) (text other : String) : Prop where
  handed : ∀ server, Hands first options reference directory server ↔
    Hands second options reference directory server
  ended : (∀ server, Hands first options reference directory server →
      (first.run first.host server).outcome = (second.run second.host server).outcome) →
    (serve first options reference directory).ending
      = (serve second options reference directory).ending ∧
    ∃ before after rest,
      (serve first options reference directory).stdout = before ++ rest ∧
      (serve second options reference directory).stdout = after ++ rest ∧
      (before = after ∨ versionLine text = .ok before ∧ versionLine other = .ok after)

/-- Whether a machine has a prebuilt installation with a version that is a text, and a registry that
can be loaded. -/
structure Prebuilt (deployment : Deployment) (options : LaunchOptions) (directory : Option String)
    (registry : Registry) (text : String) : Prop where
  loaded : Registry.load deployment.host.fs (deployment.registryPath options.registryPath)
    = .ok registry
  present : Engine.checkPath deployment.host
    (deployment.engine (some registry) directory).binaryPath = .ok ()
  read : Engine.readText deployment.host
    (deployment.engine (some registry) directory).versionPath = .ok text

/-- A text without opening brackets can be displayed as a version. -/
theorem exists_versionLine {text : String} (unopened : '[' ∉ text.toList) :
    ∃ line, versionLine text = .ok line := by
  -- Markup is all that a display can fail for, and there is none without an opening bracket.
  let green : List Char := ['g', 'r', 'e', 'e', 'n']
  have named : Console.IsStyleName green := ⟨rfl, rfl, rfl, rfl, rfl, rfl⟩
  let status := (Engine.Installation.prebuilt (some (Text.strip text))).status
  have clean : '[' ∉ status.toList := by
    -- The status is the version behind some words without brackets.
    intro member
    rw [show status = "running sglang version: " ++ Text.strip text from rfl, String.toList_append,
      List.mem_append] at member
    rcases member with words | version
    · exact absurd words (by decide)
    · exact unopened (Text.mem_of_mem_strip version)
  obtain ⟨line, shown⟩ := named.exists_display_enclosed clean
  have same : "[green]" ++ status ++ "[/green]"
      = String.ofList (Console.enclosed green status.toList) := by
    rw [← String.toList_inj, String.toList_ofList]
    simp [Console.enclosed, green]
  exact ⟨line, by rw [versionLine, same, shown]⟩

section Prebuilt

variable {deployment : Deployment} {options : LaunchOptions} {directory : Option String}
  {registry : Registry} {text : String}

/-- On a supported platform, a prebuilt installation is found with its version, and nothing else is
done on the machine. -/
theorem Prebuilt.install_eq
    (prebuilt : Prebuilt deployment options directory registry text)
    (supported : Engine.supportsPlatform deployment.platform = true) :
    ∃ logs, deployment.install (some registry) directory
      = ((deployment.engine (some registry) directory).learn
          (some (.prebuilt (some (Text.strip text)))),
        { ending := .found, known := some (.prebuilt (some (Text.strip text))), logs
          machine := deployment.host }) :=
  -- The engine of the check has the paths that the prebuilt installation was found at.
  ⟨_, Engine.installAs_of_text supported prebuilt.present prebuilt.read deployment.interpreter⟩

/-- The prebuilt binary is there. -/
theorem Prebuilt.contains (prebuilt : Prebuilt deployment options directory registry text) :
    deployment.host.fs.contains (deployment.engine (some registry) directory).binaryPath = true := by
  -- A path that a check can look at leads to something.
  rw [Engine.contains_eq_checkPath, prebuilt.present]
  rfl

/-- A server is handed over exactly if the log level can be set, the platform is supported, the
version can be displayed, and the request is given that server whatever is known of the
installation. -/
theorem Prebuilt.hands_iff (prebuilt : Prebuilt deployment options directory registry text)
    (reference : Option String) (server : Run.Server) :
    Hands deployment options reference directory server ↔
      (({} : RootLogger).configure (.text deployment.settings.logLevel)).2 = .ok () ∧
      Engine.supportsPlatform deployment.platform = true ∧
      (∃ line, versionLine text = .ok line) ∧
      ((deployment.engine (some registry) directory).learn none).serverFor deployment.host.fs
        (options.request reference) = .ok server := by
  -- The version comes in twice, as what is displayed and as what is known, and the server does not
  -- depend on the second.
  have same := Engine.serverFor_learn_of_present prebuilt.contains prebuilt.contains none
    (some (.prebuilt (some (Text.strip text)))) (options.request reference)
  constructor
  · rintro ⟨loaded, engine, checked, status, prepared, given⟩
    -- The registry that was loaded is this one, and the check has found this installation.
    obtain rfl : registry = loaded := Except.ok.inj (prebuilt.loaded.symm.trans prepared.loaded)
    have supported : Engine.supportsPlatform deployment.platform = true := by
      have told := prepared.supported
      obtain ⟨known, rfl⟩ := prepared.exists_engine_eq
      exact told
    obtain ⟨logs, found⟩ := prebuilt.install_eq supported
    have installed := found.symm.trans prepared.installed
    rw [Prod.mk.injEq] at installed
    obtain ⟨rfl, rfl⟩ := installed
    exact ⟨prepared.level, supported, ⟨status, prepared.shown⟩, same.symm.trans given⟩
  · rintro ⟨level, supported, ⟨line, shown⟩, given⟩
    obtain ⟨logs, found⟩ := prebuilt.install_eq supported
    exact ⟨registry, _, _, line, ⟨level, prebuilt.loaded, found, rfl, shown⟩, same.trans given⟩

/-- A server is handed over if the version can be displayed and the arguments for the model are
built, where neither the log level nor the platform stands against it. -/
theorem Prebuilt.exists_hands (prebuilt : Prebuilt deployment options directory registry text)
    (level : (({} : RootLogger).configure (.text deployment.settings.logLevel)).2 = .ok ())
    (supported : Engine.supportsPlatform deployment.platform = true) {line : String}
    (shown : versionLine text = .ok line) {words : List String}
    (built : options.arguments registry = .ok words) (reference : Option String) :
    ∃ server, Hands deployment options reference directory server := by
  -- What is missing for a server is a launcher, and the binary is one.
  let engine := (deployment.engine (some registry) directory).learn none
  cases known : registry.require options.model with
  | error unknown =>
    rw [LaunchOptions.arguments, known] at built
    cases built
  | ok bundle =>
    rw [LaunchOptions.arguments, known] at built
    -- The binary is there, so that there is something to launch.
    have launched : engine.launcher? deployment.host.fs = _ :=
      Engine.launcher?_of_present prebuilt.contains
    have given := @Engine.serverFor_of_arguments engine deployment.host.fs (options.request reference)
      registry bundle words supported rfl known built
    rw [launched] at given
    exact ⟨_, (prebuilt.hands_iff reference _).mpr ⟨level, supported, ⟨line, shown⟩, given⟩⟩

/-- Writing another version leaves the installation prebuilt, with the version that is read then. -/
theorem Prebuilt.rewrite (prebuilt : Prebuilt deployment options directory registry text)
    {content : Content} {fs : Filesystem}
    (written : deployment.host.fs.write (deployment.engine (some registry) directory).versionPath
      content false = .ok fs)
    (loaded : Registry.load fs (deployment.registryPath options.registryPath) = .ok registry)
    {other : String}
    (read : Engine.readText (deployment.holding fs).host
      (deployment.engine (some registry) directory).versionPath = .ok other) :
    Prebuilt (deployment.holding fs) options directory registry other := by
  -- Three things make an installation prebuilt. The registry and the text are given, so the binary
  -- is left.
  refine ⟨loaded, ?_, read⟩
  -- What could be read before is there, so that the writing has changed no more than its content.
  obtain ⟨old, readable⟩ := Engine.exists_read_of_readText prebuilt.read
  obtain ⟨change, looks⟩ := Filesystem.exists_status_of_write readable written
  rw [Deployment.engine_holding]
  exact Engine.checkPath_of_status prebuilt.present looks

/-- Where a prebuilt installation is found, a command to serve prints the line for its version, and
then launches what was asked for. A version that cannot be displayed ends it before. -/
theorem Prebuilt.serve_eq (prebuilt : Prebuilt deployment options directory registry text)
    (level : (({} : RootLogger).configure (.text deployment.settings.logLevel)).2 = .ok ())
    (supported : Engine.supportsPlatform deployment.platform = true) (reference : Option String) :
    let launched := launch deployment ((deployment.engine (some registry) directory).learn
      (some (.prebuilt (some (Text.strip text))))) deployment.host (options.request reference)
    let served := serve deployment options reference directory
    (∀ line, versionLine text = .ok line →
      served.ending = launched.ending ∧ served.stdout = line ++ launched.stdout) ∧
    ∀ fault, versionLine text = .error fault →
      served.ending = .crashed (.markup fault) ∧ served.stdout = "" := by
  -- Up to the display of the status, the command is the same for every version.
  intro launched served
  obtain ⟨logs, installed⟩ := prebuilt.install_eq supported
  have shape : served = Outcome.afterLogs logs (Outcome.afterPrinting {}
      ("[green]" ++ (Engine.Installation.prebuilt (some (Text.strip text))).status ++ "[/green]")
      launched) := by
    unfold served serve
    simp only [level, Deployment.withRegistry_of_ok prebuilt.loaded, serveFrom, installed]
    rfl
  rw [shape]
  unfold versionLine Outcome.afterPrinting
  constructor
  · intro line shown
    rw [shown]
    exact ⟨rfl, rfl⟩
  · intro fault unshown
    rw [unshown]
    exact ⟨rfl, rfl⟩

end Prebuilt

/-- On an unsupported platform, a command to serve tells that once its registry is loaded. -/
theorem serve_of_unsupported {deployment : Deployment} {options : LaunchOptions} {registry : Registry}
    (level : (({} : RootLogger).configure (.text deployment.settings.logLevel)).2 = .ok ())
    (loaded : Registry.load deployment.host.fs (deployment.registryPath options.registryPath)
      = .ok registry)
    (unsupported : Engine.supportsPlatform deployment.platform = false)
    (reference directory : Option String) :
    serve deployment options reference directory
      = Outcome.ofFailure (.backend .unsupportedPlatform) := by
  -- The platform is asked before any file, so the check fails whatever the machine holds.
  let engine := deployment.engine (some registry) directory
  have installed : (deployment.install (some registry) directory).2
      = { ending := .failed (.backend .unsupportedPlatform), machine := deployment.host } :=
    Engine.detect_of_unsupported (engine.site deployment.interpreter) deployment.host unsupported
  simp only [serve, level, Deployment.withRegistry_of_ok loaded, serveFrom]
  rw [installed]
  rfl

/-- Launches end alike and print alike if they are given the same server, and it comes to the same
end, or if they are refused one for the same failure. -/
theorem launch_alike (deployment other : Deployment) {engine twin : Engine} {host machine : Host}
    {request : ServeRequest}
    (same : twin.serverFor machine.fs request = engine.serverFor host.fs request)
    (ran : ∀ server, engine.serverFor host.fs request = .ok server →
      (deployment.run host server).outcome = (other.run machine server).outcome) :
    let first := launch deployment engine host request
    let second := launch other twin machine request
    first.ending = second.ending ∧ first.stdout = second.stdout := by
  -- What a launch does is decided by what the request is given, so that is where the cases split.
  intro first second
  cases given : engine.serverFor host.fs request with
  | error failure =>
    rw [given] at same
    simp only [first, second, launch, given, same, Outcome.afterLogs, and_self]
  | ok server =>
    -- What is told hangs on how the server has ended, and on nothing else of its run.
    have ends := ran server given
    rw [given] at same
    simp only [first, second, launch, given, same, runServer, Outcome.afterLogs, ends, and_self]

section Rewritten

variable {deployment : Deployment} {options : LaunchOptions} {directory : Option String}
  {registry : Registry} {text other : String} {fs : Filesystem} {before after : String}

/-- Where both versions can be displayed, the same servers are handed over. -/
theorem Prebuilt.handed_iff (prebuilt : Prebuilt deployment options directory registry text)
    (rewritten : Prebuilt (deployment.holding fs) options directory registry other)
    (shown : versionLine text = .ok before) (reshown : versionLine other = .ok after)
    (reference : Option String) (server : Run.Server) :
    Hands deployment options reference directory server ↔
      Hands (deployment.holding fs) options reference directory server := by
  -- Each side is an iff with four conditions, of which the versions touch the third only.
  rw [prebuilt.hands_iff, rewritten.hands_iff, Deployment.engine_holding]
  -- Log level and platform are the same, and the binary is there both times.
  refine and_congr_right fun _ => and_congr_right fun _ => and_congr
    ⟨fun _ => ⟨after, reshown⟩, fun _ => ⟨before, shown⟩⟩ ?_
  rw [Engine.serverFor_learn_of_present prebuilt.contains rewritten.contains none none]

/-- Where both versions can be displayed, a command to serve ends alike, and prints the same behind
the line for the version, if the servers that are handed over come to the same end. -/
theorem Prebuilt.ended (prebuilt : Prebuilt deployment options directory registry text)
    (rewritten : Prebuilt (deployment.holding fs) options directory registry other)
    (shown : versionLine text = .ok before) (reshown : versionLine other = .ok after)
    (reference : Option String)
    (ran : ∀ server, Hands deployment options reference directory server →
      (deployment.run deployment.host server).outcome
        = ((deployment.holding fs).run (deployment.holding fs).host server).outcome) :
    let first := serve deployment options reference directory
    let second := serve (deployment.holding fs) options reference directory
    first.ending = second.ending ∧ ∃ before after rest,
      first.stdout = before ++ rest ∧ second.stdout = after ++ rest ∧
        (before = after ∨ versionLine text = .ok before ∧ versionLine other = .ok after) := by
  -- A log level that cannot be set and a platform that is not supported end both commands before
  -- the version is looked at.
  intro first second
  cases level : (({} : RootLogger).configure (.text deployment.settings.logLevel)).2 with
  | error failure =>
    -- Neither command gets to its registry.
    have unset : ∀ files, serve (deployment.holding files) options reference directory
        = { ending := .crashed failure } := by
      intro files
      have relevel : (({} : RootLogger).configure
        (.text (deployment.holding files).settings.logLevel)).2 = .error failure := level
      simp only [serve, relevel]
    have same : first = second := (unset deployment.host.fs).trans (unset fs).symm
    exact ⟨by rw [same], "", "", second.stdout, by rw [same, String.empty_append],
      String.empty_append.symm, .inl rfl⟩
  | ok done =>
    cases supported : Engine.supportsPlatform deployment.platform with
    | false =>
      have same : first = second :=
        (serve_of_unsupported level prebuilt.loaded supported reference directory).trans
          (@serve_of_unsupported (deployment.holding fs) options registry level rewritten.loaded
            supported reference directory).symm
      exact ⟨by rw [same], "", "", second.stdout, by rw [same, String.empty_append],
        String.empty_append.symm, .inl rfl⟩
    | true =>
      obtain ⟨ending, printed⟩ := (prebuilt.serve_eq level supported reference).1 before shown
      obtain ⟨reending, reprinted⟩ := (rewritten.serve_eq level supported reference).1 after reshown
      rw [Deployment.engine_holding] at reending reprinted
      -- What is launched is the same server, and it comes to the same end.
      obtain ⟨ends, prints⟩ := launch_alike deployment (deployment.holding fs)
        (Engine.serverFor_learn_of_present prebuilt.contains rewritten.contains
          (some (.prebuilt (some (Text.strip text)))) (some (.prebuilt (some (Text.strip other))))
          (options.request reference))
        (fun server given => ran server ((prebuilt.hands_iff reference server).mpr
          ⟨level, supported, ⟨before, shown⟩, by
            rw [← given]
            exact Engine.serverFor_learn_of_present prebuilt.contains prebuilt.contains _ _ _⟩))
      exact ⟨by rw [ending, reending, ends], before, after, _, printed, by rw [reprinted, ← prints],
        .inr ⟨shown, reshown⟩⟩

/-- Whatever the version of a prebuilt installation is rewritten to, a command to serve goes on
alike if both versions can be displayed. Where a server was handed over before, that is exactly what
it takes: a version that cannot be displayed ends the command without a line, and no server is
handed over. A version without opening brackets can be displayed. -/
theorem served_alike_iff (prebuilt : Prebuilt deployment options directory registry text)
    {content : Content}
    (written : deployment.host.fs.write (deployment.engine (some registry) directory).versionPath
      content false = .ok fs)
    (loaded : Registry.load fs (deployment.registryPath options.registryPath) = .ok registry)
    (read : Engine.readText { deployment.host with fs }
      (deployment.engine (some registry) directory).versionPath = .ok other)
    (reference : Option String) :
    let second := deployment.holding fs
    let alike := ServedAlike deployment second options reference directory text other
    ((∃ line, versionLine text = .ok line) → (∃ line, versionLine other = .ok line) → alike) ∧
    ((∃ server, Hands deployment options reference directory server) →
      (alike ↔ ∃ line, versionLine other = .ok line) ∧
      ∀ fault, versionLine other = .error fault →
        (∀ server, ¬Hands second options reference directory server) ∧
        (serve second options reference directory).ending = .crashed (.markup fault) ∧
        (serve second options reference directory).stdout = "") ∧
    ('[' ∉ other.toList → ∃ line, versionLine other = .ok line) := by
  -- Both commands are reduced to the same launch, behind a line that depends on the version.
  intro second alike
  have rewritten : Prebuilt second options directory registry other :=
    prebuilt.rewrite written loaded read
  have shows : (∃ line, versionLine text = .ok line) → (∃ line, versionLine other = .ok line) →
      alike := fun ⟨_, shown⟩ ⟨_, reshown⟩ =>
    ⟨prebuilt.handed_iff rewritten shown reshown reference,
      prebuilt.ended rewritten shown reshown reference⟩
  refine ⟨shows, fun ⟨server, hands⟩ => ?_, exists_versionLine⟩
  obtain ⟨level, supported, shown, -⟩ := (prebuilt.hands_iff reference server).mp hands
  refine ⟨⟨fun served => ?_, shows shown⟩, fun fault unshown => ?_⟩
  · -- The server is handed over on the other machine as well, behind the line for its version.
    exact ((rewritten.hands_iff reference server).mp ((served.handed server).mp hands)).2.2.1
  · refine ⟨fun given again => ?_, (rewritten.serve_eq level supported reference).2 fault unshown⟩
    obtain ⟨-, -, ⟨line, reshown⟩, -⟩ := (rewritten.hands_iff reference given).mp again
    rw [unshown] at reshown
    cases reshown

end Rewritten

/-- A machine with a registry of one model in its root, and a prebuilt installation of some
version. -/
def versionedMachine (version : String) : Deployment where
  -- Version and registry are read from different files, so that either can be rewritten alone.
  host :=
    { fs :=
        { root := .directory
            [("m.yaml", .file
              { identity := 0
                content :=
                  { bytes := "models:\n- name: m\n  safetensors_path: w/m\n".toUTF8.toList } }),
              ("engine", .directory [("sglang", Filesystem.programFile 1 "true")]),
              ("version", .file { identity := 2, content := { bytes := version.toUTF8.toList } })] } }

/-- The same registry is loaded from such a machine for every version. -/
theorem load_versionedMachine (version : String) :
    Registry.load (versionedMachine version).host.fs "/m.yaml"
      = Registry.load (versionedMachine "").host.fs "/m.yaml" :=
  -- The version file is not the file that the registry is read from.
  Registry.load_eq_of_readFile rfl

/-- The installation of such a machine is prebuilt, and its model is served if the version can be
displayed. -/
theorem exists_prebuilt {version text : String}
    (read : Engine.readText (versionedMachine version).host
      ((versionedMachine version).engine none (some "/engine")).versionPath = .ok text) :
    ∃ registry, Prebuilt (versionedMachine version) (aboutModel "m") (some "/engine") registry text ∧
      (∀ line, versionLine text = .ok line →
        ∃ server, Hands (versionedMachine version) (aboutModel "m") none (some "/engine") server) := by
  -- The registry is loaded once, on the machine without a version.
  have told : (Registry.load (versionedMachine "").host.fs "/m.yaml").map (fun registry =>
      (aboutModel "m").arguments registry)
      = .ok (.ok ["-m", "sglang.launch_server", "--model-path", "/w", "--host", "host"]) := by
    decide +kernel
  have located : ((versionedMachine version).engine none (some "/engine")).binaryPath
      = "/engine/sglang" := by
    show ((versionedMachine "").engine none (some "/engine")).binaryPath = "/engine/sglang"
    decide +kernel
  have present : Engine.checkPath (versionedMachine version).host "/engine/sglang" = .ok () := rfl
  rw [← load_versionedMachine version] at told
  cases loaded : Registry.load (versionedMachine version).host.fs "/m.yaml" with
  | error failure =>
    rw [loaded] at told
    cases told
  | ok registry =>
    rw [loaded] at told
    rw [← located, ← Deployment.binaryPath_engine _ (some registry)] at present
    rw [← Deployment.versionPath_engine _ (some registry)] at read
    have prebuilt : Prebuilt (versionedMachine version) (aboutModel "m") (some "/engine") registry
        text := ⟨loaded, present, read⟩
    have level : (({} : RootLogger).configure
        (.text (versionedMachine version).settings.logLevel)).2 = .ok () := by
      show (({} : RootLogger).configure (.text ({} : Settings).logLevel)).2 = .ok ()
      decide +kernel
    have supported : Engine.supportsPlatform (versionedMachine version).platform = true := by
      show Engine.supportsPlatform "linux" = true
      decide +kernel
    exact ⟨registry, prebuilt, fun line shown =>
      prebuilt.exists_hands level supported shown (Except.ok.inj told) none⟩

/-- An installation that is brought from one plain version to another one serves alike. -/
theorem served_alike_after_upgrade :
    (∃ server, Hands (versionedMachine "1\n") (aboutModel "m") none (some "/engine") server) ∧
      ServedAlike (versionedMachine "1\n") (versionedMachine "2\n") (aboutModel "m") none
        (some "/engine") "1\n" "2\n" := by
  -- Neither version has a bracket, so both can be displayed.
  obtain ⟨registry, prebuilt, hands⟩ := @exists_prebuilt "1\n" "1\n" (by decide +kernel)
  have shown : versionLine "1\n" = .ok "running sglang version: 1\n" := by decide +kernel
  have written : (versionedMachine "1\n").host.fs.write
      ((versionedMachine "1\n").engine none (some "/engine")).versionPath
      { bytes := "2\n".toUTF8.toList } false = .ok (versionedMachine "2\n").host.fs := by rfl
  have read : Engine.readText (versionedMachine "2\n").host
      ((versionedMachine "1\n").engine none (some "/engine")).versionPath = .ok "2\n" := by
    decide +kernel
  rw [← Deployment.versionPath_engine _ (some registry)] at written read
  have reloaded : Registry.load (versionedMachine "2\n").host.fs
      ((versionedMachine "1\n").registryPath (aboutModel "m").registryPath) = .ok registry :=
    (load_versionedMachine "2\n").trans ((load_versionedMachine "1\n").symm.trans prebuilt.loaded)
  exact ⟨hands _ shown, (((served_alike_iff prebuilt written reloaded read none).2.1
    (hands _ shown)).1).mpr ⟨"running sglang version: 2\n", by decide +kernel⟩⟩

/-- With a closing tag for a version, no server is handed over that was handed over before. -/
theorem served_apart_by_closing_tag :
    (∃ server, Hands (versionedMachine "1\n") (aboutModel "m") none (some "/engine") server) ∧
      (∀ server, ¬Hands (versionedMachine "[/x]") (aboutModel "m") none (some "/engine") server) ∧
      ¬ServedAlike (versionedMachine "1\n") (versionedMachine "[/x]") (aboutModel "m") none
        (some "/engine") "1\n" "[/x]" ∧
      (serve (versionedMachine "[/x]") (aboutModel "m") none (some "/engine")).ending
        = .crashed (.markup .unmatchedTag) := by
  -- The tag closes nothing that was opened, so the status cannot be displayed.
  obtain ⟨_, _, hands⟩ := @exists_prebuilt "1\n" "1\n" (by decide +kernel)
  obtain ⟨registry, prebuilt, -⟩ := @exists_prebuilt "[/x]" "[/x]" (by decide +kernel)
  obtain ⟨server, handed⟩ := hands "running sglang version: 1\n" (by decide +kernel)
  have unshown : versionLine "[/x]" = .error .unmatchedTag := by decide +kernel
  have none : ∀ server, ¬Hands (versionedMachine "[/x]") (aboutModel "m") .none (some "/engine")
      server := by
    intro server given
    obtain ⟨-, -, ⟨line, shown⟩, -⟩ := (prebuilt.hands_iff .none server).mp given
    rw [unshown] at shown
    cases shown
  exact ⟨⟨server, handed⟩, none, fun alike => none server ((alike.handed server).mp handed),
    by decide +kernel⟩

end Command

end ModelServing
