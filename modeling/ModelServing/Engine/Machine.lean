import ModelServing.Engine.Backend
import ModelServing.Engine.Inquiry

/-! A machine as the site of an installation check. -/

namespace ModelServing.Engine

/-- Whether a path leads to something that may be executed and is no directory. -/
def isRunnable (fs : Filesystem) (path : String) : Bool :=
  -- A path with a null character is no path, so it leads to nothing.
  !Filesystem.hasNull path &&
    match fs.status path with
    | .ok entry => entry.isExecutable && !entry.isDirectory
    | .error _ => false

/-- Looks for a program as a shell would: a name with a directory is taken as it is. -/
def which (host : Host) (program : String) : Option String :=
  -- The current directory is not among the places that are searched, unless it is listed.
  if !(Path.directory program).isEmpty then
    if isRunnable host.fs program then some program else none
  else if host.environment.searchPath.isEmpty then none
  else (Run.candidates host.environment program).find? (isRunnable host.fs)

/-- Looks at a path, whatever it leads to. -/
def checkPath (host : Host) (path : String) : Except Failure Unit :=
  -- The null character is found before the system is asked.
  if Filesystem.hasNull path then .error .nullCharacter
  else
    match host.fs.status path with
    | .ok _ => .ok ()
    | .error errno => .error (.system ⟨errno, path⟩)

/-- Reads a text file, every line end read as a line feed. -/
def readText (host : Host) (path : String) : Except Failure String :=
  -- The null character is found before the system is asked.
  if Filesystem.hasNull path then .error .nullCharacter
  else
    match host.fs.read path with
    | .error errno => .error (.system ⟨errno, path⟩)
    | .ok content => (Registry.decode content).map String.ofList

/-- What comes of running a line of code with the interpreter at a path on a machine. -/
abbrev Interpreter := (path code : String) → Host → Probe × Host

/-- A machine as the site of a check of an engine, with what comes of running the interpreter. -/
def site (engine : Engine) (ask : Interpreter) : Site Host where
  -- What the interpreter does is left to whoever asks, and everything else is looked up on the
  -- host.
  supported := engine.supported
  binaryPath := engine.binaryPath
  checkBinary host := checkPath host engine.binaryPath
  readVersion host := readText host engine.versionPath
  findInterpreter host := which host engine.interpreter
  runCode := ask

/-- Checks for an installation on a machine, with what comes of running the interpreter. A check
without that is given up before it has begun. -/
def installAs (engine : Engine) (ask : Option Interpreter) (host : Host) : Engine × Checked Host :=
  match ask with
  | none => (engine, { ending := .cancelled, machine := host })
  | some ask => engine.install (engine.site ask) host

/-- The turns in which an event is taken up at once. -/
def Inquiry.turnsOf : Run.Event → List Turn
  | .printed bytes => [.noted (.printed bytes), .taken]
  | .closed => [.noted .closed, .taken, .resumed]
  | .exited code => [.noted (.vanished code), .noted .told, .resumed]

/-- The turns in which an interpreter is connected, and then takes some events. -/
def Inquiry.turnsThrough (events : List (Nat × Run.Event)) : List Turn :=
  [.noted .connected, .resumed] ++ events.flatMap fun event => turnsOf event.2

/-- When whoever waits for a check gives up: as soon as the file system shows something. -/
abbrev Watch := Option (Filesystem → Bool)

/-- When a file system shows what is watched for while a process runs. -/
def shownAt? (watch : Watch) (start : Filesystem) (conduct : Run.Conduct) : Option Nat :=
  watch.bind fun shows =>
    if shows start then some 0
    else (conduct.files.find? fun entry => shows entry.2).map (·.1)

/-- A machine after a process has changed its files. -/
def withFiles (host : Host) (fs : Filesystem) : Host :=
  { host with fs := { fs with current := host.fs.current } }

/-- Waits for an interpreter that behaves in some way, until its run ends or is given up: the turns
of the wait, and the files that are left. -/
def waitFor (watch : Watch) (start : Filesystem) (behavior : Run.Behavior) :
    List Inquiry.Turn × Filesystem :=
  -- What the interpreter does up to that time does not depend on the kill, so its turns can be
  -- taken from the run without it.
  let alone := behavior {}
  let whole := (Inquiry.turnsThrough alone.events, alone.finalFiles start)
  match shownAt? watch start alone with
  | none => whole
  | some time =>
    let before := Inquiry.turnsThrough (alone.eventsUntil time)
    -- What shows only after the run has ended gives up nothing.
    if (({} : Inquiry).run before).isEnded then whole
    else
      let killed := behavior { kill := some time }
      let after := killed.eventsAfter time
      let ending := (after.getLast?.map (·.1)).getD time
      (before ++ .cancelled :: after.flatMap fun event => Inquiry.turnsOf event.2,
        killed.filesAt start ending)

/-- Runs a line of code with an interpreter. -/
def attempt (watch : Watch) (interpreter code : String) (host : Host) : Attempt × Host :=
  -- An interpreter that cannot be started leaves the machine as it was.
  let request : Run.Request :=
    { program := interpreter, arguments := ["-c", code], environment := host.environment }
  match request.start host.fs with
  | .error (.system cause) => (.unstarted cause, host)
  | .error _ => (.unstarted ⟨.noEntry, interpreter⟩, host)
  | .ok (fs, image) =>
    let (turns, files) :=
      waitFor watch fs (Run.Conduct.ofImage fs image host.environment false)
    (.waited turns, withFiles host files)

/-- What comes of running code with an interpreter that this machine runs. -/
def runCode (watch : Watch) : Interpreter := fun path code host =>
  let (attempt, host) := attempt watch path code host
  (attempt.probe, host)

/-- Checks for an installation on a machine that runs the interpreter itself. -/
def installOn (engine : Engine) (watch : Watch) (host : Host) : Engine × Checked Host :=
  let begun := !(watch.map fun shows => shows host.fs).getD false
  engine.installAs (if begun then some (runCode watch) else none) host

/-- A line of code that an interpreter was asked to run, and what came of it. -/
structure Asked where
  interpreter : String
  code : String
  attempt : Attempt

/-- A machine as the site of a check of an engine, with all that the interpreter was asked there: it
is found in some way, and whatever it is asked takes some turns. -/
def siteInTurns (engine : Engine) (find : Host → Option String)
    (ask : (interpreter code : String) → Host → Attempt × Host) : Site (Host × List Asked) where
  -- The questions are noted in order, with what has come of each.
  supported := engine.supported
  binaryPath := engine.binaryPath
  checkBinary machine := checkPath machine.1 engine.binaryPath
  readVersion machine := readText machine.1 engine.versionPath
  findInterpreter machine := find machine.1
  runCode interpreter code machine :=
    let (attempt, host) := ask interpreter code machine.1
    (attempt.probe, host, machine.2 ++ [{ interpreter, code, attempt }])

end ModelServing.Engine
