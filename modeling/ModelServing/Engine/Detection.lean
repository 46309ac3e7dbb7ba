import ModelServing.Engine.Installation
import ModelServing.Error.Failure
import ModelServing.Log.Record
import ModelServing.Text.Blank

/-! How an installation is detected. -/

namespace ModelServing.Engine

/-- How a run of the interpreter ends. -/
inductive Probe where
  /-- It could not be started. -/
  | unstarted (cause : SystemError)
  /-- It exited with a code, and had printed a text. -/
  | exited (code : Int) (output : String)
  /-- Whoever waits for it gave up while it ran. -/
  | cancelled
  /-- It has not come to its end, and whoever waits for it goes on waiting. -/
  | pending
  deriving Repr

/-- What a check may ask of a machine with states `σ`. Only running an interpreter may change it. -/
structure Site (σ : Type) where
  /-- Whether the engine runs on the platform at all. -/
  supported : Bool
  /-- The path of the prebuilt binary. -/
  binaryPath : String
  /-- Looks at the prebuilt binary. -/
  checkBinary : σ → Except Failure Unit
  /-- Reads the text of the prebuilt version. -/
  readVersion : σ → Except Failure String
  /-- Looks for the interpreter. -/
  findInterpreter : σ → Option String
  /-- Runs a line of code with the interpreter at a path. -/
  runCode : (interpreter code : String) → σ → Probe × σ

/-- How a check ends. -/
inductive Ending where
  | found
  | failed (failure : Failure)
  | cancelled
  /-- It does not end: it goes on waiting for the interpreter. -/
  | pending
  deriving DecidableEq, Repr

/-- Whether a check has come to its own end. -/
def Ending.isCompleted : Ending → Bool
  | .found | .failed _ => true
  | .cancelled | .pending => false

/-- What a check comes to: what is known then unless nothing has changed, the log messages, and the
machine. -/
structure Checked (σ : Type) where
  ending : Ending
  known : Option Installation := none
  logs : List LogRecord := []
  machine : σ

/-- The code that finds out whether the package is there. -/
def presenceCode : String := "import sglang"

/-- The code that prints the version of the package. -/
def versionCode : String := "import sglang; print(sglang.__version__)"

/-- The command that installs the package. -/
def installCommand : String := "pip install \"sglang[all]\""

/-- The exit code and the output of a run of the interpreter, with what is logged about it, or how a
check ends to which the run tells nothing. -/
def Probe.result (interpreter : String) : Probe → Except Ending (Int × String × List LogRecord)
  -- An interpreter that could not be started counts as exited with a code of its own.
  | .unstarted cause =>
    .ok (-1, "", [.debug ("Failed to execute " ++ interpreter ++ ": " ++ cause.message)])
  | .exited code output => .ok (code, output, [])
  | .cancelled => .error .cancelled
  | .pending => .error .pending

/-- Settles what is known of a prebuilt installation, by the text of its version. -/
def detectPrebuilt {σ : Type} (site : Site σ) (machine : σ) : Checked σ :=
  -- A version that the system refuses to read is unknown, and one that is no text is a failure.
  let used := LogRecord.info ("Using prebuilt SGLang at " ++ site.binaryPath)
  match site.readVersion machine with
  | .ok text =>
    { ending := .found, known := some (.prebuilt (some (Text.strip text))), logs := [used],
      machine }
  | .error (.system cause) =>
    { ending := .found, known := some (.prebuilt none)
      logs := [.warning ("could not get sglang version: " ++ cause.message), used], machine }
  | .error failure => { ending := .failed failure, machine }

/-- Asks an interpreter that has the package for its version. -/
def detectVersion {σ : Type} (site : Site σ) (interpreter : String) (logs : List LogRecord)
    (machine : σ) : Checked σ :=
  -- The interpreter has the package, so it is found whatever the version comes to.
  let (probe, machine) := site.runCode interpreter versionCode machine
  match probe.result interpreter with
  | .error ending => { ending, logs, machine }
  | .ok (code, output, told) =>
    let version := if code == 0 then some (Text.strip output) else none
    let warning :=
      if code == 0 then []
      else [LogRecord.warning ("could not get sglang version: exit code " ++ toString code)]
    { ending := .found, known := some (.host interpreter version)
      logs := logs ++ told ++ warning
        ++ [.info ("Using host SGLang package via " ++ interpreter)]
      machine }

/-- Looks for an interpreter that has the package. -/
def detectHost {σ : Type} (site : Site σ) (machine : σ) : Checked σ :=
  -- An interpreter without the package is still known afterwards, although the check fails.
  match site.findInterpreter machine with
  | none =>
    { ending := .failed (.backend .engineNotFound), known := some .interpreterMissing, machine }
  | some interpreter =>
    let (probe, machine) := site.runCode interpreter presenceCode machine
    match probe.result interpreter with
    | .error ending => { ending, machine }
    | .ok (code, _, told) =>
      if code == 0 then detectVersion site interpreter told machine
      else
        { ending := .failed (.backend (.packageNotInstalled interpreter code))
          known := some (.packageMissing interpreter)
          logs := told
            ++ [.warning ("sglang package not found. Install with: " ++ installCommand)]
          machine }

/-- Detects an installation. A prebuilt one wins; an interpreter is looked for only where there is
no prebuilt binary at all. -/
def detect {σ : Type} (site : Site σ) (machine : σ) : Checked σ :=
  -- Only a binary that is absent leaves the check to the interpreter, and any other failure ends
  -- it.
  if !site.supported then { ending := .failed (.backend .unsupportedPlatform), machine }
  else
    match site.checkBinary machine with
    | .ok () => detectPrebuilt site machine
    | .error (.system ⟨.noEntry, _⟩) => detectHost site machine
    | .error (.system cause) => { ending := .failed (.backend (.probeFailed cause)), machine }
    | .error failure => { ending := .failed failure, machine }

end ModelServing.Engine
