import ModelServing.Error.Failure
import ModelServing.Run.Image

/-! How a process is started. -/

namespace ModelServing.Run

/-- A request to run a program. -/
structure Request where
  program : String
  arguments : List String := []
  /-- The directory to run in, unless it is the current one. -/
  directory : Option String := none
  environment : Environment := []
  deriving Repr

namespace Request

/-- All texts of a request. -/
def texts (request : Request) : List String :=
  request.program :: request.arguments ++ request.directory.toList
    ++ request.environment.flatMap fun entry => [entry.1, entry.2]

/-- Fails if the system cannot take the request at all. -/
def check (request : Request) : Except Failure Unit :=
  if request.environment.any fun entry => entry.1.toList.contains '=' then .error .variableName
  else if request.texts.any Filesystem.hasNull then .error .nullCharacter
  else .ok ()

/-- The file system as the process sees it, in the directory to run in. -/
def enter (request : Request) (fs : Filesystem) : Except Failure Filesystem :=
  match request.directory with
  | none => .ok fs
  | some path => (fs.enter path).mapError fun errno => .system ⟨errno, path⟩

/-- Finds out what a request runs, seen from the directory to run in. A program without a slash in
its name is looked for where the request's own environment says. -/
def image (request : Request) (fs : Filesystem) : Except Failure Image :=
  -- The candidates are tried in order, and the program is told by the name that was asked for.
  let oversized := isOversized (request.program :: request.arguments) request.environment
  (loadFirst fs oversized request.arguments none
    (candidates request.environment request.program)).mapError
      fun errno => .system ⟨errno, request.program⟩

/-- Starts a process: the file system that it sees, and what it runs. -/
def start (request : Request) (fs : Filesystem) : Except Failure (Filesystem × Image) := do
  request.check
  let fs ← request.enter fs
  return (fs, ← request.image fs)

end Request

end ModelServing.Run
