import ModelServing.Run.Conduct
import ModelServing.Run.Start
import ModelServing.Settings

/-! How a server process is run from its start to its end. -/

namespace ModelServing

/-- A machine to run servers on: its files and its environment. -/
structure Host where
  fs : Filesystem
  environment : Environment := []
  deriving Inhabited

namespace Run

/-- Removes the socket that a path names, if it names one. Anything else stays, and so does what a
link leads to. A removal that the system refuses is told in a warning. -/
def removeStaleSocket (fs : Filesystem) (refused : Option Errno) (path : String) :
    Except Failure (Filesystem × List LogRecord) :=
  -- The last link is not passed, so that a link to a socket is no socket.
  if Filesystem.hasNull path then .error .nullCharacter
  else
    match fs.find false path with
    | .ok (names, .socket) =>
      match refused with
      | none => .ok (fs.setAt names none, [])
      | some errno =>
        .ok (fs, [.warning ("Failed to remove stale socket " ++ path ++ ": "
          ++ SystemError.message ⟨errno, path⟩)])
    | _ => .ok (fs, [])

/-- Everything that is needed to run one server. -/
structure Server where
  /-- What the server is called in messages. -/
  name : String
  socket : String
  program : String
  arguments : List String := []
  /-- The directory that the server runs in and finds its programs in first. -/
  sandbox : Option String := none
  environment : Environment := []
  /-- How many milliseconds the server has to stop before it is killed, if it has its own time. -/
  gracePeriod : Option Int := none
  deriving Repr

/-- How the run of a server has ended: how, if it does, the sink afterwards, the log messages, and
the files that are left. -/
structure Result (σ : Type) where
  outcome : Option Outcome
  sink : σ
  logs : List LogRecord := []
  fs : Filesystem

namespace Server

/-- The directory that a server runs in; an empty path stands for none. -/
def directory? (server : Server) : Option String := server.sandbox.filter fun path => !path.isEmpty

/-- How many milliseconds the server has to stop: its own time, or the one of the settings. -/
def grace (server : Server) (settings : Settings) : Int :=
  server.gracePeriod.getD (settings.gracePeriod * 1000)

/-- The environment that a server runs in. -/
def fullEnvironment (server : Server) (host : Host) : Environment :=
  -- The directory comes before the search path, so that its programs are found first.
  let environment := Environment.setAll server.environment host.environment
  match server.directory? with
  | some path => environment.set "PATH" (path ++ ":" ++ (environment.get? "PATH").getD "")
  | none => environment

/-- The request that starts a server. -/
def request (server : Server) (host : Host) : Request where
  -- The directory is told along with the environment, and both hold when the program is looked for.
  program := server.program
  arguments := server.arguments
  directory := server.directory?
  environment := server.fullEnvironment host

/-- What is logged before a server is started. -/
def announcement (server : Server) : List LogRecord :=
  [.info ("Starting " ++ server.name ++ " server on " ++ server.socket),
    .debug ("Command: " ++ server.program ++ " " ++ " ".intercalate server.arguments)]

/-- The failure of a server that could not be started. Only system errors are told as the server's
own; what the system cannot take at all is told as it is. -/
def startFailure (server : Server) (failure : Failure) : Failure :=
  match failure with
  | .system cause => .backend (.launchFailed server.name cause)
  | failure => failure

/-- A server whose process has just been started, and nothing else. -/
def supervision {σ : Type} (server : Server) (sink : σ) : Supervision σ where
  pump := { sink }
  logs := server.announcement

/-- The turns in which the output of a server is connected before anything is done with it. -/
def openingTurns : List (Nat × Turn) := [(0, .noted .connected), (0, .resumed)]

/-- Follows a server that has been started and behaves in some way, until it ends or is given
up. -/
def attend {σ : Type} (server : Server) (settings : Settings) (ops : Sink σ)
    (deadline : Option (Deadline σ)) (sink : σ) (behavior : Behavior) : Followed σ :=
  let grace := server.grace settings
  Supervision.follow ops server.name grace behavior deadline 0 none
    ((server.supervision sink).run ops server.name grace openingTurns) (behavior {}).events

/-- Runs a server that has been started, until it ends or is given up. -/
def supervise {σ : Type} (server : Server) (settings : Settings) (ops : Sink σ)
    (deadline : Option (Deadline σ)) (sink : σ) (fs seen : Filesystem) (behavior : Behavior) :
    Result σ :=
  -- The current directory of the server is its own, and the machine keeps the one it had.
  let followed := server.attend settings ops deadline sink behavior
  { outcome := followed.state.outcome?, sink := followed.state.pump.sink
    logs := followed.state.logs
    fs := { followed.conduct.filesAt seen followed.time with current := fs.current } }

/-- Runs a server on a machine with some programs: a socket that was left behind is removed unless
the system refuses that, the server is started, and then supervised. -/
def runWith {σ : Type} (programs : Programs) (refused : Option Errno) (server : Server)
    (settings : Settings) (ops : Sink σ) (deadline : Option (Deadline σ)) (sink : σ) (host : Host) :
    Result σ :=
  -- Each of the three steps can be where it ends, and the warnings of the first are kept in any
  -- case.
  match removeStaleSocket host.fs refused server.socket with
  | .error failure => { outcome := some (.failed failure), sink, fs := host.fs }
  | .ok (fs, warnings) =>
    match (server.request host).start fs with
    | .error failure =>
      { outcome := some (.failed (server.startFailure failure)), sink
        logs := warnings ++ server.announcement, fs }
    | .ok (seen, image) =>
      let behavior := programs seen image (server.fullEnvironment host)
      let result := server.supervise settings ops deadline sink fs seen behavior
      { result with logs := warnings ++ result.logs }

/-- Runs a server on a plain host. -/
def run {σ : Type} (server : Server) (settings : Settings) (ops : Sink σ)
    (deadline : Option (Deadline σ)) (sink : σ) (host : Host) : Result σ :=
  server.runWith hostPrograms none settings ops deadline sink host

/-- The failure that a run ends with, if it does not end by being given up. -/
def failure? (server : Server) (outcome : Outcome) : Option Failure :=
  -- Being given up is no failure, since somebody has asked for it.
  match outcome with
  | .exited code => some (.backend (.exited server.name code))
  | .failed failure => some failure
  | .cancelled => none

end Server

end Run

end ModelServing
