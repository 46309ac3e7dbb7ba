import ModelServing.Engine.Machine

/-! An engine on its machine over time: what may happen there, and what is told of it. -/

namespace ModelServing.Engine

/-- What may happen around an engine. -/
inductive Act where
  /-- A check for an installation, with what comes of running the interpreter; without that, it is
  given up before it has begun. -/
  | check (ask : Option Interpreter)
  /-- A request to serve a model. What the server does to the machine is a change of its own. -/
  | serve (request : ServeRequest)
  /-- A question for the size of the installation. -/
  | measure
  /-- A question for the memory that a model takes. -/
  | estimate
  /-- The machine becomes another one: its files, or its variables. -/
  | change (host : Host)

/-- What a check told: how it ended, and what the engine shows of its installation afterwards. -/
structure Finding where
  ending : Ending
  topology : Option Topology
  interpreter : Option String
  deriving DecidableEq, Repr

/-- What is told after an act. -/
inductive Report where
  | checked (finding : Finding)
  /-- The server that is run for a request, unless the request is refused. -/
  | served (server : Except Failure Run.Server)
  | measured (size : Except BackendError Nat)
  | estimated (memory : Except BackendError RequiredMemory)
  | changed
  deriving Repr

/-- What a check told that has come to its own end. -/
def Report.completed? : Report → Option Finding
  | .checked finding => if finding.ending.isCompleted then some finding else none
  | _ => none

/-- An engine on its machine. -/
structure Session where
  engine : Engine
  host : Host

namespace Session

/-- What the engine shows after a check that ended in some way. -/
def finding (session : Session) (ending : Ending) : Finding where
  ending := ending
  topology := session.engine.installation.topology?
  interpreter := session.engine.installation.interpreter?

/-- What an act makes of a session, and what is told of it. -/
def after (session : Session) : Act → Session × Report
  -- A check is the only act that the engine learns from, and it may change the machine as well.
  | .check ask =>
    let (engine, checked) := session.engine.installAs ask session.host
    let session := { engine, host := checked.machine : Session }
    (session, .checked (session.finding checked.ending))
  | .serve request => (session, .served (session.engine.serverFor session.host.fs request))
  | .measure => (session, .measured (session.engine.diskUsage session.host.fs))
  | .estimate => (session, .estimated session.engine.requiredMemory)
  | .change host => ({ session with host }, .changed)

/-- What acts in order make of a session, and what is told of them, the last one first. -/
def follow (session : Session) (acts : List Act) : Session × List Report :=
  acts.foldl (fun (session, told) act =>
    let (session, report) := session.after act
    (session, report :: told)) (session, [])

end Session

/-- What the last completed check told, by reports with the last one first. -/
def lastFinding? (told : List Report) : Option Finding := told.findSome? Report.completed?

end ModelServing.Engine
