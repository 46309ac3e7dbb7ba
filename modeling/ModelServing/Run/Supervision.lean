import ModelServing.Run.Child
import ModelServing.Run.Pump

/-! The supervision of a server in single turns. What becomes of the server is only noted at first.
The pump and the supervision each go on in turns of their own, in any order. -/

namespace ModelServing.Run

/-- A signal sent to the server. -/
inductive Signal where
  | terminate
  | kill
  deriving DecidableEq, Repr

/-- How a supervision ends. -/
inductive Outcome where
  | exited (code : Int)
  | failed (failure : Failure)
  | cancelled
  deriving DecidableEq, Repr

/-- How far a supervision is. -/
inductive Stage where
  /-- The server runs, and its output is being connected. -/
  | starting
  /-- It was given up while its output was being connected, and its exit is waited for. -/
  | discarding
  /-- Its exit is waited for. -/
  | serving
  /-- Its exit was waited for, and its pump is waited for. -/
  | draining
  /-- It was asked to terminate, and has its grace period. -/
  | stopping
  /-- It was killed, and its exit is waited for. -/
  | killing
  | ended (outcome : Outcome)
  deriving DecidableEq, Repr

/-- Whether a pump runs beside the supervision. -/
def Stage.isPumping : Stage → Bool
  | .serving | .draining | .stopping | .killing => true
  | .starting | .discarding | .ended _ => false

/-- What may come next while a server is supervised. -/
inductive Turn where
  /-- Something becomes of the server. -/
  | noted (notice : Notice)
  /-- The pump takes what has arrived, and the end of the output if that has arrived too. -/
  | pumped
  /-- The supervision goes on, if what it waits for has come. -/
  | resumed
  /-- Whoever waits for the server gives up. A server that is gone cannot be signalled any more; the
  system may refuse to, or say nothing. -/
  | cancelled (refused : Bool)
  /-- The clock of the grace period strikes. -/
  | graceOver
  deriving DecidableEq, Repr

/-- Whether a turn is that somebody gives up. -/
def Turn.givesUp : Turn → Bool
  | .cancelled _ => true
  | _ => false

/-- From how many milliseconds on a grace period is too long to be counted in seconds: a number of
seconds from there on is no floating-point number of double precision any more. -/
def graceLimit : Int := ((Nat.pow 2 1024 - Nat.pow 2 970) * 1000 : Nat)

/-- A supervised server between two turns. -/
structure Supervision (σ : Type) where
  child : Child := {}
  pump : Pump σ
  stage : Stage := .starting
  /-- The time at which the grace period is over, if it has begun. -/
  limit : Option Nat := none
  /-- The signals sent, in order. -/
  signals : List Signal := []
  logs : List LogRecord := []

namespace Supervision

variable {σ : Type}

/-- How a supervision has ended, if it has. -/
def outcome? (state : Supervision σ) : Option Outcome :=
  match state.stage with
  | .ended outcome => some outcome
  | _ => none

/-- Adds log messages. -/
def log (more : List LogRecord) (state : Supervision σ) : Supervision σ :=
  { state with logs := state.logs ++ more }

/-- Goes on with the wait for the exit, or to what comes after it. -/
def waitThen (next : Supervision σ → Supervision σ) (state : Supervision σ) : Supervision σ :=
  if state.child.isOver then next state else { state with child := state.child.await }

/-- Ends a supervision that was given up, whatever has become of the server. -/
def abandon (state : Supervision σ) : Supervision σ := { state with stage := .ended .cancelled }

/-- Ends a supervision that was given up once the server is gone. A pump that has failed is told
about. -/
def dismiss (name : String) (state : Supervision σ) : Supervision σ :=
  -- The failure is told in the log, since the supervision itself ends as given up.
  match state.pump.state with
  | .failed failure =>
    (state.log [.warning (name ++ " log streaming failed: " ++ failure.message)]).abandon
  | _ => state.abandon

/-- Ends the supervision of a server that was waited for once the pump is over. The failure of the
pump is told in place of the exit. -/
def conclude (name : String) (state : Supervision σ) : Supervision σ :=
  -- A server whose pump still runs is not done, even if its exit is known.
  match state.child.exitCode, state.pump.state with
  | some _, .failed failure => { state with stage := .ended (.failed failure) }
  | some code, .finished =>
    { state.log [.error (name ++ " server exited with code " ++ toString code)] with
      stage := .ended (.exited code) }
  | _, _ => state

/-- Goes on from the exit of a server to its pump. -/
def drain (name : String) (state : Supervision σ) : Supervision σ :=
  { state with stage := .draining }.conclude name

/-- Begins to wait for a server whose output is connected. -/
def serve (name : String) (state : Supervision σ) : Supervision σ :=
  { state.log [.info (name ++ " server started (PID: N)")] with stage := .serving }.waitThen
    (drain name)

/-- Goes on, if what is waited for has come. -/
def resume (name : String) (state : Supervision σ) : Supervision σ :=
  -- Each stage waits for one thing, and has one way to go on.
  match state.stage with
  | .starting => if state.child.connected then state.serve name else state
  | .discarding => state.waitThen abandon
  | .serving => state.waitThen (drain name)
  | .draining => state.conclude name
  | .stopping | .killing => state.waitThen (dismiss name)
  | .ended _ => state

/-- The signals that have been sent after one more, which reaches no server that is gone. -/
def signalling (state : Supervision σ) (signal : Signal) : List Signal :=
  if state.child.gone.isSome then state.signals else state.signals ++ [signal]

/-- Gives up a server while its output is being connected. The output is closed and the server
killed on the spot, without a request to terminate and without a grace period. -/
def discard (state : Supervision σ) : Supervision σ :=
  { state with
    child := state.child.shut.renew
    stage := .discarding, signals := state.signalling .kill }.waitThen abandon

/-- Gives up a server that is waited for. A server whose exit code is not known is asked to
terminate, and has a grace period from then on, unless the system says that it is gone. A grace
period that is too long for the clock fails, and the server is not waited for. -/
def stop (name : String) (grace : Int) (now : Nat) (refused : Bool) (state : Supervision σ) :
    Supervision σ :=
  -- The message is logged before anything is looked at.
  let state := state.log [.info ("Stopping " ++ name ++ " server (PID: N)")]
  if state.child.exitCode.isSome || (state.child.gone.isSome && refused) then state.dismiss name
  else
    let asked := { state with signals := state.signalling .terminate }
    if graceLimit ≤ grace then { asked with stage := .ended (.failed .hugeDelay) }
    else
      { asked with
        child := state.child.renew, stage := .stopping, limit := some (now + grace.toNat) }

/-- Gives up. Whoever gives up once more waits for nothing any more. -/
def giveUp (name : String) (grace : Int) (now : Nat) (refused : Bool) (state : Supervision σ) :
    Supervision σ :=
  -- What giving up means depends on how far the supervision has come.
  match state.stage with
  | .starting => state.discard
  | .serving | .draining => state.stop name grace now refused
  | .discarding | .stopping | .killing => state.abandon
  | .ended _ => state

/-- Ends the grace period, if it is over at a time. A server whose exit code is not known is killed,
and its exit waited for anew. -/
def endGrace (name : String) (now : Nat) (state : Supervision σ) : Supervision σ :=
  -- The warning is logged even if the exit has been told in the meantime.
  if state.limit.any fun limit => decide (limit ≤ now) then
    let state := state.log [.warning "Process N did not stop gracefully, killing"]
    if state.child.exitCode.isSome then state.dismiss name
    else
      { state with
        child := state.child.await, stage := .killing, signals := state.signalling .kill }
  else state

/-- Lets the pump take what has arrived, and the end of the output after that. -/
def advance (ops : Sink σ) (state : Supervision σ) : Supervision σ :=
  -- The end of the output comes after all bytes, so it is taken in the same step as the last of
  -- them.
  let progress := state.pump.advance ops state.child.inflow.unread
  let inflow := state.child.inflow.keep progress.rest
  if inflow.closed && !progress.pump.state.isOver then
    let (pump, logs) := progress.pump.close ops progress.rest
    { state with
      child := { state.child with inflow := inflow.keep [] }, pump
      logs := state.logs ++ (progress.logs ++ logs) }
  else
    { state with
      child := { state.child with inflow }, pump := progress.pump
      logs := state.logs ++ progress.logs }

/-- What is made of a turn at a time. -/
def turn (ops : Sink σ) (name : String) (grace : Int) (state : Supervision σ) (now : Nat)
    (turn : Turn) : Supervision σ :=
  -- What has ended notices nothing any more, and a pump that nobody waits for is not run.
  if state.outcome?.isSome then state
  else
    match turn with
    | .noted notice => { state with child := state.child.note notice }
    | .pumped => if state.stage.isPumping then state.advance ops else state
    | .resumed => state.resume name
    | .cancelled refused => state.giveUp name grace now refused
    | .graceOver => if state.stage = .stopping then state.endGrace name now else state

/-- What is made of turns in order, each at its time. -/
def run (ops : Sink σ) (name : String) (grace : Int) (state : Supervision σ)
    (turns : List (Nat × Turn)) : Supervision σ :=
  turns.foldl (fun state entry => state.turn ops name grace entry.1 entry.2) state

@[simp] theorem run_nil (ops : Sink σ) (name : String) (grace : Int) (state : Supervision σ) :
    state.run ops name grace [] = state :=
  -- There is nothing to run through.
  rfl

@[simp] theorem run_cons (ops : Sink σ) (name : String) (grace : Int) (state : Supervision σ)
    (entry : Nat × Turn) (rest : List (Nat × Turn)) :
    state.run ops name grace (entry :: rest)
      = (state.turn ops name grace entry.1 entry.2).run ops name grace rest :=
  -- The first turn is made first.
  rfl

/-- Turns can be interrupted. -/
theorem run_append (ops : Sink σ) (name : String) (grace : Int) (state : Supervision σ)
    (first second : List (Nat × Turn)) :
    state.run ops name grace (first ++ second)
      = (state.run ops name grace first).run ops name grace second :=
  -- The turns are run through from the left.
  List.foldl_append ..

/-- Whether the server can print no more: nobody takes its output, of which as much lies unread as
is let in and as the system holds besides. -/
def isStuck (state : Supervision σ) : Bool :=
  state.pump.state.isOver && state.child.isJammed
    && decide (inflowLimit + pipeLimit < state.child.inflow.unread.length)

end Supervision

end ModelServing.Run
