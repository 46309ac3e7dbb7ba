import ModelServing.Engine.Detection
import ModelServing.Run.Child

/-! A run of the interpreter in single turns. What becomes of the interpreter is only noted at first.
Whoever waits for it goes on in turns of its own, in any order. -/

namespace ModelServing.Engine

/-- How far a run of the interpreter is. -/
inductive InquiryStage where
  /-- The interpreter runs, and its output is being connected. -/
  | starting
  /-- Its output is read, and its exit waited for after that. -/
  | reading
  /-- It was given up, and its exit is waited for. -/
  | stopping
  | exited (code : Int)
  | cancelled
  deriving DecidableEq, Repr

/-- A run of the interpreter between two turns. -/
structure Inquiry where
  child : Run.Child := {}
  /-- What was read of the output. -/
  output : List UInt8 := []
  /-- Whether the interpreter was killed. -/
  killed : Bool := false
  stage : InquiryStage := .starting
  deriving DecidableEq, Repr

namespace Inquiry

/-- What may come next while a run of the interpreter is waited for. -/
inductive Turn where
  /-- Something becomes of the interpreter. -/
  | noted (notice : Run.Notice)
  /-- What has arrived of the output is read. -/
  | taken
  /-- Whoever waits goes on, if what is waited for has come. -/
  | resumed
  /-- Whoever waits gives up. -/
  | cancelled
  deriving DecidableEq, Repr

/-- How a run of the interpreter has ended. One that has not is still waited for. -/
def probe (inquiry : Inquiry) : Probe :=
  -- The output is decoded as a whole, at the end.
  match inquiry.stage with
  | .exited code => .exited code (String.ofList (Text.Utf8.decodeLossy inquiry.output))
  | .cancelled => .cancelled
  | .starting | .reading | .stopping => .pending

/-- Whether a run of the interpreter has ended. -/
def isEnded (inquiry : Inquiry) : Bool :=
  match inquiry.stage with
  | .exited _ | .cancelled => true
  | .starting | .reading | .stopping => false

/-- Reads what has arrived. Nobody does before the output is connected, or after giving up. -/
def read (inquiry : Inquiry) : Inquiry :=
  -- Everything that has arrived is taken, so nothing is left in the pipe.
  if inquiry.stage = .reading then
    { inquiry with
      output := inquiry.output ++ inquiry.child.inflow.unread
      child := { inquiry.child with inflow := inquiry.child.inflow.keep [] } }
  else inquiry

/-- Goes on, if what is waited for has come. -/
def resume (inquiry : Inquiry) : Inquiry :=
  match inquiry.stage with
  | .starting =>
    if inquiry.child.connected then { inquiry with stage := .reading } else inquiry
  | .reading =>
    -- The exit is waited for only when the whole output was read.
    match inquiry.child.inflow.isDrained && inquiry.child.isOver, inquiry.child.exitCode with
    | true, some code => { inquiry with stage := .exited code }
    | _, _ => inquiry
  | .stopping => if inquiry.child.isOver then { inquiry with stage := .cancelled } else inquiry
  | .exited _ | .cancelled => inquiry

/-- Kills an interpreter, which reaches none that is gone, and begins to wait for its exit. -/
def kill (inquiry : Inquiry) : Inquiry :=
  { inquiry with
    child := inquiry.child.await, killed := inquiry.child.gone.isNone, stage := .stopping }

/-- Gives up. An interpreter whose exit code was not told is killed. Whoever gives up once more
waits for nothing any more. -/
def giveUp (inquiry : Inquiry) : Inquiry :=
  if inquiry.child.exitCode.isSome then { inquiry with stage := .cancelled }
  else
    match inquiry.stage with
    -- An output that is connected by then is closed with that.
    | .starting => { inquiry with child := inquiry.child.shut }.kill
    | .reading => inquiry.kill
    | .stopping | .exited _ | .cancelled => { inquiry with stage := .cancelled }

/-- What is made of a turn. -/
def turn (inquiry : Inquiry) (turn : Turn) : Inquiry :=
  -- A run that has ended notices nothing any more.
  if inquiry.isEnded then inquiry
  else
    match turn with
    | .noted notice => { inquiry with child := inquiry.child.note notice }
    | .taken => inquiry.read
    | .resumed => inquiry.resume
    | .cancelled => inquiry.giveUp

/-- What is made of turns in order. -/
def run (inquiry : Inquiry) (turns : List Turn) : Inquiry := turns.foldl turn inquiry

@[simp] theorem run_nil (inquiry : Inquiry) : inquiry.run [] = inquiry :=
  -- There is nothing to run through.
  rfl

@[simp] theorem run_cons (inquiry : Inquiry) (turn : Turn) (rest : List Turn) :
    inquiry.run (turn :: rest) = (inquiry.turn turn).run rest :=
  -- The first turn is made first.
  rfl

/-- Turns can be interrupted. -/
theorem run_append (inquiry : Inquiry) (first second : List Turn) :
    inquiry.run (first ++ second) = (inquiry.run first).run second :=
  -- The turns are run through from the left.
  List.foldl_append ..

end Inquiry

/-- What comes of an attempt to run the interpreter. -/
inductive Attempt where
  /-- It could not be started. -/
  | unstarted (cause : SystemError)
  /-- It was waited for, through some turns. -/
  | waited (turns : List Inquiry.Turn)

/-- How a run of the interpreter ends that was attempted. -/
def Attempt.probe : Attempt → Probe
  | .unstarted cause => .unstarted cause
  | .waited turns => (({} : Inquiry).run turns).probe

end ModelServing.Engine
