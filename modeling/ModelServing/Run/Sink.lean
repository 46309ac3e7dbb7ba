import ModelServing.Error.Failure
import ModelServing.Log.LineSink
import ModelServing.Log.Record

/-! Where the output of a server goes. -/

namespace ModelServing.Run

/-- What a sink does with a call: its next state, the log messages it passes on, and the failure
with which it refuses. -/
structure Taken (σ : Type) where
  state : σ
  logs : List LogRecord := []
  failure : Option Failure := none

/-- A sink for text, by what its calls do. -/
structure Sink (σ : Type) where
  write : σ → List Char → Taken σ
  flush : σ → Taken σ

/-- A call of a sink. -/
inductive Call where
  | write (piece : List Char)
  | flush
  deriving DecidableEq, Repr

/-- The sink that passes complete lines on to the log. -/
def logSink : Sink LineSink where
  -- Every message is passed on to the log, and nothing is refused.
  write sink piece :=
    let (lines, sink) := sink.write piece
    { state := sink, logs := lines.map fun line => .info (String.ofList line) }
  flush sink :=
    let (lines, sink) := sink.flush
    { state := sink, logs := lines.map fun line => .info (String.ofList line) }

/-- What a sink has received: its pieces of text in reverse, and how often it was flushed. -/
structure Recording where
  pieces : List (List Char) := []
  flushes : Nat := 0
  deriving DecidableEq, Repr

/-- The sink that keeps what it receives. It may refuse each piece with a failure. -/
def recorder (refusal : Option Failure) : Sink Recording where
  write recording piece :=
    { state := { recording with pieces := piece :: recording.pieces }, failure := refusal }
  flush recording := { state := { recording with flushes := recording.flushes + 1 } }

end ModelServing.Run
