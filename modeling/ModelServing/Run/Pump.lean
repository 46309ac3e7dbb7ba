import ModelServing.Run.Sink
import ModelServing.Text.Utf8

/-! The pump that carries the output of a server to a sink, line by line. -/

namespace ModelServing.Run

/-- How many bytes a line may have, its line feed not counted. -/
def lineLimit : Nat := 65536

/-- How far a pump is. -/
inductive Pumping where
  /-- It waits for the end of a line. -/
  | running
  /-- It has carried everything, and flushed the sink. -/
  | finished
  | failed (failure : Failure)
  deriving DecidableEq, Repr

/-- Whether a pump will not go on. -/
def Pumping.isOver : Pumping → Bool
  | .running => false
  | _ => true

/-- A pump with its sink. -/
structure Pump (σ : Type) where
  state : Pumping := .running
  sink : σ

/-- What a pump makes of bytes that lie ready for it: the pump afterwards, the bytes that it has not
taken, and the log messages. -/
structure Progress (σ : Type) where
  pump : Pump σ
  rest : List UInt8
  logs : List LogRecord := []

namespace Pump

variable {σ : Type}

/-- A pump after a call of its sink, which goes on as given unless the sink refuses. -/
def after (next : Pumping) (taken : Taken σ) : Pump σ × List LogRecord :=
  match taken.failure with
  | none => ({ state := next, sink := taken.state }, taken.logs)
  | some failure => ({ state := .failed failure, sink := taken.state }, taken.logs)

/-- Complete lines and what follows them, as the bytes that they are made of. -/
def joinLines (tail : List UInt8) (lines : List (List UInt8)) : List UInt8 :=
  lines.flatMap (· ++ [10]) ++ tail

/-- Writes complete lines in order, each with its line feed, up to the first that is too long or
refused; then waits for the end of the line that follows them. The line at which the pump fails is
taken, and what comes after it is left. -/
def carry (ops : Sink σ) (sink : σ) (tail : List UInt8) : List (List UInt8) → Progress σ
  | [] =>
    -- A line that is too long before it has ended is given up as far as it is there.
    if lineLimit < tail.length then { pump := { state := .failed .overlongLine, sink }, rest := [] }
    else { pump := { sink }, rest := tail }
  | line :: rest =>
    if lineLimit < line.length then
      { pump := { state := .failed .overlongLine, sink }, rest := joinLines tail rest }
    else
      let taken := ops.write sink (Text.Utf8.decodeLossy (line ++ [10]))
      match taken.failure with
      | some failure =>
        { pump := { state := .failed failure, sink := taken.state }, rest := joinLines tail rest
          logs := taken.logs }
      | none =>
        let progress := carry ops taken.state tail rest
        { progress with logs := taken.logs ++ progress.logs }

/-- Takes what lies ready of the output. A pump that is over takes nothing any more. -/
def advance (ops : Sink σ) (pump : Pump σ) (bytes : List UInt8) : Progress σ :=
  -- Lines are split off the bytes, and what follows the last line feed stays in the buffer.
  match pump.state with
  | .running =>
    let (lines, tail) := Text.splitEnds (· == 10) bytes
    carry ops pump.sink tail lines
  | _ => { pump, rest := bytes }

/-- Takes the end of the output: what is left before it is written as the last line, and the sink
flushed. -/
def close (ops : Sink σ) (pump : Pump σ) (rest : List UInt8) : Pump σ × List LogRecord :=
  -- The last line may lack its line feed, and an empty one is not written.
  match pump.state with
  | .running =>
    match rest with
    | [] => after .finished (ops.flush pump.sink)
    | byte :: more =>
      let (pump, logs) :=
        after .finished (ops.write pump.sink (Text.Utf8.decodeLossy (byte :: more)))
      match pump.state with
      | .finished =>
        let (pump, more) := after .finished (ops.flush pump.sink)
        (pump, logs ++ more)
      | _ => (pump, logs)
  | _ => (pump, [])

/-- Carries a whole output: its bytes in one piece, and their end. -/
def carryAll (ops : Sink σ) (sink : σ) (bytes : List UInt8) : Pump σ × List LogRecord :=
  let progress := advance ops { sink } bytes
  let (pump, more) := close ops progress.pump progress.rest
  (pump, progress.logs ++ more)

end Pump

end ModelServing.Run
