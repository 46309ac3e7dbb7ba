import ModelServing.Text.Blank
import ModelServing.Text.Lines

/-! A log sink that takes text in pieces and passes on complete lines. -/

namespace ModelServing

/-- A sink for text. It holds what it received after the last line feed. -/
structure LineSink where
  held : List Char := []
  deriving DecidableEq, Repr

namespace LineSink

/-- A line as it is passed on: without the carriage returns at its end. -/
def message (line : List Char) : List Char := Text.dropTrailing (· == '\r') line

/-- Takes a piece of text: the messages passed on, and the sink afterwards. -/
def write (sink : LineSink) (piece : List Char) : List (List Char) × LineSink :=
  let (lines, tail) := Text.splitEnds (· == '\n') (sink.held ++ piece)
  ((lines.map message).filter fun line => !line.isEmpty, ⟨tail⟩)

/-- Passes on what is held, if anything is. -/
def flush (sink : LineSink) : List (List Char) × LineSink :=
  if sink.held.isEmpty then ([], sink) else ([message sink.held], {})

/-- Takes several pieces of text in order. -/
def writeAll (sink : LineSink) : List (List Char) → List (List Char) × LineSink
  -- Each piece is written to the sink that the piece before it has left.
  | [] => ([], sink)
  | piece :: rest =>
    let (messages, sink) := sink.write piece
    let (more, sink) := sink.writeAll rest
    (messages ++ more, sink)

end LineSink

end ModelServing
