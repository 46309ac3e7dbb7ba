import ModelServing.Log.LineSink
import ModelServing.Log.Record

/-! A sink for text that hands complete lines to a logger. -/

namespace ModelServing

/-- A sink for text with its logger. -/
structure LoggerSink where
  /-- The level of the logger. -/
  loggerLevel : Int
  /-- The level at which lines are handed over. -/
  level : Int := 20
  lines : LineSink := {}
  deriving DecidableEq, Repr

namespace LoggerSink

/-- What a call of a sink comes to. -/
structure Reply where
  /-- What the caller is told: how many characters it has written, and nothing after a flush. -/
  returned : Option Nat
  /-- The messages that are logged, each with its level. -/
  logged : List (Int × List Char)
  sink : LoggerSink
  deriving DecidableEq, Repr

/-- The text that a sink holds. -/
def held (sink : LoggerSink) : List Char := sink.lines.held

/-- What is logged of the messages that a sink hands over. -/
def logged (sink : LoggerSink) (messages : List (List Char)) : List (Int × List Char) :=
  if passes sink.loggerLevel sink.level then messages.map fun text => (sink.level, text) else []

/-- What a call of the line sink comes to, by the messages that it passes on. -/
def reply (sink : LoggerSink) (returned : Option Nat) (passed : List (List Char) × LineSink) :
    Reply where
  returned := returned
  logged := sink.logged passed.1
  sink := { sink with lines := passed.2 }

/-- Takes a piece of text. -/
def write (sink : LoggerSink) (piece : List Char) : Reply :=
  sink.reply (some piece.length) (sink.lines.write piece)

/-- Hands over what is held, if anything is. -/
def flush (sink : LoggerSink) : Reply := sink.reply none sink.lines.flush

end LoggerSink

end ModelServing
