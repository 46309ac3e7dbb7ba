/-! A process as whoever has started it sees it: what has arrived of its output, what is known of its
exit, and when a wait for that exit is over. -/

namespace ModelServing.Run

/-- How many bytes may lie unread before nothing more of an output is let in. -/
def inflowLimit : Nat := 131072

/-- How few bytes have to lie unread for more of an output to be let in again. -/
def resumeLimit : Nat := 65536

/-- How many bytes the system holds on their way from a process to its reader. -/
def pipeLimit : Nat := 65536

/-- The output of a process at the end where it is read. -/
structure Inflow where
  /-- What was printed and not taken by the reader. -/
  unread : List UInt8 := []
  /-- Whether nothing more is let in, because too much lies unread. The end of the output cannot be
  noticed then either. -/
  paused : Bool := false
  /-- Whether the end of the output was noticed. -/
  closed : Bool := false
  deriving DecidableEq, Repr

namespace Inflow

/-- More of the output arrives. -/
def arrive (bytes : List UInt8) (inflow : Inflow) : Inflow :=
  let unread := inflow.unread ++ bytes
  { inflow with unread, paused := inflow.paused || decide (inflowLimit < unread.length) }

/-- The reader takes what lies ready, but for a rest. -/
def keep (rest : List UInt8) (inflow : Inflow) : Inflow :=
  -- Once paused, the output is let in again only when the rest is short enough.
  { inflow with unread := rest, paused := inflow.paused && decide (resumeLimit < rest.length) }

/-- Everybody who could print has closed the output. -/
def finish (inflow : Inflow) : Inflow :=
  if inflow.paused then inflow else { inflow with closed := true }

/-- Whether the reader has taken everything up to the end of the output. -/
def isDrained (inflow : Inflow) : Bool := inflow.closed && inflow.unread.isEmpty

end Inflow

/-- A process as whoever has started it sees it. -/
structure Child where
  inflow : Inflow := {}
  /-- Whether its output is connected, so that something can arrive. -/
  connected : Bool := false
  /-- The exit code of a process that is gone, told or not. -/
  gone : Option Int := none
  /-- The exit code that was told. -/
  exitCode : Option Int := none
  /-- Whether the wait for the exit that goes on began before the exit code was told. -/
  awaited : Bool := false
  deriving DecidableEq, Repr

/-- What becomes of a process. -/
inductive Notice where
  /-- Its output is connected. -/
  | connected
  /-- Bytes arrive that it has printed. -/
  | printed (bytes : List UInt8)
  /-- The end of its output arrives. -/
  | closed
  /-- It exits and is reaped. Its exit code is not told yet. -/
  | vanished (code : Int)
  /-- The exit code of a process that is gone is told. -/
  | told
  deriving DecidableEq, Repr

namespace Child

/-- What is noted of a process. -/
def note (notice : Notice) (child : Child) : Child :=
  -- Nothing is read of an output that is not connected, and what has gone once stays gone.
  match notice with
  | .connected => { child with connected := true }
  | .printed bytes =>
    if child.connected then { child with inflow := child.inflow.arrive bytes } else child
  | .closed => if child.connected then { child with inflow := child.inflow.finish } else child
  | .vanished code => { child with gone := child.gone.or (some code) }
  | .told => { child with exitCode := child.gone }

/-- Closes a connected output from the reader's side, whatever lies unread. -/
def shut (child : Child) : Child :=
  if child.connected then { child with inflow := { child.inflow with closed := true } } else child

/-- Whether a wait for the exit is over: at once if the exit code was told before it began, and
otherwise when the exit code is told and the output has ended. -/
def isOver (child : Child) : Bool :=
  child.exitCode.isSome && (child.inflow.closed || !child.awaited)

/-- Goes on with a wait for the exit that is not over. -/
def await (child : Child) : Child := { child with awaited := true }

/-- Leaves a wait for the exit, so that the next one begins anew. -/
def renew (child : Child) : Child := { child with awaited := false }

/-- Whether the process cannot be followed to its end any more: too much of its output lies unread,
and nobody takes it. -/
def isJammed (child : Child) : Bool := child.inflow.paused && !child.inflow.closed

end Child

end ModelServing.Run
