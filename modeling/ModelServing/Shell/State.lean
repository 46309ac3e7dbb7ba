import ModelServing.Filesystem.Change
import ModelServing.Run.Image
import ModelServing.Shell.Format
import ModelServing.Shell.Syntax

/-! The state of a running script, the signals that it knows, and the time that passes in it. -/

namespace ModelServing.Shell

/-- The numbers of signals by their names. -/
def signalNumbers : List (String × Nat) :=
  [("EXIT", 0), ("HUP", 1), ("INT", 2), ("QUIT", 3), ("ABRT", 6), ("KILL", 9), ("USR1", 10),
    ("SEGV", 11), ("USR2", 12), ("PIPE", 13), ("ALRM", 14), ("TERM", 15), ("CHLD", 17),
    ("CONT", 18), ("STOP", 19)]

/-- The number of a signal. -/
def signalNumber? (name : String) : Option Nat :=
  match name.toNat? with
  | some n => some n
  | none =>
    (signalNumbers.find? fun entry => entry.1 == name || "SIG" ++ entry.1 == name).map (·.2)

/-- What a shell tells of a program that a signal has ended; it does so for most signals. -/
def deathNotice? (signal : Nat) : Option String :=
  ([(1, "Hangup"), (3, "Quit"), (6, "Aborted"), (8, "Floating point exception"), (9, "Killed"),
    (10, "User defined signal 1"), (11, "Segmentation fault"), (12, "User defined signal 2"),
    (14, "Alarm clock"), (15, "Terminated")].find? fun entry => entry.1 == signal).map (·.2)

/-- Whether a signal does nothing to a process that has not asked for it. -/
def isHarmless (signal : Nat) : Bool := [0, 17, 18, 23, 28].contains signal

/-- Where a descriptor writes to. -/
inductive Target where
  /-- The output of the whole run. -/
  | channel
  | nowhere
  /-- The end of a file. -/
  | file (path : String)
  /-- The text that is being collected at a level. -/
  | collected (level : Nat)
  deriving DecidableEq, Repr

/-- A variable of a shell. -/
structure Variable where
  name : String
  value : String
  exported : Bool := false
  deriving Repr

/-- How long a run is followed, in milliseconds. What goes on after that goes on for ever. -/
def horizon : Nat := 3600000

/-- What is done to a run from outside, by the times at which it is done. -/
structure Sent where
  /-- When it is asked to terminate. -/
  terminate : Option Nat := none
  /-- When it is killed, which is never before it was asked to terminate. -/
  kill : Option Nat := none
  /-- From when on nobody takes its output, so that whoever prints waits. -/
  stalled : Option Nat := none
  deriving DecidableEq, Repr

/-- A process in the background. -/
structure Job where
  number : Nat
  /-- When it ends. -/
  ends : Nat
  /-- Until when it, or what it has started, holds the output of the run. -/
  holds : Nat
  status : Int
  /-- The signal that killed it. -/
  signal : Option Nat := none

/-- Something that was written to the output of a run. -/
structure Print where
  time : Nat
  /-- The number of the job that wrote it; the run itself has its own. -/
  job : Nat
  bytes : List UInt8

/-- The number of the process that a run begins with; those in the background have the next ones. -/
def firstNumber : Nat := 4242

/-- Everything that outlives a single shell of a run: the file system, the time in milliseconds, and
what was written when. -/
structure World where
  fs : Filesystem
  clock : Nat := 0
  /-- What was written to the output, the latest first. -/
  written : List Print := []
  /-- Until when the output is held by what does not run in the background. -/
  held : Nat := 0
  /-- The file systems that came about, the latest first. -/
  history : List (Nat × Filesystem) := []
  /-- The texts being collected by their levels, each in reverse. -/
  collected : List (Nat × List UInt8) := []
  /-- The processes in the background, the latest first. -/
  jobs : List Job := []
  /-- The number of the job that what runs belongs to. -/
  job : Nat := firstNumber
  /-- The last number that a job was given. -/
  lastNumber : Nat := firstNumber
  /-- What is still to reach the process that the run began with. -/
  sent : Sent := {}
  /-- When that process died, if it did so while processes that it had started were running. -/
  died : Option Nat := none

/-- What belongs to one shell. -/
structure Session where
  name : String
  arguments : List String := []
  /-- How many processes stand between this shell and the one that the run began with. -/
  depth : Nat := 0
  parameters : List Variable := []
  functions : List (String × Command) := []
  directory : String
  status : Int := 0
  targets : List (Nat × Target) := [(1, .channel), (2, .channel)]
  input : List UInt8 := []
  line : Nat := 1
  /-- What is done when a signal arrives, or when the shell exits, which counts as signal zero. -/
  traps : List (Nat × String) := []
  /-- What is still to be done for signals that have arrived. -/
  pending : List String := []
  /-- The letters of the options that are on. -/
  options : List Char := []
  /-- Whether the status of the command that runs is looked at, and so does not end the shell. -/
  tested : Bool := false
  /-- The number of the last job that was started. -/
  lastJob : Option Nat := none
  /-- The variables that are to be put back at the end of a function, as they were. -/
  saved : List (String × Option Variable) := []

/-- Why a script leaves the usual order of its commands. -/
inductive Stop where
  | exit (status : Int)
  | killed (signal : Nat)
  | leave (loops : Nat)
  | again (loops : Nat)
  | back (status : Int)
  /-- The script takes more steps than are followed. -/
  | unfinished
  deriving Repr

/-- Whether a shell holds the output of the run. -/
def Session.holdsOutput (shell : Session) : Bool := shell.targets.any (·.2 == .channel)

/-- A step of a script. -/
abbrev Step := ExceptT Stop (StateM (World × Session))

namespace Step

/-- The world. -/
def world : Step World := return (← get).1

/-- The shell. -/
def shell : Step Session := return (← get).2

/-- Changes the world. -/
def modifyWorld (f : World → World) : Step Unit := modify fun (world, shell) => (f world, shell)

/-- Changes the shell. -/
def modifyShell (f : Session → Session) : Step Unit :=
  modify fun (world, shell) => (world, f shell)

/-- Sets the status of the last command. -/
def setStatus (status : Int) : Step Unit := modifyShell fun shell => { shell with status }

/-- Puts a new file system in place, and notes when. -/
def setFiles (fs : Filesystem) : Step Unit := modifyWorld fun world =>
  { world with fs, history := (world.clock, fs) :: world.history }

/-- What is done when a signal arrives, if the shell has settled that. -/
def trap? (signal : Nat) : Step (Option String) := do
  return ((← shell).traps.find? fun entry => entry.1 == signal).map (·.2)

/-- The first signal from outside that this process does not ignore, and when it is sent, if that is
before a time. Only the process that the run began with is sent any. -/
def arriving? (limit : Nat) : Step (Option (Nat × Nat)) := do
  -- The earlier signal is not asked for: the one that asks goes first, as it was sent first.
  if (← shell).depth != 0 then return none
  let sent := (← world).sent
  let due (time : Option Nat) : Option Nat := time.filter fun time => decide (time < limit)
  let ignored := (← trap? 15) == some ""
  return ((if ignored then none else due sent.terminate).map fun time => (time, 15)).or
    ((due sent.kill).map fun time => (time, 9))

/-- Puts the clock to a time, up to which what runs may hold the output. -/
def passTo (time : Nat) : Step Unit := do
  let holds := (← shell).holdsOutput
  modifyWorld fun world =>
    { world with clock := time, held := if holds then max world.held time else world.held }

/-- Lets time pass in a program, which dies of a signal that arrives. -/
def wait (milliseconds : Nat) : Step Unit := do
  -- Time passes up to the signal, and the rest of the wait does not come about.
  let limit := (← world).clock + milliseconds
  match ← arriving? limit with
  | some (time, signal) =>
    passTo (max (← world).clock (time + 1))
    throw (.killed signal)
  | none => passTo limit

/-- Writes to a target. Where nobody takes the output any more, the writing does not come to an
end. -/
def writeTo (target : Target) (bytes : List UInt8) : Step Unit := do
  -- Prints are noted with their time and their process, the latest one first.
  if bytes.isEmpty then return ()
  match target with
  | .channel =>
    let clock := (← world).clock
    if (← world).sent.stalled.any fun time => decide (time ≤ clock) then wait (horizon + 1)
    else modifyWorld fun world =>
      { world with
        written := { time := world.clock, job := world.job, bytes } :: world.written
        held := max world.held world.clock }
  | .nowhere => return ()
  | .collected level => modifyWorld fun world =>
      { world with collected := world.collected.map fun entry =>
          if entry.1 == level then (level, bytes.reverse ++ entry.2) else entry }
  | .file path =>
    match (← world).fs.write path { bytes } true with
    | .ok fs => setFiles fs
    | .error _ => return ()

/-- Writes to a descriptor. -/
def write (descriptor : Nat) (bytes : List UInt8) : Step Unit := do
  match (← shell).targets.find? fun entry => entry.1 == descriptor with
  | some (_, target) => writeTo target bytes
  | none => return ()

/-- The value of a variable. -/
def lookup? (name : String) : Step (Option String) := do
  return ((← shell).parameters.find? fun entry => entry.name == name).map (·.value)

/-- A list of variables with one of them changed, or added if it is not there. -/
def putVariable (name : String) (change : Variable → Variable) : List Variable → List Variable
  | [] => [change { name, value := "" }]
  | entry :: rest =>
    if entry.name == name then change entry :: rest else entry :: putVariable name change rest

/-- Sets a variable. -/
def assign (name value : String) : Step Unit := modifyShell fun shell =>
  { shell with
    parameters := putVariable name (fun entry => { entry with value }) shell.parameters }

/-- Hands a variable on to the programs that are run. -/
def publish (name : String) : Step Unit := modifyShell fun shell =>
  { shell with
    parameters := putVariable name (fun entry => { entry with exported := true }) shell.parameters }

/-- Removes a variable. -/
def unset (name : String) : Step Unit := modifyShell fun shell =>
  { shell with parameters := shell.parameters.filter fun entry => entry.name != name }

/-- Puts a variable back as it was. -/
def restore (name : String) (entry : Option Variable) : Step Unit :=
  match entry with
  | some entry => modifyShell fun shell =>
      { shell with parameters := putVariable name (fun _ => entry) shell.parameters }
  | none => unset name

/-- The characters that divide fields. -/
def separators : Step (List Char) := do
  return ((← lookup? "IFS").map String.toList).getD [' ', '\t', '\n']

/-- The variables that are handed on. -/
def environment : Step Environment := do
  return ((← shell).parameters.filter (·.exported)).map fun entry => (entry.name, entry.value)

/-- The value of a parameter, if it is there. -/
def parameter? (name : String) : Step (Option String) := do
  -- A name of digits is the number of an argument, and any other one a variable.
  let shell ← shell
  match name with
  | "@" | "*" =>
    let mark := String.ofList ((← separators).take 1)
    return if shell.arguments.isEmpty then none else some (mark.intercalate shell.arguments)
  | "#" => return some (toString shell.arguments.length)
  | "?" => return some (toString shell.status)
  | "$" => return some (toString firstNumber)
  | "!" => return shell.lastJob.map toString
  | "-" => return some (String.ofList shell.options)
  | "0" => return some shell.name
  | name =>
    match name.toNat? with
    | some n => return (shell.arguments[n - 1]?)
    | none => lookup? name

/-- Tells about an error. -/
def complain (wrong : String) : Step Unit := do
  let shell ← shell
  write 2 (bytesOf (shell.name ++ ": " ++ toString shell.line ++ ": " ++ wrong ++ "\n"))

end Step

end ModelServing.Shell
