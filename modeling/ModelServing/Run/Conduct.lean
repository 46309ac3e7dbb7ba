import ModelServing.Run.Supervision
import ModelServing.Shell.Evaluation

/-! What a process does by itself, the programs of a plain host, and what a process does when it is
supervised. -/

namespace ModelServing

namespace Filesystem

/-- The names of the system programs. -/
def programNames : List String :=
  ["[", "cat", "echo", "env", "false", "head", "kill", "mkdir", "printf", "pwd", "rm", "seq", "sh",
    "sleep", "test", "touch", "true", "wc"]

/-- A system program as a file. -/
def programFile (identity : Nat) (name : String) : Entry :=
  .file { identity, executable := true, program := some name }

/-- The tree of a plain host. -/
def hostTree : Entry :=
  -- The programs are files that are told apart by their numbers.
  .directory
    [("usr", .directory
      [("bin", .directory (programNames.zipIdx.map fun (name, index) =>
        (name, programFile (index + 1) name)))]),
      ("bin", .link "usr/bin"), ("dev", .directory [("null", .pipe)]),
      ("etc", .directory [("passwd", .file { identity := 0 })]), ("tmp", .directory [])]

/-- The file system of a plain host. -/
def host : Filesystem := { root := hostTree }

end Filesystem

namespace Run

/-- What happens to a process by itself. -/
inductive Event where
  /-- It prints bytes. -/
  | printed (bytes : List UInt8)
  /-- Nobody holds its output open any more. -/
  | closed
  /-- It exits, and its exit code is collected. -/
  | exited (code : Int)
  deriving DecidableEq, Repr

/-- What a process does. Times are milliseconds since its start. -/
structure Conduct where
  /-- What it prints, in the order of time. -/
  output : List (Nat × List UInt8)
  /-- When it exits, and with which code. -/
  gone : Option (Nat × Int)
  /-- When its output is closed by the last process that holds it. -/
  closes : Option Nat
  /-- The file systems that it leaves behind, in the order of time. -/
  files : List (Nat × Filesystem)
  output_sorted : output.Pairwise fun a b => a.1 ≤ b.1
  /-- Nothing is printed after the output has been closed. -/
  output_before_close : ∀ time ∈ closes, ∀ print ∈ output, print.1 ≤ time

namespace Conduct

/-- How many steps of a program are followed. -/
def stepLimit : Nat := 100000

/-- Prints in the order of time, those of one time in the order given. -/
def sorted (prints : List (Nat × List UInt8)) : List (Nat × List UInt8) :=
  prints.mergeSort fun a b => a.1 ≤ b.1

/-- The time of the last of some prints, and no time before the one given. -/
def latest (time : Nat) (prints : List (Nat × List UInt8)) : Nat :=
  prints.foldl (fun latest print => max latest print.1) time

/-- Sorted prints come in the order of time. -/
theorem pairwise_sorted (prints : List (Nat × List UInt8)) :
    (sorted prints).Pairwise fun a b => a.1 ≤ b.1 := by
  -- The order of times is transitive and total, which is all that sorting asks for.
  have sorts := @List.pairwise_mergeSort _ (fun a b : Nat × List UInt8 => decide (a.1 ≤ b.1))
    (fun a b c first second => by
      simp only [decide_eq_true_eq] at first second ⊢
      omega)
    (fun a b => by simp only [Bool.or_eq_true, decide_eq_true_eq]; omega) prints
  simpa [sorted] using sorts

/-- The latest time is no earlier than the one given. -/
theorem le_latest (time : Nat) (prints : List (Nat × List UInt8)) : time ≤ latest time prints := by
  -- Each print can only move the time found so far to a later one.
  induction prints generalizing time with
  | nil => exact Nat.le_refl time
  | cons print rest ih => exact Nat.le_trans (Nat.le_max_left ..) (ih (max time print.1))

/-- No print is later than the latest time. -/
theorem le_latest_of_mem (time : Nat) {prints : List (Nat × List UInt8)} :
    ∀ print ∈ prints, print.1 ≤ latest time prints := by
  -- A print counts when it is passed, and the time found stays at least that from then on.
  induction prints generalizing time with
  | nil => simp
  | cons first rest ih =>
    intro print member
    rcases List.mem_cons.mp member with same | member
    · subst same
      exact Nat.le_trans (Nat.le_max_right time _) (le_latest _ rest)
    · exact ih (max time first.1) print member

/-- How a process ends that goes on for longer than it is followed, by the signals it is sent. -/
def endOfEndless (sent : Shell.Sent) : Option (Nat × Int) :=
  (sent.terminate.map fun time => (time + 1, -15)).or (sent.kill.map fun time => (time + 1, -9))

/-- What a program does that is run in the current directory of a file system, and what is done to
it meanwhile. Errors are shown or not. What goes on for longer than it is followed goes on for
ever. -/
def ofImage (fs : Filesystem) (image : Image) (environment : Environment) (errorsShown : Bool)
    (sent : Shell.Sent) : Conduct :=
  -- The program is run to its end, and the result is then read as a sequence of prints, an exit and
  -- a close.
  let shell : Shell.Session :=
    { name := image.program
      directory := fs.currentPath
      parameters := Shell.importedVariables environment fs.currentPath
      targets := [(1, .channel), (2, if errorsShown then .channel else .nowhere)] }
  let (result, (world, _)) :=
    (Shell.runImage image environment stepLimit).run ({ fs, sent }, shell)
  let time := world.died.getD world.clock
  let endless := endOfEndless world.sent
  let exit : Option (Nat × Int) :=
    match result with
    | .ok status => some (time, status)
    | .error (.exit status) => some (time, status)
    | .error (.killed signal) => some (time, -signal)
    | .error _ => endless
  let gone := exit.filter fun exit => decide (exit.1 ≤ Shell.horizon)
  let output := sorted (world.written.reverse.map fun print => (print.time, print.bytes))
  -- The output stays open while the process or one that it has started holds it.
  let released := world.jobs.foldl (fun latest job => max latest job.holds)
    (match result with
    | .error .unfinished => max world.held ((endless.map (·.1)).getD 0)
    | _ => world.held)
  { output, gone
    closes :=
      if gone.isSome && decide (released ≤ Shell.horizon) then some (latest released output) else none
    files := world.history.reverse
    output_sorted := pairwise_sorted _
    output_before_close := by
      -- The time of the last print counts among those until which the output is open.
      intro time closed print printed
      split at closed
      · cases closed
        exact le_latest_of_mem released print printed
      · cases closed }

/-- Everything that a process prints. -/
def printed (conduct : Conduct) : List UInt8 := conduct.output.flatMap (·.2)

/-- When a process exits whose output is closed one day, and with which code. -/
def exit (conduct : Conduct) : Option (Nat × Int) :=
  if conduct.closes.isSome then conduct.gone else none

/-- The file system at a time. -/
def filesAt (conduct : Conduct) (start : Filesystem) (time : Nat) : Filesystem :=
  ((conduct.files.filter fun entry => entry.1 ≤ time).getLast?.map (·.2)).getD start

/-- The file system in the end. -/
def finalFiles (conduct : Conduct) (start : Filesystem) : Filesystem :=
  (conduct.files.getLast?.map (·.2)).getD start

/-- What comes of the output of a process: its prints, and then the close. -/
def outputEvents (conduct : Conduct) : List (Nat × Event) :=
  conduct.output.map (fun print => (print.1, .printed print.2))
    ++ (conduct.closes.map fun time => (time, Event.closed)).toList

/-- What happens by itself, in the order of time. -/
def events (conduct : Conduct) : List (Nat × Event) :=
  match conduct.gone with
  | none => conduct.outputEvents
  | some (time, code) =>
    -- The exit comes after whatever comes of the output up to its time.
    let sooner (event : Nat × Event) : Bool := event.1 ≤ time
    conduct.outputEvents.takeWhile sooner
      ++ (time, .exited code) :: conduct.outputEvents.dropWhile sooner

/-- What happens after a time. -/
def eventsAfter (conduct : Conduct) (time : Nat) : List (Nat × Event) :=
  conduct.events.filter fun event => decide (time < event.1)

/-- What happens up to a time. -/
def eventsUntil (conduct : Conduct) (time : Nat) : List (Nat × Event) :=
  conduct.events.filter fun event => decide (event.1 ≤ time)

end Conduct

/-- What a process does, by what is done to it meanwhile. -/
abbrev Behavior := Shell.Sent → Conduct

/-- What the programs of a machine do: the behavior of each one that is run, by the file system that
it sees and its environment. -/
abbrev Programs := Filesystem → Image → Environment → Behavior

/-- The programs of a plain host, with their errors shown. -/
def hostPrograms : Programs := fun fs image environment => Conduct.ofImage fs image environment true

/-- The turns in which an event is taken up at once. -/
def Event.turns : Event → List Turn
  | .printed bytes => [.noted (.printed bytes), .pumped]
  | .closed => [.noted .closed, .pumped, .resumed]
  | .exited code => [.noted (.vanished code), .noted .told, .resumed]

/-- When a supervision is given up: some time after a number of writes. -/
structure Deadline (σ : Type) where
  reached : σ → Bool
  delay : Nat

/-- A supervision that has been followed as far as anything comes: the state, when that is, and what
the process has done. -/
structure Followed (σ : Type) where
  state : Supervision σ
  time : Nat
  conduct : Conduct

namespace Supervision

variable {σ : Type}

/-- Takes up an event. -/
def take (ops : Sink σ) (name : String) (grace : Int) (event : Nat × Event)
    (state : Supervision σ) : Supervision σ :=
  state.run ops name grace (event.2.turns.map fun turn => (event.1, turn))

/-- Takes up events in order. -/
def takeAll (ops : Sink σ) (name : String) (grace : Int) (events : List (Nat × Event))
    (state : Supervision σ) : Supervision σ :=
  events.foldl (fun state event => state.take ops name grace event) state

@[simp] theorem takeAll_nil (ops : Sink σ) (name : String) (grace : Int) (state : Supervision σ) :
    state.takeAll ops name grace [] = state :=
  -- There is nothing to take up.
  rfl

@[simp] theorem takeAll_cons (ops : Sink σ) (name : String) (grace : Int) (state : Supervision σ)
    (event : Nat × Event) (rest : List (Nat × Event)) :
    state.takeAll ops name grace (event :: rest)
      = (state.take ops name grace event).takeAll ops name grace rest :=
  -- The first event is taken up first.
  rfl

/-- Stops a server from a time on: it is asked to terminate, and killed if it has not ended within
the grace period. -/
def stopAt (ops : Sink σ) (name : String) (grace : Int) (behavior : Behavior) (sent : Shell.Sent)
    (time : Nat) (state : Supervision σ) : Followed σ :=
  -- What the server does after it was asked to terminate depends on when that was, so its conduct
  -- is asked for anew each time.
  let state := state.run ops name grace [(time, .cancelled false), (time, .resumed)]
  if state.outcome?.isSome then { state, time, conduct := behavior sent }
  else
    let limit := time + grace.toNat
    let asked := behavior { sent with terminate := some time }
    let state := state.takeAll ops name grace
      ((asked.eventsAfter time).filter fun event => decide (event.1 ≤ limit))
    if state.outcome?.isSome then
      { state, time := asked.closes.getD limit, conduct := asked }
    else
      let state := state.turn ops name grace limit .graceOver
      if state.outcome?.isSome then { state, time := limit, conduct := asked }
      else
        let killed := behavior { sent with terminate := some time, kill := some limit }
        { state := state.takeAll ops name grace (killed.eventsAfter limit)
          time := killed.closes.getD limit, conduct := killed }

/-- Follows a server that can print no more from a time on. It waits to print from then on, and for
whatever is done to it. -/
def outwait (ops : Sink σ) (name : String) (grace : Int) (behavior : Behavior) (time : Nat)
    (givenUp : Option Nat) (state : Supervision σ) : Followed σ :=
  -- A server that waits to print does nothing else, so what it does from then on is another
  -- conduct.
  let stuck := behavior { stalled := some time }
  let events := stuck.eventsAfter time
  match givenUp with
  | some limit =>
    stopAt ops name grace behavior { stalled := some time } limit
      (state.takeAll ops name grace (events.filter fun event => decide (event.1 ≤ limit)))
  | none => { state := state.takeAll ops name grace events, time, conduct := stuck }

/-- Follows a server through events until it has ended, or is given up. -/
def follow (ops : Sink σ) (name : String) (grace : Int) (behavior : Behavior)
    (deadline : Option (Deadline σ)) (now : Nat) (givenUp : Option Nat)
    (state : Supervision σ) : List (Nat × Event) → Followed σ
  -- The limit is set by the sink, once, and whatever comes before it is still taken up.
  | [] =>
    match givenUp with
    | some time =>
      if state.outcome?.isSome then { state, time := now, conduct := behavior {} }
      else stopAt ops name grace behavior {} time state
    | none => { state, time := now, conduct := behavior {} }
  | event :: rest =>
    if state.outcome?.isSome then { state, time := now, conduct := behavior {} }
    else if (givenUp.map fun limit => decide (limit < event.1)).getD false then
      stopAt ops name grace behavior {} (givenUp.getD now) state
    else
      let state := state.take ops name grace event
      let reached :=
        match givenUp, deadline with
        | none, some deadline =>
          if deadline.reached state.pump.sink then some (event.1 + deadline.delay) else none
        | givenUp, _ => givenUp
      if state.isStuck then outwait ops name grace behavior event.1 reached state
      else follow ops name grace behavior deadline event.1 reached state rest

end Supervision

end Run

end ModelServing
