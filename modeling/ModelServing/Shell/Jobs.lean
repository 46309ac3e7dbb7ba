import ModelServing.Shell.State

/-! Processes in the background, time that passes, and signals that arrive meanwhile. -/

namespace ModelServing.Shell

namespace Step

/-- Lets time pass in a shell up to a time, and returns a status, or the one of a signal that
arrives before. -/
def waitUntil (time : Nat) (status : Int) : Step Int := do
  -- A signal ends the wait after it was sent, and its action is run later.
  let clock := (← world).clock
  match ← arriving? (max clock time) with
  | some (time, signal) =>
    passTo (max clock (time + 1))
    return 128 + signal
  | none =>
    passTo (max clock time)
    return status

/-- Waits for all processes in the background. -/
def waitForAll : Step Int := do
  waitUntil ((← world).jobs.foldl (fun latest job => max latest job.ends) 0) 0

/-- Waits for one process in the background, and returns its status. -/
def waitFor (number : String) : Step Int := do
  -- The job is looked up, so waiting for it once more gives the same status.
  match (← world).jobs.find? fun job => toString job.number == number with
  | none => return 127
  | some job =>
    let status ← waitUntil job.ends job.status
    if job.ends ≤ (← world).clock then
      if let some notice := job.signal.bind deathNotice? then write 2 (bytesOf (notice ++ "\n"))
    return status

/-- Takes notice of a signal that was sent while a command ran: the shell has died of it when it was
sent, or puts what it does about it among what is still to be done. -/
def heed : Step Unit := do
  -- The signals are those that were sent before the time of the shell; one that asks may be
  -- trapped, and one that kills may not.
  if (← shell).depth != 0 then return ()
  let clock := (← world).clock
  let due (time : Option Nat) : Option Nat := time.filter fun time => decide (time < clock)
  let forget : Step Unit := modifyWorld fun world =>
    { world with sent := { world.sent with terminate := none } }
  let die (time signal : Nat) : Step Unit := do
    modifyWorld fun world => { world with died := some (time + 1) }
    throw (.killed signal)
  match due (← world).sent.terminate, due (← world).sent.kill, ← trap? 15 with
  | some time, _, none => die time 15
  | _, some time, _ => die time 9
  | some _, none, some action =>
    forget
    unless action.isEmpty do
      modifyShell fun shell => { shell with pending := shell.pending ++ [action] }
  | none, none, _ => return ()

/-- Runs a step in a shell of its own: what it does to the shell is undone. -/
def isolated (step : Step Unit) : Step Int := fun (world, shell) =>
  -- The world goes on, apart from the current directory, and the shell is the one from before.
  let (result, (after, inner)) := step.run (world, shell)
  let world := { after with fs := { after.fs with current := world.fs.current } }
  match result with
  | .ok () => (.ok inner.status, (world, shell))
  | .error (.exit status) => (.ok status, (world, shell))
  | .error (.back status) => (.ok status, (world, shell))
  | .error (.leave _) => (.ok inner.status, (world, shell))
  | .error (.again _) => (.ok inner.status, (world, shell))
  | .error stop => (.error stop, (world, shell))

/-- Runs a step that a shell runs for. While it does, the shell may hold the output. -/
def holding (step : Step Unit) : Step Unit := do
  -- The output is held until the step is over, or until the process has died in it.
  let note : Step Unit := do
    if (← shell).holdsOutput then
      modifyWorld fun world =>
        { world with held := max world.held (world.died.getD world.clock) }
  tryCatch step fun stop => do
    note
    throw stop
  note

/-- Runs a step in a process of its own. -/
def apart (step : Step Unit) : Step Int := isolated do
  modifyShell fun shell => { shell with depth := shell.depth + 1 }
  holding step

/-- Runs a step in the background, in a shell or as a program alone. -/
def inBackground (isProgram : Bool) (step : Step Unit) : Step Unit := do
  let before ← world
  let number := before.lastNumber + 1
  modifyWorld fun world => { world with job := number, lastNumber := number, held := before.clock }
  let own : Step Int := isolated do
    modifyShell fun shell => { shell with depth := shell.depth + 1, input := [] }
    if isProgram then step else holding step
  -- What holds the output when it is followed no more holds it for ever.
  let status ← tryCatch own fun stop => do
    match stop with
    | .unfinished =>
      modifyWorld fun world =>
        { world with
          clock := horizon + 1
          held := if world.clock ≤ world.held then horizon + 1 else world.held }
      return 0
    | stop => throw stop
  modifyWorld fun world =>
    { world with
      clock := before.clock, job := before.job, held := before.held
      jobs := { number, ends := world.clock, holds := world.held, status } :: world.jobs }
  modifyShell fun shell => { shell with lastJob := some number }
  setStatus 0

/-- Sends a signal to a process in the background: it has printed nothing after that. -/
def killJob (signal : Nat) (number : String) : Step Unit :=
  -- What was printed after the kill is taken back, since the job was run ahead of its time.
  modifyWorld fun world =>
  let clock := world.clock
  let killed (job : Job) : Bool := toString job.number == number && clock < job.ends
  { world with
    jobs := world.jobs.map fun job =>
      if killed job then
        { job with
          ends := clock, holds := min job.holds clock, status := 128 + signal
          signal := some signal }
      else job
    written := world.written.filter fun print =>
      !(toString print.job == number && clock < print.time) }

end Step

end ModelServing.Shell
