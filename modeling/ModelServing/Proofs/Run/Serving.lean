import ModelServing.Proofs.Run.Events
import ModelServing.Proofs.Run.Pumping
import ModelServing.Run.Server

/-! What has become of a server that is waited for, by all that has come of it. -/

namespace ModelServing.Run

variable {σ : Type}

/-- Whoever keeps as much unread as has stopped the output changes nothing. -/
theorem Inflow.keep_unread {inflow : Inflow} (paused : inflow.paused = true)
    (long : resumeLimit < inflow.unread.length) : inflow.keep inflow.unread = inflow := by
  -- The output is paused and stays paused, since too much still lies unread.
  obtain ⟨unread, _, closed⟩ := inflow
  subst paused
  simp [keep, long]

namespace Child

/-- The end of an output that is stopped is not noticed. -/
theorem note_closed_of_paused {child : Child} (paused : child.inflow.paused = true) :
    child.note .closed = child := by
  -- Whoever has paused an output does not read its end.
  simp [note, Inflow.finish, paused]

/-- What becomes of a process leaves the wait for its exit alone. -/
@[simp] theorem awaited_note (notice : Notice) (child : Child) :
    (child.note notice).awaited = child.awaited := by
  -- No notice begins a wait.
  cases notice with
  | connected | vanished code | told => rfl
  | printed bytes | closed =>
    dsimp only [note]
    split <;> rfl

/-- Going on with a wait that has begun changes nothing. -/
theorem await_of_awaited {child : Child} (awaited : child.awaited = true) :
    child.await = child := by
  -- The wait is begun by setting a mark, and the mark is set.
  obtain ⟨inflow, connected, gone, exitCode, _⟩ := child
  subst awaited
  rfl

end Child

namespace Supervision

/-- A wait that has begun and is not over changes nothing. -/
theorem waitThen_of_awaited {state : Supervision σ} (awaited : state.child.awaited = true)
    (waits : state.child.isOver = false) (next : Supervision σ → Supervision σ) :
    state.waitThen next = state := by
  -- The wait has begun before, so that nothing is set.
  simp [waitThen, waits, Child.await_of_awaited awaited]

/-- How a supervision has ended is its stage. -/
theorem outcome?_eq_some_iff {state : Supervision σ} {outcome : Outcome} :
    state.outcome? = some outcome ↔ state.stage = .ended outcome := by
  -- The last stage keeps the outcome.
  unfold outcome?
  cases state.stage <;> simp

/-- A supervision that has ended passes over every turn. -/
theorem turn_of_ended (ops : Sink σ) (name : String) (grace : Int) {state : Supervision σ}
    (ended : state.outcome?.isSome = true) (now : Nat) (turn : Turn) :
    state.turn ops name grace now turn = state := by
  -- Every turn asks first whether it is over.
  simp [Supervision.turn, ended]

/-- A supervision that has ended stays as it is. -/
theorem run_of_ended (ops : Sink σ) (name : String) (grace : Int) {state : Supervision σ}
    (ended : state.outcome?.isSome = true) (turns : List (Nat × Turn)) :
    state.run ops name grace turns = state := by
  -- Induction on the turns.
  induction turns with
  | nil => rfl
  | cons entry rest ih => rw [run_cons, turn_of_ended ops name grace ended, ih]

/-- Events after the end of a supervision change nothing. -/
theorem takeAll_of_ended (ops : Sink σ) (name : String) (grace : Int) {state : Supervision σ}
    (ended : state.outcome?.isSome = true) (events : List (Nat × Event)) :
    state.takeAll ops name grace events = state := by
  -- Induction on the events, each of which is some turns.
  induction events with
  | nil => rfl
  | cons event rest ih => rw [takeAll_cons, take, run_of_ended ops name grace ended, ih]

/-- A pump that is over, and behind it so much of the output that no more of it is let in. -/
structure Stuck (state : Supervision σ) : Prop where
  past : state.pump.state.isOver = true
  unclosed : state.child.inflow.closed = false
  paused : state.child.inflow.paused = true
  long : resumeLimit < state.child.inflow.unread.length

/-- Whatever becomes of the server, no more of its output is let in, nor the end of that noticed. -/
theorem Stuck.note {state : Supervision σ} (stuck : Stuck state) (notice : Notice) :
    Stuck { state with child := state.child.note notice } := by
  -- Prints are only let in where the output is not paused, and the end is not noticed where it is.
  obtain ⟨past, unclosed, paused, long⟩ := stuck
  cases notice with
  | connected | vanished code | told => exact ⟨past, unclosed, paused, long⟩
  | closed =>
    rw [Child.note_closed_of_paused paused]
    exact ⟨past, unclosed, paused, long⟩
  | printed bytes =>
    cases connected : state.child.connected with
    | false =>
      have same : state.child.note (.printed bytes) = state.child := by
        simp [Child.note, connected]
      rw [same]
      exact ⟨past, unclosed, paused, long⟩
    | true =>
      -- What arrives all the same comes after what lies unread.
      have arrives : state.child.note (.printed bytes)
          = { state.child with inflow := state.child.inflow.arrive bytes } := by
        simp [Child.note, connected]
      rw [arrives]
      refine ⟨past, unclosed, by simp [Inflow.arrive, paused], ?_⟩
      simp only [Inflow.arrive, List.length_append]
      omega

/-- A pump that is over leaves what lies unread. -/
theorem Stuck.advance {state : Supervision σ} (stuck : Stuck state) (ops : Sink σ) :
    state.advance ops = state := by
  -- Nothing is taken, so that everything is kept.
  have inflow := Inflow.keep_unread stuck.paused stuck.long
  simp [Supervision.advance, Pump.advance_of_isOver ops stuck.past, inflow, stuck.past]

/-- A server that is waited for, whose output was connected and is not known to have ended. -/
structure Waited (exit : Option Int) (state : Supervision σ) : Prop where
  stage : state.stage = .serving
  connected : state.child.connected = true
  awaited : state.child.awaited = true
  gone : state.child.gone = exit
  told : state.child.exitCode = exit

/-- What a supervised server has come to that is waited for, has printed some bytes, and whose
output is not known to have ended. -/
structure Serving (ops : Sink σ) (sink : σ) (base : List LogRecord) (bytes : List UInt8)
    (exit : Option Int) (state : Supervision σ) : Prop extends Waited exit state where
  unclosed : state.child.inflow.closed = false
  /-- The pump has carried what was printed. -/
  pump : state.pump = (Pump.advance ops { sink } bytes).pump
  logs : state.logs = base ++ (Pump.advance ops { sink } bytes).logs
  /-- A pump that goes on has taken all that it can take. -/
  left : state.pump.state = .running →
    state.child.inflow.unread = (Pump.advance ops { sink } bytes).rest ∧
      state.child.inflow.paused = false
  short : state.child.inflow.unread.length ≤ bytes.length
  /-- No more is let in only while a lot lies unread. -/
  full : state.child.inflow.paused = true →
    resumeLimit < state.child.inflow.unread.length ∧ inflowLimit < bytes.length

/-- What a supervised server has come to whose output has ended before its exit. -/
structure Drained (ops : Sink σ) (sink : σ) (base : List LogRecord) (bytes : List UInt8)
    (exit : Option Int) (state : Supervision σ) : Prop extends Waited exit state where
  closed : state.child.inflow.closed = true
  pump : state.pump = (Pump.carryAll ops sink bytes).1
  logs : state.logs = base ++ (Pump.carryAll ops sink bytes).2

/-- How a server that has exited by itself ends, by what its pump has come to. -/
def conclusion (pump : Pump σ) (code : Int) : Outcome :=
  -- A failure of the pump goes before the exit.
  match pump.state with
  | .failed failure => .failed failure
  | _ => .exited code

/-- The exit of a server is told once its pump has flushed the sink. -/
theorem conclusion_of_finished {pump : Pump σ} (finished : pump.state = .finished) (code : Int) :
    conclusion pump code = .exited code := by
  -- The pump has no failure to tell.
  rw [conclusion, finished]

/-- The failure of the pump of a server is told in place of its exit. -/
theorem conclusion_of_failed {pump : Pump σ} {failure : Failure}
    (failed : pump.state = .failed failure) (code : Int) :
    conclusion pump code = .failed failure := by
  -- The pump has a failure to tell.
  rw [conclusion, failed]

/-- What is logged of that. -/
def conclusionLogs (name : String) (pump : Pump σ) (code : Int) : List LogRecord :=
  -- The exit is logged where it is told.
  match pump.state with
  | .failed _ => []
  | _ => [.error (name ++ " server exited with code " ++ toString code)]

/-- What the supervision of a server has come to that has exited and whose output has ended. -/
structure Concluded (ops : Sink σ) (name : String) (sink : σ) (base : List LogRecord)
    (bytes : List UInt8) (code : Int) (state : Supervision σ) : Prop where
  outcome : state.outcome? = some (conclusion (Pump.carryAll ops sink bytes).1 code)
  pump : state.pump = (Pump.carryAll ops sink bytes).1
  logs : state.logs = base ++ (Pump.carryAll ops sink bytes).2
    ++ conclusionLogs name (Pump.carryAll ops sink bytes).1 code

/-- What a supervised server has come to that nobody gives up, by what has come of it. -/
inductive Attended (ops : Sink σ) (name : String) (sink : σ) (base : List LogRecord) (seen : Seen)
    (state : Supervision σ) : Prop
  /-- If the output was closed, that was not noticed. -/
  | serving (serving : Serving ops sink base seen.bytes seen.exit state)
    (unnoticed : seen.closed = true → state.child.inflow.paused = true)
  | drained (drained : Drained ops sink base seen.bytes none state) (running : seen.exit = none)
    (closed : seen.closed = true)
  | concluded {code : Int} (concluded : Concluded ops name sink base seen.bytes code state)
    (exit : seen.exit = some code) (closed : seen.closed = true)

section Steps

variable {ops : Sink σ} {name : String} {grace : Int} {sink : σ} {base : List LogRecord}
  {bytes : List UInt8} {exit : Option Int} {state : Supervision σ}

/-- A server that is waited for has not ended. -/
theorem Waited.outcome? (waited : Waited exit state) : state.outcome? = none := by
  -- The stage is that of waiting.
  simp [Supervision.outcome?, waited.stage]

/-- What is noted of a server that is waited for. -/
theorem Waited.turn_noted (waited : Waited exit state) (now : Nat) (notice : Notice) :
    state.turn ops name grace now (.noted notice)
      = { state with child := state.child.note notice } := by
  -- The supervision has not ended, so it notes what is told.
  simp [Supervision.turn, waited.outcome?]

/-- What the pump of a server does that is waited for. -/
theorem Waited.turn_pumped (waited : Waited exit state) (now : Nat) :
    state.turn ops name grace now .pumped = state.advance ops := by
  -- The pump is run as long as the server is waited for.
  simp [Supervision.turn, waited.outcome?, waited.stage, Stage.isPumping]

/-- How the supervision of a server goes on that is waited for. -/
theorem Waited.turn_resumed (waited : Waited exit state) (now : Nat) :
    state.turn ops name grace now .resumed = state.waitThen (drain name) := by
  -- The wait leads on to the pump.
  simp [Supervision.turn, waited.outcome?, resume, waited.stage]

/-- The pump of a server takes what is printed as it would have taken it with all that was printed
before. -/
theorem Serving.advance_unread (serving : Serving ops sink base bytes exit state)
    (more : List UInt8) :
    let first := Pump.advance ops { sink } bytes
    (Pump.advance ops { sink } (bytes ++ more)).Follows first
      (state.pump.advance ops (state.child.inflow.unread ++ more)) := by
  -- The pump has stopped and leaves everything, or it goes on and has kept what it could not take.
  intro first
  have follows := Pump.advance_append ops { sink } bytes more
  dsimp only at follows
  rw [← serving.pump] at follows
  by_cases running : state.pump.state = .running
  · rw [(serving.left running).1]
    exact follows
  · -- What the pump would not take makes no difference.
    have halted := Pumping.isOver_of_ne_running running
    rw [Pump.advance_of_isOver ops halted] at follows ⊢
    exact ⟨follows.pump, follows.logs, fun again => absurd again running⟩

/-- What a server prints is carried as far as it can be. -/
theorem Serving.printed (serving : Serving ops sink base bytes exit state) (time : Nat)
    (more : List UInt8) :
    Serving ops sink base (bytes ++ more) exit
      (state.take ops name grace (time, .printed more)) := by
  -- The print is let in and taken in the same event, so the invariant is shown for what the pump
  -- leaves.
  have follows := serving.advance_unread more
  generalize taken : state.pump.advance ops (state.child.inflow.unread ++ more) = progress at follows
  have shorter : progress.rest.length ≤ state.child.inflow.unread.length + more.length := by
    rw [← taken, ← List.length_append]
    exact Pump.length_rest_advance ..
  have noted : Waited exit { state with child := state.child.note (.printed more) } := by
    obtain ⟨stage, connected, awaited, gone, told⟩ := serving.toWaited
    constructor <;> simp [Child.note, stage, connected, awaited, gone, told]
  have result : state.take ops name grace (time, .printed more) =
      { state with
        child := { state.child with
          inflow := (state.child.inflow.arrive more).keep progress.rest }
        pump := progress.pump, logs := state.logs ++ progress.logs } := by
    rw [take]
    simp only [Event.turns, List.map_cons, List.map_nil, run_cons, run_nil]
    rw [serving.turn_noted, noted.turn_pumped]
    simp [Supervision.advance, Child.note, serving.connected, Inflow.arrive, taken, Inflow.keep,
      serving.unclosed]
  rw [result]
  exact {
    stage := serving.stage, connected := serving.connected, awaited := serving.awaited
    gone := serving.gone, told := serving.told, unclosed := serving.unclosed
    pump := follows.pump.symm
    logs := by rw [serving.logs, List.append_assoc, ← follows.logs]
    left := fun running => by
      have few := Pump.length_rest_of_running ops { sink } (bytes ++ more)
        (by rw [follows.pump]; exact running)
      refine ⟨(follows.rest running).symm, ?_⟩
      rw [follows.rest running] at few
      -- A rest that the pump can still hold is short enough for more to be let in.
      have fits : ¬resumeLimit < progress.rest.length := Nat.not_lt.mpr few
      simp [Inflow.keep, fits]
    short := by
      have before := serving.short
      simp only [Inflow.keep, List.length_append]
      omega
    full := fun paused => by
      have before := serving.full
      have short := serving.short
      simp only [Inflow.keep, Inflow.arrive, List.length_append, Bool.and_eq_true, Bool.or_eq_true,
        decide_eq_true_eq] at paused ⊢
      obtain ⟨paused | many, long⟩ := paused
      · have := (before paused).2
        exact ⟨long, by omega⟩
      · exact ⟨long, by omega⟩ }

/-- The exit of a server is not enough for a wait that has begun before. -/
theorem Serving.exited (serving : Serving ops sink base bytes none state) (time : Nat)
    (code : Int) :
    Serving ops sink base bytes (some code) (state.take ops name grace (time, .exited code)) := by
  -- The wait that has begun needs the end of the output as well.
  obtain ⟨stage, connected, awaited, gone, told⟩ := serving.toWaited
  have result : state.take ops name grace (time, .exited code) =
      { state with child := { state.child with gone := some code, exitCode := some code } } := by
    simp [take, Event.turns, Supervision.turn, Supervision.outcome?, stage, resume, waitThen,
      Child.isOver, Child.note, gone, awaited, serving.unclosed, Child.await]
  rw [result]
  exact { serving with gone := rfl, told := rfl }

/-- Where no more of the output of a server is let in, its pump is over: one that went on would have
taken what lies unread. -/
theorem Serving.stuck (serving : Serving ops sink base bytes exit state)
    (paused : state.child.inflow.paused = true) : Stuck state where
  -- Paused means that too much lay unread, and a running pump leaves less.
  past := Pumping.isOver_of_ne_running fun running => by simp [(serving.left running).2] at paused
  unclosed := serving.unclosed
  paused := paused
  long := (serving.full paused).1

/-- The end of the output is not noticed while too much of it lies unread. -/
theorem Serving.closed_of_paused (serving : Serving ops sink base bytes exit state)
    (paused : state.child.inflow.paused = true) (time : Nat) :
    state.take ops name grace (time, .closed) = state := by
  -- Neither the notice nor the pump nor the wait changes anything.
  obtain ⟨stage, connected, awaited, gone, told⟩ := serving.toWaited
  have same := Child.note_closed_of_paused paused
  have kept := (serving.stuck paused).advance ops
  have waits : state.waitThen (drain name) = state :=
    waitThen_of_awaited awaited (by simp [Child.isOver, awaited, serving.unclosed]) _
  rw [take]
  simp only [Event.turns, List.map_cons, List.map_nil, run_cons, run_nil]
  rw [serving.turn_noted, same, serving.turn_pumped, kept, serving.turn_resumed, waits]

/-- Once the end of the output has come, the pump has carried everything. -/
theorem Serving.advance_closed (serving : Serving ops sink base bytes exit state) :
    let ended : Supervision σ :=
      { state with child := { state.child with
          inflow := { state.child.inflow with closed := true } } }
    Drained ops sink base bytes exit (ended.advance ops) := by
  -- A running pump takes what is left and flushes; one that is over has taken all that it ever
  -- will.
  intro ended
  obtain ⟨stage, connected, awaited, gone, told⟩ := serving.toWaited
  have waited (inflow : Inflow) (pump : Pump σ) (logs : List LogRecord) :
      Waited exit { state with child := { state.child with inflow }, pump, logs } :=
    ⟨stage, connected, awaited, gone, told⟩
  by_cases running : state.pump.state = .running
  · -- The pump finds nothing more than what it has left before, and writes that as the last line.
    have follows := serving.advance_unread []
    rw [List.append_nil, List.append_nil] at follows
    generalize taken : state.pump.advance ops state.child.inflow.unread = progress at follows
    have same : progress.pump = state.pump := follows.pump.symm.trans serving.pump.symm
    have nothing : progress.logs = [] := by simpa using follows.logs
    have rest := follows.rest (by rw [same, running])
    have goes : state.pump.state.isOver = false := by rw [running]; rfl
    have result : ended.advance ops =
        { state with
          child := { state.child with
            inflow := ({ state.child.inflow with closed := true }.keep progress.rest).keep [] }
          pump := (state.pump.close ops progress.rest).1
          logs := state.logs ++ (state.pump.close ops progress.rest).2 } := by
      simp [ended, Supervision.advance, taken, Inflow.keep, goes, nothing, same]
    rw [result]
    exact {
      toWaited := waited ..
      closed := rfl
      pump := by rw [Pump.carryAll, ← serving.pump, rest]
      logs := by rw [Pump.carryAll, ← serving.pump, rest, serving.logs, List.append_assoc] }
  · -- A pump that has failed before passes over the end.
    have halted := Pumping.isOver_of_ne_running running
    have past : (Pump.advance ops { sink } bytes).pump.state.isOver = true := by
      rw [← serving.pump, halted]
    have whole := Pump.carryAll_of_isOver ops sink past
    have result : ended.advance ops =
        { state with
          child := { state.child with
            inflow := { state.child.inflow with closed := true }.keep state.child.inflow.unread } } := by
      simp [ended, Supervision.advance, Pump.advance_of_isOver ops halted, halted]
    rw [result]
    exact {
      toWaited := waited ..
      closed := rfl
      pump := by rw [whole, serving.pump]
      logs := by rw [whole, serving.logs] }

/-- The supervision of a server whose output has ended goes on waiting for its exit. -/
theorem Drained.resumed_running (drained : Drained ops sink base bytes none state) (now : Nat) :
    state.turn ops name grace now .resumed = state := by
  -- The exit is not told yet.
  rw [drained.turn_resumed]
  exact waitThen_of_awaited drained.awaited (by simp [Child.isOver, drained.told]) _

/-- The supervision of a server whose output has ended ends with its exit. -/
theorem Drained.resumed_exited {code : Int}
    (drained : Drained ops sink base bytes (some code) state) (now : Nat) :
    Concluded ops name sink base bytes code (state.turn ops name grace now .resumed) := by
  -- The pump has carried everything, so that it is over, and how it is over decides.
  have halted : state.pump.state.isOver = true := by
    rw [drained.pump]
    exact Pump.isOver_close ops _ _
  rw [drained.turn_resumed]
  simp only [waitThen, Child.isOver, drained.told, drained.closed, Option.isSome_some, Bool.true_or,
    Bool.and_self, if_true, drain, conclude]
  cases past : state.pump.state with
  | running => simp [past, Pumping.isOver] at halted
  | finished | failed failure =>
    constructor <;>
      simp [Supervision.outcome?, conclusion, conclusionLogs, ← drained.pump, past, drained.logs,
        Supervision.log]

/-- What a server has come to decides what the end of its output makes of it. -/
theorem Serving.closed (serving : Serving ops sink base bytes exit state)
    (noticed : state.child.inflow.paused = false) (time : Nat) :
    ∃ drained, Drained ops sink base bytes exit drained ∧
      state.take ops name grace (time, .closed)
        = drained.turn ops name grace time .resumed := by
  -- The end is noticed and taken by the pump, and then the supervision goes on.
  have same : state.child.note .closed =
      { state.child with inflow := { state.child.inflow with closed := true } } := by
    simp [Child.note, serving.connected, Inflow.finish, noticed]
  have noted : Waited exit { state with child := { state.child with
      inflow := { state.child.inflow with closed := true } } } := by
    obtain ⟨stage, connected, awaited, gone, told⟩ := serving.toWaited
    exact ⟨stage, connected, awaited, gone, told⟩
  refine ⟨_, serving.advance_closed, ?_⟩
  rw [take]
  simp only [Event.turns, List.map_cons, List.map_nil, run_cons, run_nil]
  rw [serving.turn_noted, same, noted.turn_pumped]

/-- The exit of a server whose output has ended is what was waited for. -/
theorem Drained.exited (drained : Drained ops sink base bytes none state) (time : Nat)
    (code : Int) :
    Concluded ops name sink base bytes code (state.take ops name grace (time, .exited code)) := by
  -- The output has ended, so the exit was the last thing to wait for.
  obtain ⟨stage, connected, awaited, gone, told⟩ := drained.toWaited
  have next : Drained ops sink base bytes (some code)
      { state with child := { state.child with gone := some code, exitCode := some code } } :=
    { drained with gone := rfl, told := rfl }
  have result : state.take ops name grace (time, .exited code) =
      Supervision.turn ops name grace
        { state with child := { state.child with gone := some code, exitCode := some code } } time
        .resumed := by
    simp [take, Event.turns, Supervision.turn, Supervision.outcome?, stage, Child.note, gone]
  rw [result]
  exact next.resumed_exited time

end Steps

section Runs

variable {ops : Sink σ} {name : String} {grace : Int} {sink : σ} {base : List LogRecord}
  {seen : Seen} {state : Supervision σ}

/-- What an attended server has come to holds after a print as well. -/
theorem Attended.printed (attended : Attended ops name sink base seen state)
    (unclosed : seen.closed = false) (time : Nat) (bytes : List UInt8) :
    Attended ops name sink base { seen with bytes := seen.bytes ++ bytes }
      (state.take ops name grace (time, .printed bytes)) := by
  -- A print can only come before the end of the output.
  cases attended with
  | serving serving => exact .serving (serving.printed time bytes) (by simp [unclosed])
  | drained _ _ closed | concluded _ _ closed => simp [unclosed] at closed

/-- What an attended server has come to holds after its exit as well. -/
theorem Attended.exited (attended : Attended ops name sink base seen state)
    (running : seen.exit = none) (time : Nat) (code : Int) :
    Attended ops name sink base { seen with exit := some code }
      (state.take ops name grace (time, .exited code)) := by
  -- The exit ends the supervision where the output has ended, and is only noted elsewhere.
  cases attended with
  | serving serving unnoticed =>
    rw [running] at serving
    refine .serving (serving.exited time code) fun closed => ?_
    -- Nothing is let in again by that.
    obtain ⟨stage, connected, awaited, gone, told⟩ := serving.toWaited
    simpa [take, Event.turns, Supervision.turn, Supervision.outcome?, stage, resume, waitThen,
      Child.isOver, Child.note, gone, awaited, serving.unclosed, Child.await] using unnoticed closed
  | drained drained _ closed => exact .concluded (drained.exited time code) rfl closed
  | concluded _ exit => cases running.symm.trans exit

/-- What an attended server has come to holds after the end of its output as well. -/
theorem Attended.closed (attended : Attended ops name sink base seen state)
    (unclosed : seen.closed = false) (time : Nat) :
    Attended ops name sink base { seen with closed := true }
      (state.take ops name grace (time, .closed)) := by
  -- The end is not noticed where the output is paused, and otherwise ends the pump.
  cases attended with
  | serving serving =>
    cases paused : state.child.inflow.paused with
    | true =>
      rw [serving.closed_of_paused paused]
      exact .serving serving fun _ => paused
    | false =>
      obtain ⟨drained, facts, result⟩ : ∃ drained, Drained ops sink base seen.bytes seen.exit drained ∧
          state.take ops name grace (time, .closed)
            = drained.turn ops name grace time .resumed := serving.closed paused time
      rw [result]
      cases exit : seen.exit with
      | none =>
        rw [exit] at facts
        rw [facts.resumed_running]
        exact .drained facts rfl rfl
      | some code =>
        rw [exit] at facts
        exact .concluded (facts.resumed_exited time) rfl rfl
  | drained _ _ closed | concluded _ _ closed => simp [unclosed] at closed

/-- Whatever comes of an attended server, what it has come to is known. -/
theorem Attended.takeAll {last : Seen} {events : List (Nat × Event)}
    (brings : Brings seen events last) (attended : Attended ops name sink base seen state) :
    Attended ops name sink base last (state.takeAll ops name grace events) := by
  -- Each event takes one step.
  induction brings generalizing state with
  | nothing => exact attended
  | printed time bytes unclosed _ ih => exact ih (attended.printed unclosed time bytes)
  | exited time code running _ ih => exact ih (attended.exited running time code)
  | closed time unclosed _ ih => exact ih (attended.closed unclosed time)

/-- What two supervisions have in common that come to the same for whoever waits for them. -/
structure Alike (first second : Supervision σ) : Prop where
  outcome : first.outcome? = second.outcome?
  pump : first.pump = second.pump
  logs : first.logs = second.logs

/-- What is alike to something that is alike to a third. -/
theorem Alike.trans {first second third : Supervision σ} (alike : Alike first second)
    (more : Alike second third) : Alike first third :=
  -- Each of the three parts is the same for both.
  ⟨alike.outcome.trans more.outcome, alike.pump.trans more.pump, alike.logs.trans more.logs⟩

/-- A server that is waited for in vain, killed or not. -/
structure Jammed (state : Supervision σ) : Prop extends Stuck state where
  stage : state.stage = .serving ∨ state.stage = .killing
  awaited : state.child.awaited = true

/-- The supervision of such a server has not ended. -/
theorem Jammed.outcome? (jammed : Jammed state) : state.outcome? = none := by
  -- Neither stage is an end.
  rcases jammed.stage with stage | stage <;> simp [Supervision.outcome?, stage]

/-- Going on leads nowhere where a server is waited for in vain. -/
theorem Jammed.resume (jammed : Jammed state) : state.resume name = state := by
  -- The wait needs the end of the output, which is not noticed.
  have waits : state.child.isOver = false := by
    simp [Child.isOver, jammed.awaited, jammed.unclosed]
  rcases jammed.stage with stage | stage
  · simpa [Supervision.resume, stage] using waitThen_of_awaited jammed.awaited waits (drain name)
  · simpa [Supervision.resume, stage] using waitThen_of_awaited jammed.awaited waits (dismiss name)

/-- As long as nobody gives it up, such a server is left as it is for whoever waits. -/
theorem Jammed.turn (jammed : Jammed state) {turn : Turn} (waiting : turn.givesUp = false)
    (now : Nat) :
    Jammed (state.turn ops name grace now turn) ∧
      Alike (state.turn ops name grace now turn) state := by
  -- No turn brings the end of the output any nearer, or starts the pump again.
  have same {next : Supervision σ} (still : next = state) : Jammed next ∧ Alike next state := by
    rw [still]
    exact ⟨jammed, rfl, rfl, rfl⟩
  have going := jammed.outcome?
  cases turn with
  | noted notice =>
    have noted : state.turn ops name grace now (.noted notice)
        = { state with child := state.child.note notice } := by
      simp [Supervision.turn, going]
    rw [noted]
    exact ⟨⟨jammed.toStuck.note notice, jammed.stage, by simp [jammed.awaited]⟩, rfl, rfl, rfl⟩
  | pumped =>
    refine same ?_
    simp only [Supervision.turn, going, Option.isSome_none, Bool.false_eq_true, if_false]
    split
    · exact jammed.toStuck.advance ops
    · rfl
  | resumed => exact same (by simpa [Supervision.turn, going] using jammed.resume)
  | cancelled refused => cases waiting
  | graceOver =>
    -- The clock strikes only for a server that has been asked to terminate and not been killed.
    refine same ?_
    rcases jammed.stage with stage | stage <;> simp [Supervision.turn, going, stage]

/-- A server that is waited for in vain stays so as long as nobody gives it up. -/
theorem Jammed.run (jammed : Jammed state) {turns : List (Nat × Turn)}
    (waiting : ∀ entry ∈ turns, entry.2.givesUp = false) :
    Jammed (state.run ops name grace turns) ∧ Alike (state.run ops name grace turns) state := by
  -- Induction on the turns, of which each leaves the server as it is waited for.
  induction turns generalizing state with
  | nil => exact ⟨jammed, rfl, rfl, rfl⟩
  | cons entry rest ih =>
    obtain ⟨first, others⟩ := List.forall_mem_cons.mp waiting
    obtain ⟨still, alike⟩ : Jammed (state.turn ops name grace entry.1 entry.2) ∧
        Alike (state.turn ops name grace entry.1 entry.2) state := jammed.turn first entry.1
    obtain ⟨ends, later⟩ := ih still others
    exact ⟨ends, later.trans alike⟩

/-- Nothing that comes of such a server ends its supervision. -/
theorem Jammed.takeAll (jammed : Jammed state) (events : List (Nat × Event)) :
    Alike (state.takeAll ops name grace events) state := by
  -- Induction on the events, each of which is turns of that kind.
  induction events generalizing state with
  | nil => exact ⟨rfl, rfl, rfl⟩
  | cons event rest ih =>
    -- Nobody gives up in the turns of an event.
    have waiting : ∀ entry ∈ event.2.turns.map fun turn => (event.1, turn),
        entry.2.givesUp = false := by
      cases event.2 <;> simp [Event.turns, Turn.givesUp]
    obtain ⟨still, alike⟩ : Jammed (state.take ops name grace event) ∧
        Alike (state.take ops name grace event) state := jammed.run waiting
    exact (ih still).trans alike

/-- A server that can print no more is waited for in vain, unless its supervision has ended. -/
theorem Attended.jammed (attended : Attended ops name sink base seen state)
    (stuck : state.isStuck = true) : Jammed state ∨ state.outcome?.isSome = true := by
  -- The three stages are gone through; in two of them the output has ended.
  simp only [isStuck, Child.isJammed, Bool.and_eq_true, Bool.not_eq_true'] at stuck
  obtain ⟨⟨past, paused, unclosed⟩, long⟩ := stuck
  cases attended with
  | serving serving => exact .inl ⟨serving.stuck paused, .inl serving.stage, serving.awaited⟩
  | drained drained => simp [drained.closed] at unclosed
  | concluded concluded => exact .inr (by simp [concluded.outcome])

/-- A supervision that nobody gives up comes to what all events make of it, also where it follows a
server that can print no more. -/
theorem Attended.follow {last : Seen} {events : List (Nat × Event)}
    (brings : Brings seen events last) (attended : Attended ops name sink base seen state)
    (behavior : Behavior) (now : Nat) :
    Alike (Supervision.follow ops name grace behavior none now none state events).state
      (state.takeAll ops name grace events) := by
  -- The first event is taken, and then the others, by what the first has left.
  have cons {seen : Seen} {state : Supervision σ} {event : Nat × Event} {rest : List (Nat × Event)}
      (attended : Attended ops name sink base seen (state.take ops name grace event))
      (later : Alike
        (Supervision.follow ops name grace behavior none event.1 none
          (state.take ops name grace event) rest).state
        ((state.take ops name grace event).takeAll ops name grace rest)) (now : Nat) :
      Alike (Supervision.follow ops name grace behavior none now none state (event :: rest)).state
        (state.takeAll ops name grace (event :: rest)) := by
    cases ended : state.outcome?.isSome with
    | true =>
      rw [takeAll_of_ended ops name grace ended]
      simp only [Supervision.follow, ended, if_true]
      exact ⟨rfl, rfl, rfl⟩
    | false =>
      cases stuck : (state.take ops name grace event).isStuck with
      | false => simpa [Supervision.follow, ended, stuck] using later
      | true =>
        simp only [Supervision.follow, ended, Bool.false_eq_true, if_false, Option.map_none,
          Option.getD_none, stuck, if_true, outwait, takeAll_cons]
        rcases attended.jammed stuck with jammed | ended
        · have alike : Alike ((state.take ops name grace event).takeAll ops name grace rest) _ :=
            jammed.takeAll rest
          exact (jammed.takeAll _).trans ⟨alike.outcome.symm, alike.pump.symm, alike.logs.symm⟩
        · rw [takeAll_of_ended ops name grace ended, takeAll_of_ended ops name grace ended]
          exact ⟨rfl, rfl, rfl⟩
  induction brings generalizing state now with
  | nothing => exact ⟨rfl, rfl, rfl⟩
  | printed time bytes unclosed _ ih =>
    have next : Attended ops name sink base _ (state.take ops name grace (time, .printed bytes)) :=
      attended.printed unclosed time bytes
    exact cons next (ih next time) now
  | exited time code running _ ih =>
    have next : Attended ops name sink base _ (state.take ops name grace (time, .exited code)) :=
      attended.exited running time code
    exact cons next (ih next time) now
  | closed time unclosed _ ih =>
    have next : Attended ops name sink base _ (state.take ops name grace (time, .closed)) :=
      attended.closed unclosed time
    exact cons next (ih next time) now

end Runs

end Supervision

open Supervision in
/-- What is known of a server whose output has just been connected. -/
theorem Server.attended_opening {server : Server} {ops : Sink σ} {grace : Int} (sink : σ) :
    Attended ops server.name sink
      (server.announcement ++ [.info (server.name ++ " server started (PID: N)")]) {}
      ((server.supervision sink).run ops server.name grace openingTurns) := by
  -- The opening turns are followed by evaluation, and nothing has been printed by then.
  have opened : (server.supervision sink).run ops server.name grace openingTurns =
      { pump := { sink }
        child := { connected := true, awaited := true }
        stage := .serving
        logs := server.announcement ++ [.info (server.name ++ " server started (PID: N)")] } := rfl
  have nothing : Pump.advance ops { sink } [] = { pump := { sink }, rest := [] } := rfl
  rw [opened]
  refine .serving ⟨⟨rfl, rfl, rfl, rfl, rfl⟩, rfl, ?_, ?_, ?_, ?_, ?_⟩ nofun
  · rw [nothing]
  · rw [nothing]
    exact (List.append_nil _).symm
  · rw [nothing]
    exact fun _ => ⟨rfl, rfl⟩
  · exact Nat.le_refl 0
  · nofun

open Supervision in
/-- What becomes of a server that is attended until everything has come of it: its supervision has
come to what its output, its exit and the end of its output make of it. -/
theorem Server.exists_attended (server : Server) (settings : Settings) (ops : Sink σ) (sink : σ)
    {behavior : Behavior} {time : Nat} {code : Int}
    (gone : (behavior {}).gone = some (time, code)) :
    ∃ state, Alike (server.attend settings ops none sink behavior).state state ∧
      Attended ops server.name sink
        (server.announcement ++ [.info (server.name ++ " server started (PID: N)")])
        ⟨(behavior {}).printed, some code, (behavior {}).closes.isSome⟩ state := by
  -- What is attended follows the events of its process, and those bring all that it does.
  have brings := Conduct.brings_events gone
  have attended : Attended ops server.name sink _ {} ((server.supervision sink).run ops server.name
      (server.grace settings) openingTurns) := server.attended_opening sink
  exact ⟨_, attended.follow brings behavior 0, attended.takeAll brings⟩

end ModelServing.Run
