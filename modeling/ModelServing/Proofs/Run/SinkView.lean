import ModelServing.Run.Server

/-! Runs with a sink that does what another one does: they differ in the sink alone. -/

namespace ModelServing.Run

variable {σ τ : Type}

/-- What a sink has made of a call, seen as another sink. -/
def Taken.map (view : σ → τ) (taken : Taken σ) : Taken τ where
  -- Logs and failures do not depend on how the state is seen.
  state := view taken.state
  logs := taken.logs
  failure := taken.failure

/-- Whether a sink does what another one does that it is seen as. -/
structure Sink.Views (fine : Sink σ) (coarse : Sink τ) (view : σ → τ) : Prop where
  write : ∀ sink piece, coarse.write (view sink) piece = (fine.write sink piece).map view
  flush : ∀ sink, coarse.flush (view sink) = (fine.flush sink).map view

/-- A pump whose sink is seen as another one. -/
def Pump.map (view : σ → τ) (pump : Pump σ) : Pump τ where
  state := pump.state
  sink := view pump.sink

@[simp] theorem Pump.map_state (view : σ → τ) (pump : Pump σ) :
    (pump.map view).state = pump.state := rfl

/-- What a pump has made of some bytes, with its sink seen as another one. -/
def Progress.map (view : σ → τ) (progress : Progress σ) : Progress τ where
  -- The bytes are the same, however the sink is seen.
  pump := progress.pump.map view
  rest := progress.rest
  logs := progress.logs

namespace Supervision

/-- A supervision whose sink is seen as another one. -/
def map (view : σ → τ) (state : Supervision σ) : Supervision τ where
  -- The pump is the only part that holds a sink.
  child := state.child
  pump := state.pump.map view
  stage := state.stage
  limit := state.limit
  signals := state.signals
  logs := state.logs

@[simp] theorem map_child (view : σ → τ) (state : Supervision σ) :
    (state.map view).child = state.child := rfl

@[simp] theorem map_stage (view : σ → τ) (state : Supervision σ) :
    (state.map view).stage = state.stage := rfl

@[simp] theorem outcome?_map (view : σ → τ) (state : Supervision σ) :
    (state.map view).outcome? = state.outcome? := rfl

@[simp] theorem isStuck_map (view : σ → τ) (state : Supervision σ) :
    (state.map view).isStuck = state.isStuck := rfl

end Supervision

section Views

variable {fine : Sink σ} {coarse : Sink τ} {view : σ → τ} (views : fine.Views coarse view)

/-- A pump goes on after a call however its sink is seen. -/
theorem Pump.after_map (next : Pumping) (taken : Taken σ) :
    after next (taken.map view) = ((after next taken).1.map view, (after next taken).2) := by
  -- The call is refused or it is not.
  cases refused : taken.failure <;> simp [after, Taken.map, refused, map]

include views

/-- Lines are carried alike. -/
theorem Sink.Views.carry (sink : σ) (tail : List UInt8) (lines : List (List UInt8)) :
    Pump.carry coarse (view sink) tail lines = (Pump.carry fine sink tail lines).map view := by
  -- A line that is too long or refused stops both.
  induction lines generalizing sink with
  | nil =>
    by_cases long : lineLimit < tail.length <;> simp [Pump.carry, long, Progress.map, Pump.map]
  | cons line rest ih =>
    by_cases long : lineLimit < line.length
    · simp [Pump.carry, long, Progress.map, Pump.map]
    · simp only [Pump.carry, long, if_false, views.write]
      cases refused : (fine.write sink (Text.Utf8.decodeLossy (line ++ [10]))).failure with
      | some failure => simp [Taken.map, refused, Progress.map, Pump.map]
      | none => simp [Taken.map, refused, ih, Progress.map]

/-- What lies ready is taken alike. -/
theorem Sink.Views.advance (pump : Pump σ) (bytes : List UInt8) :
    Pump.advance coarse (pump.map view) bytes = (Pump.advance fine pump bytes).map view := by
  -- A pump that is over takes nothing, and one that runs carries lines, which both sinks take
  -- alike.
  cases running : pump.state with
  | running => simpa [Pump.advance, Pump.map, running] using views.carry pump.sink _ _
  | finished | failed failure => simp [Pump.advance, Pump.map, running, Progress.map]

/-- The end of an output is taken alike. -/
theorem Sink.Views.close (pump : Pump σ) (rest : List UInt8) :
    Pump.close coarse (pump.map view) rest
      = ((Pump.close fine pump rest).1.map view, (Pump.close fine pump rest).2) := by
  -- The end of the output is a flush, or a write and a flush.
  have flushed (sink : σ) : Pump.after .finished (coarse.flush (view sink))
      = ((Pump.after .finished (fine.flush sink)).1.map view,
        (Pump.after .finished (fine.flush sink)).2) := by
    rw [views.flush, Pump.after_map]
  unfold Pump.close
  cases running : pump.state with
  | finished | failed failure => simp [Pump.map, running]
  | running =>
    cases rest with
    | nil => simpa [Pump.map, running] using flushed pump.sink
    | cons byte more =>
      -- What is left is written, and unless that fails the sink is flushed.
      simp only [Pump.map, running, views.write, Pump.after_map]
      generalize Pump.after .finished (fine.write pump.sink _) = written
      cases wrote : written.1.state with
      | finished =>
        simp only [flushed]
        rfl
      | running | failed failure => simp [wrote]

/-- What has arrived is taken alike. -/
theorem Sink.Views.supervision_advance (state : Supervision σ) :
    (state.map view).advance coarse = (state.advance fine).map view := by
  -- Both have the same unread bytes, so that they come to the end of the output together.
  have taken : Pump.advance coarse (state.map view).pump state.child.inflow.unread = _ :=
    views.advance state.pump state.child.inflow.unread
  unfold Supervision.advance
  simp only [Supervision.map_child, taken]
  -- The end of the output counts for both or for neither.
  by_cases ends : ((state.child.inflow.keep (Pump.advance fine state.pump
      state.child.inflow.unread).rest).closed && !(Pump.advance fine state.pump
      state.child.inflow.unread).pump.state.isOver) = true
  · simp only [Progress.map, Pump.map_state, ends, if_true, views.close]
    rfl
  · simp only [Progress.map, Pump.map_state, ends, Bool.false_eq_true, if_false]
    rfl

omit views

/-- How a supervision goes on does not hang on the sink. -/
theorem Supervision.resume_map (name : String) (state : Supervision σ) :
    (state.map view).resume name = (state.resume name).map view := by
  -- The stages, the waits and the ends are gone through, none of which calls a sink.
  have concludes (state : Supervision σ) :
      (state.map view).conclude name = (state.conclude name).map view := by
    cases exit : state.child.exitCode <;> cases past : state.pump.state <;>
      simp [conclude, map, Pump.map, exit, past, log]
  have waits {next : Supervision σ → Supervision σ} {other : Supervision τ → Supervision τ}
      (same : ∀ state, other (state.map view) = (next state).map view) (state : Supervision σ) :
      (state.map view).waitThen other = (state.waitThen next).map view := by
    cases past : state.child.isOver with
    | true => simpa [waitThen, past] using same state
    | false => simp [waitThen, past, map]
  have drains (state : Supervision σ) :
      (state.map view).drain name = (state.drain name).map view :=
    concludes { state with stage := .draining }
  have dismisses (state : Supervision σ) :
      (state.map view).dismiss name = (state.dismiss name).map view := by
    cases past : state.pump.state <;> simp [dismiss, map, Pump.map, past, log, abandon]
  have leaves (state : Supervision σ) : (state.map view).abandon = state.abandon.map view := rfl
  unfold resume
  rw [map_stage]
  cases state.stage with
  | starting =>
    cases connected : state.child.connected with
    | false => simp [connected]
    | true =>
      rw [map_child, connected]
      exact waits drains
        { state.log [.info (name ++ " server started (PID: N)")] with stage := .serving }
  | discarding => exact waits leaves state
  | serving => exact waits drains state
  | draining => exact concludes state
  | stopping | killing => exact waits dismisses state
  | ended outcome => rfl

include views

/-- An event is taken up alike. -/
theorem Sink.Views.take (name : String) (grace : Int) (event : Nat × Event)
    (state : Supervision σ) :
    (state.map view).take coarse name grace event = (state.take fine name grace event).map view := by
  -- An event is up to three turns, each of which is taken alike.
  have turns {turn : Turn} (own : turn ∈ event.2.turns) (state : Supervision σ) :
      (state.map view).turn coarse name grace event.1 turn
        = (state.turn fine name grace event.1 turn).map view := by
    unfold Supervision.turn
    rw [Supervision.outcome?_map]
    split
    · rfl
    · -- What an event comes to is noted, pumped and resumed, and never that somebody gives up.
      cases turn with
      | noted notice => rfl
      | pumped =>
        dsimp only
        rw [Supervision.map_stage]
        cases state.stage.isPumping with
        | true => exact views.supervision_advance state
        | false => rfl
      | resumed => exact Supervision.resume_map name state
      | cancelled | graceOver => cases kind : event.2 <;> simp [kind, Event.turns] at own
  have runs {entries : List Turn} (own : ∀ turn ∈ entries, turn ∈ event.2.turns)
      (state : Supervision σ) :
      (state.map view).run coarse name grace (entries.map fun turn => (event.1, turn))
        = (state.run fine name grace (entries.map fun turn => (event.1, turn))).map view := by
    induction entries generalizing state with
    | nil => rfl
    | cons turn rest ih =>
      obtain ⟨first, others⟩ := List.forall_mem_cons.mp own
      simp only [List.map_cons, Supervision.run_cons, turns first, ih others]
  exact runs (fun _ => id) state

/-- Events are taken up alike. -/
theorem Sink.Views.takeAll (name : String) (grace : Int) (events : List (Nat × Event))
    (state : Supervision σ) :
    (state.map view).takeAll coarse name grace events
      = (state.takeAll fine name grace events).map view := by
  -- Induction on the events.
  induction events generalizing state with
  | nil => rfl
  | cons event rest ih => rw [Supervision.takeAll_cons, views.take, ih, Supervision.takeAll_cons]

/-- A server that nobody gives up is followed alike. -/
theorem Sink.Views.follow (name : String) (grace : Int) (behavior : Behavior) (now : Nat)
    (state : Supervision σ) (events : List (Nat × Event)) :
    let followed := Supervision.follow fine name grace behavior none now none state events
    Supervision.follow coarse name grace behavior none now none (state.map view) events
      = { state := followed.state.map view, time := followed.time
          conduct := followed.conduct } := by
  -- Induction on the events: what has ended for one of the two has ended for the other.
  induction events generalizing now state with
  | nil => rfl
  | cons event rest ih =>
    cases ended : state.outcome?.isSome with
    | true => simp [Supervision.follow, ended]
    | false =>
      simp only [Supervision.follow, Supervision.outcome?_map, ended, Bool.false_eq_true, if_false,
        Option.map_none, Option.getD_none, views.take, Supervision.isStuck_map]
      -- Whether the server can print no more does not hang on the sink either.
      cases stuck : (state.take fine name grace event).isStuck with
      | true => simp [Supervision.outwait, views.takeAll]
      | false => simpa using ih event.1 (state.take fine name grace event)

/-- The run of a server is the same with both sinks, but for the sink that is left. -/
theorem Sink.Views.runWith (programs : Programs) (refused : Option Errno) (server : Server)
    (settings : Settings) (sink : σ) (host : Host) :
    let result := server.runWith programs refused settings fine none sink host
    server.runWith programs refused settings coarse none (view sink) host
      = { outcome := result.outcome, sink := view result.sink, logs := result.logs
          fs := result.fs } := by
  -- Up to the supervision no sink is involved, and its first turns call none.
  unfold Server.runWith
  split
  · rfl
  · split
    · rfl
    · have same : (server.supervision (view sink)).run coarse server.name (server.grace settings)
          Server.openingTurns = ((server.supervision sink).run fine server.name
            (server.grace settings) Server.openingTurns).map view := rfl
      simp only [Server.supervise, Server.attend, same, views.follow]
      rfl

end Views

end ModelServing.Run
