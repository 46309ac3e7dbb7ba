import ModelServing.Proofs.Run.Serving

/-! How a run ends whose server exits by itself. -/

namespace ModelServing.Run

variable {σ : Type}

open Supervision (Attended conclusion conclusion_of_finished conclusion_of_failed)

/-- How the supervision of a server ends that has exited by itself: as its pump has, or not at
all. -/
theorem Supervision.Attended.outcome {ops : Sink σ} {name : String} {sink : σ}
    {base : List LogRecord} {bytes : List UInt8} {code : Int} {closed : Bool}
    {state : Supervision σ}
    (attended : Attended ops name sink base ⟨bytes, some code, closed⟩ state) :
    (closed = true ∧
        state.outcome? = some (conclusion (Pump.carryAll ops sink bytes).1 code)) ∨
      state.outcome? = none ∧ (closed = true → inflowLimit < bytes.length ∧
        (Pump.carryAll ops sink bytes).1.state ≠ .finished) := by
  -- The three stages that a server can be in after its exit are gone through.
  cases attended with
  | serving serving unnoticed =>
    refine .inr ⟨serving.outcome?, fun closed => ?_⟩
    have paused := unnoticed closed
    refine ⟨(serving.full paused).2, ?_⟩
    -- The pump was over before the output was, so that it cannot have flushed the sink.
    have past := (serving.stuck paused).past
    rw [serving.pump] at past
    rw [Pump.carryAll_of_isOver ops sink past]
    exact Pump.advance_ne_finished ops sink bytes
  | drained _ running => cases running
  | concluded concluded exit closed =>
    cases exit
    exact .inl ⟨closed, concluded.outcome⟩

/-- A server that has been started and exits by itself is told to have exited, with its exit code,
exactly when the last process that holds its output closes that one day, every line of the output is
short enough, and the sink takes all lines and the flush after them. Otherwise the failure of the
pump is told, or the run does not end. It does end if the output is closed and holds no more than
what is let in unread. -/
theorem exit_reported_iff {programs : Programs} {refused : Option Errno} {server : Server}
    {settings : Settings} {ops : Sink σ} {sink : σ} {host : Host} {fs seen : Filesystem}
    {warnings : List LogRecord} {image : Image} {time : Nat} {code : Int}
    (cleared : removeStaleSocket host.fs refused server.socket = .ok (fs, warnings))
    (started : (server.request host).start fs = .ok (seen, image))
    (exits : (programs seen image (server.fullEnvironment host) {}).gone = some (time, code)) :
    let conduct := programs seen image (server.fullEnvironment host) {}
    let outcome := (server.runWith programs refused settings ops none sink host).outcome
    (outcome = some (.exited code) ↔
      conduct.closes.isSome = true ∧ (∀ line ∈ outputLines conduct.printed, fits line) ∧
        ops.accepts sink ((outputLines conduct.printed).map Text.Utf8.decodeLossy)) ∧
    (outcome = some (.exited code) ∨ outcome = none ∨
      ∃ failure, (Pump.carryAll ops sink conduct.printed).1.state = .failed failure ∧
        outcome = some (.failed failure)) ∧
    (conduct.closes.isSome = true → conduct.printed.length ≤ inflowLimit → outcome ≠ none) ∧
    (conduct.closes = none → outcome = none) := by
  -- The run up to the start of the server is fixed, and what follows is the attendance.
  intro conduct outcome
  obtain ⟨state, alike, attended⟩ := server.exists_attended settings ops sink exits
  have told : outcome = state.outcome? := by
    rw [← alike.outcome]
    simp only [outcome, Server.runWith, cleared, started, Server.supervise]
  rw [told]
  have pumps := Pump.deliver_state ops sink (outputLines conduct.printed)
  rw [← Pump.carryAll_eq_deliver] at pumps
  rcases attended.outcome with ⟨closed, ended⟩ | ⟨going, unnoticed⟩
  · have never : conduct.closes ≠ none := Option.isSome_iff_ne_none.mp closed
    rcases pumps with ⟨finished, delivers⟩ | ⟨⟨failure, failed⟩, stuck⟩
    · have exited : state.outcome? = some (.exited code) :=
        ended.trans (congrArg some (conclusion_of_finished finished code))
      rw [exited]
      exact ⟨iff_of_true rfl ⟨closed, delivers⟩, .inl rfl, nofun, fun none => absurd none never⟩
    · have fails : state.outcome? = some (.failed failure) :=
        ended.trans (congrArg some (conclusion_of_failed failed code))
      rw [fails]
      exact ⟨⟨nofun, fun delivers => absurd delivers.2 stuck⟩, .inr (.inr ⟨failure, failed, rfl⟩),
        nofun, fun none => absurd none never⟩
  · rw [going]
    -- A pump that has carried everything would have noticed the end of the output.
    refine ⟨⟨nofun, ?_⟩, .inr (.inl rfl), ?_, fun _ => rfl⟩
    · rintro ⟨closed, delivers⟩
      rcases pumps with ⟨finished, -⟩ | ⟨-, stuck⟩
      · exact absurd finished (unnoticed closed).2
      · exact absurd delivers stuck
    · intro closed few
      exact absurd few (Nat.not_le.mpr (unnoticed closed).1)

/-- A server that is started from a system program. -/
def echo : Server where
  -- Nothing is set but what every server needs.
  name := "echo"
  socket := "sock"
  program := "/usr/bin/echo"

/-- A process that prints one line and exits with the code 3. -/
def oneLine : Conduct where
  -- The exit and the close come at the same time, behind the only print.
  output := [(0, [104, 105, 10])]
  gone := some (1, 3)
  closes := some 1
  files := []
  output_sorted := by simp
  output_before_close := by simp

/-- Programs that all behave like that. -/
def oneLinePrograms : Programs := fun _ _ _ _ => oneLine

/-- A line that the sink takes leaves the exit to be told. -/
theorem exit_reported_of_one_line :
    (echo.request { fs := .host }).start .host = .ok (.host, ⟨"echo", []⟩) ∧
      (echo.runWith oneLinePrograms none {} (recorder none) none {} { fs := .host }).outcome
        = some (.exited 3) := by
  -- The recorder takes the line and the flush.
  have started : (echo.request { fs := .host }).start .host = .ok (.host, ⟨"echo", []⟩) := rfl
  have told := @exit_reported_iff Recording oneLinePrograms none echo {} (recorder none) {}
    { fs := .host } _ _ _ _ _ _ rfl started rfl
  exact ⟨started, told.1.mpr (by decide +kernel)⟩

/-- A sink that refuses the only line of a server hides the server's exit. -/
theorem exit_hidden_by_sink :
    (echo.request { fs := .host }).start .host = .ok (.host, ⟨"echo", []⟩) ∧
      (oneLinePrograms .host ⟨"echo", []⟩ (echo.fullEnvironment { fs := .host }) {}).exit
        = some (1, 3) ∧
      (echo.runWith oneLinePrograms none {} (recorder (some .sinkClosed)) none {}
        { fs := .host }).outcome = some (.failed .sinkClosed) := by
  -- The pump fails on the first write, and its failure is what is told.
  obtain ⟨state, alike, attended⟩ :=
    @Server.exists_attended Recording echo {} (recorder (some .sinkClosed)) {} (fun _ => oneLine) _ _
      rfl
  refine ⟨rfl, rfl, alike.outcome.trans ?_⟩
  rcases attended.outcome with ⟨-, ended⟩ | ⟨-, unnoticed⟩
  · exact ended.trans (by decide +kernel)
  · exact absurd (unnoticed rfl).1 (by decide)

end ModelServing.Run
