import ModelServing.Proofs.Run.ExitReport
import ModelServing.Proofs.Run.SinkView

/-! Which calls the output of a server makes on its sink. -/

namespace ModelServing.Run

variable {σ : Type}

/-- A sink that does what another one does, and keeps the calls in order. -/
def Sink.observed (ops : Sink σ) : Sink (σ × List Call) where
  -- The calls are kept beside the sink, and nothing looks at them.
  write sink piece :=
    let taken := ops.write sink.1 piece
    { state := (taken.state, sink.2 ++ [.write piece]), logs := taken.logs
      failure := taken.failure }
  flush sink :=
    let taken := ops.flush sink.1
    { state := (taken.state, sink.2 ++ [.flush]), logs := taken.logs, failure := taken.failure }

@[simp] theorem Sink.observed_write (ops : Sink σ) (sink : σ × List Call) (piece : List Char) :
    ops.observed.write sink piece =
      { state := ((ops.write sink.1 piece).state, sink.2 ++ [.write piece])
        logs := (ops.write sink.1 piece).logs, failure := (ops.write sink.1 piece).failure } := rfl

@[simp] theorem Sink.observed_flush (ops : Sink σ) (sink : σ × List Call) :
    ops.observed.flush sink =
      { state := ((ops.flush sink.1).state, sink.2 ++ [.flush])
        logs := (ops.flush sink.1).logs, failure := (ops.flush sink.1).failure } := rfl

/-- Lists of lines: each line ends in the only line feed that it holds, but for the last one, which
may hold none if it is not empty. -/
inductive AreLines : List (List UInt8) → Prop
  | nil : AreLines []
  | unended {line : List UInt8} (nonempty : line ≠ []) (unfed : 10 ∉ line) : AreLines [line]
  | ended {line : List UInt8} {rest : List (List UInt8)} (unfed : 10 ∉ line)
    (more : AreLines rest) : AreLines ((line ++ [10]) :: rest)

/-- The lines of an output are lines. -/
theorem areLines_outputLines (bytes : List UInt8) : AreLines (outputLines bytes) := by
  -- The parts before line feeds hold none, and neither does what follows the last of them.
  obtain ⟨tail, parts⟩ := List.forall_mem_cons.mp (Text.splitEnds_unended (· == 10) bytes)
  unfold outputLines
  generalize Text.splitEnds (· == 10) bytes = split at tail parts
  obtain ⟨lines, rest⟩ := split
  have unfed : ∀ {line : List UInt8}, (∀ byte ∈ line, (byte == 10) = false) → 10 ∉ line :=
    fun unended fed => by simpa using unended 10 fed
  induction lines with
  | nil =>
    cases rest with
    | nil => exact .nil
    | cons byte more => exact .unended (List.cons_ne_nil byte more) (unfed tail)
  | cons line more ih =>
    obtain ⟨first, others⟩ := List.forall_mem_cons.mp parts
    exact .ended (unfed first) (ih tail others)

/-- A sink that keeps its calls does what it would do without that. -/
theorem Sink.observed_views (ops : Sink σ) : ops.observed.Views ops Prod.fst where
  -- Forgetting the calls leaves the sink.
  write _ _ := rfl
  flush _ := rfl

/-- While a sink takes pieces of text, each is one call. -/
theorem Sink.takeAll_observed (ops : Sink σ) (sink : σ) (calls : List Call)
    (pieces : List (List Char)) :
    (ops.observed.takeAll (sink, calls) pieces).failure = (ops.takeAll sink pieces).failure ∧
    ((ops.takeAll sink pieces).failure = none →
      (ops.observed.takeAll (sink, calls) pieces).state.2 = calls ++ pieces.map .write) := by
  -- A piece that is refused ends both alike; one that is taken is a call more before the others.
  induction pieces generalizing sink calls with
  | nil => simp [takeAll]
  | cons piece rest ih =>
    cases refused : (ops.write sink piece).failure with
    | some failure => simp [takeAll, refused]
    | none =>
      obtain ⟨failure, made⟩ := ih (ops.write sink piece).state (calls ++ [.write piece])
      simp only [takeAll, observed_write, refused]
      refine ⟨failure, fun taken => ?_⟩
      simpa using made taken

/-- The calls that a pump makes on a sink that takes its writes: one write for each line before the
first that is too long, and a flush after them if there is no such line. -/
theorem Pump.deliver_calls (ops : Sink σ) (sink : σ) (lines : List (List UInt8))
    (takes : (ops.takeAll sink ((lines.takeWhile fits).map Text.Utf8.decodeLossy)).failure = none) :
    (deliver ops.observed (sink, []) lines).1.sink.2
      = ((lines.takeWhile fits).map Text.Utf8.decodeLossy).map .write
        ++ if lines.all fits then [.flush] else [] := by
  -- The writes are those that the sink takes, and the flush is the last call if it comes to that.
  obtain ⟨failure, made⟩ :=
    ops.takeAll_observed sink [] ((lines.takeWhile fits).map Text.Utf8.decodeLossy)
  have calls := made takes
  rw [takes] at failure
  simp only [deliver, failure]
  split
  · -- The flush is a call whether the sink takes it or not.
    simp only [after, Sink.observed_flush, calls]
    split <;> simp
  · simpa using calls

/-- In the end, the pump of a server has carried everything, if the output was closed. -/
theorem Supervision.Attended.pump_of_closed {ops : Sink σ} {name : String} {sink : σ}
    {base : List LogRecord} {bytes : List UInt8} {exit : Option Int} {state : Supervision σ}
    (attended : Attended ops name sink base ⟨bytes, exit, true⟩ state) :
    state.pump = (Pump.carryAll ops sink bytes).1 := by
  -- The end of the output was noticed, or it would have changed nothing.
  cases attended with
  | serving serving unnoticed =>
    -- The end of the output would have changed nothing about a pump that is over before.
    have past := (serving.stuck (unnoticed rfl)).past
    rw [serving.pump] at past ⊢
    rw [Pump.carryAll_of_isOver ops sink past]
  | drained drained => exact drained.pump
  | concluded concluded => exact concluded.pump

/-- The exit of a process whose output is closed one day is its exit. -/
theorem Conduct.exit_eq_some_iff {conduct : Conduct} {exit : Nat × Int} :
    conduct.exit = some exit ↔ conduct.gone = some exit ∧ conduct.closes.isSome = true := by
  -- An exit is told only where the output is closed one day.
  unfold Conduct.exit
  split <;> simp_all

/-- How the run of a server ends that is started and exits by itself: its supervision has come to
what is known of an attended server. -/
theorem Server.runWith_of_exit {programs : Programs} {refused : Option Errno} {server : Server}
    (settings : Settings) (ops : Sink σ) (sink : σ) {host : Host} {fs seen : Filesystem}
    {warnings : List LogRecord} {image : Image} {time : Nat} {code : Int}
    (cleared : removeStaleSocket host.fs refused server.socket = .ok (fs, warnings))
    (started : (server.request host).start fs = .ok (seen, image))
    (exits : (programs seen image (server.fullEnvironment host) {}).exit = some (time, code)) :
    let bytes := (programs seen image (server.fullEnvironment host) {}).printed
    let result := server.runWith programs refused settings ops none sink host
    ∃ state, Supervision.Attended ops server.name sink
        (server.announcement ++ [.info (server.name ++ " server started (PID: N)")])
        ⟨bytes, some code, true⟩ state ∧
      result.outcome = state.outcome? ∧ result.sink = (Pump.carryAll ops sink bytes).1.sink ∧
      result.logs = warnings ++ state.logs := by
  -- The start is settled, and what follows is a server that is attended to its end.
  intro bytes result
  obtain ⟨gone, closes⟩ := Conduct.exit_eq_some_iff.mp exits
  obtain ⟨state, alike, attended⟩ := server.exists_attended settings ops sink gone
  rw [closes] at attended
  refine ⟨state, attended, ?_⟩
  simp only [result, runWith, cleared, started, supervise, alike.outcome, alike.pump, alike.logs,
    attended.pump_of_closed]
  exact ⟨trivial, rfl, trivial⟩

/-- The sink of a server that has been started and exits by itself is called once for each line of
the output, in order, with the line's text, and then flushed once. With a line that is too long, it
is called for the lines before the first such line, and never flushed. That the calls are kept
changes nothing of the run. -/
theorem output_calls {programs : Programs} {refused : Option Errno} {server : Server}
    {settings : Settings} {ops : Sink σ} {sink : σ} {host : Host} {fs seen : Filesystem}
    {warnings : List LogRecord} {image : Image} {time : Nat} {code : Int}
    (cleared : removeStaleSocket host.fs refused server.socket = .ok (fs, warnings))
    (started : (server.request host).start fs = .ok (seen, image))
    (exits : (programs seen image (server.fullEnvironment host) {}).exit = some (time, code))
    (takes : (ops.takeAll sink (((outputLines
      (programs seen image (server.fullEnvironment host) {}).printed).takeWhile fits).map
        Text.Utf8.decodeLossy)).failure = none) :
    let bytes := (programs seen image (server.fullEnvironment host) {}).printed
    let plain := server.runWith programs refused settings ops none sink host
    let observed := server.runWith programs refused settings ops.observed none (sink, []) host
    AreLines (outputLines bytes) ∧ (outputLines bytes).flatten = bytes ∧
    ((∀ line ∈ outputLines bytes, fits line) →
      observed.sink.2
        = (outputLines bytes).map (fun line => .write (Text.Utf8.decodeLossy line)) ++ [.flush]) ∧
    (∀ before long after, outputLines bytes = before ++ long :: after →
      (∀ line ∈ before, fits line) → fits long = false →
      observed.sink.2 = before.map fun line => .write (Text.Utf8.decodeLossy line)) ∧
    observed.sink.1 = plain.sink ∧ observed.outcome = plain.outcome ∧
      observed.logs = plain.logs := by
  -- The calls are read off the pump, and keeping them is a view of the sink that a run cannot tell.
  intro bytes plain observed
  -- In the end the pump has delivered the lines of the output, whatever has become of the server.
  obtain ⟨state, _, _, kept, _⟩ :=
    Server.runWith_of_exit settings ops.observed (sink, []) cleared started exits
  rw [Pump.carryAll_eq_deliver] at kept
  have calls := Pump.deliver_calls ops sink (outputLines bytes) takes
  rw [← kept] at calls
  -- The plain run is the other one without its calls.
  have same : plain = _ :=
    ops.observed_views.runWith programs refused server settings (sink, []) host
  refine ⟨areLines_outputLines bytes, flatten_outputLines bytes, fun short => ?_, ?_,
    (congrArg Result.sink same).symm, (congrArg Result.outcome same).symm,
    (congrArg Result.logs same).symm⟩
  · have whole : (outputLines bytes).takeWhile fits = outputLines bytes :=
      List.takeWhile_eq_self_iff.mpr short
    rw [whole, List.all_eq_true.mpr short, List.map_map] at calls
    exact calls
  · intro before long after split short overlong
    -- The lines up to the long one are those before it, and not all lines are short.
    have stops : (outputLines bytes).takeWhile fits = before := by
      rw [split, List.takeWhile_append_of_pos short, List.takeWhile_cons_of_neg (by simp [overlong]),
        List.append_nil]
    have notAll : (outputLines bytes).all fits = false := by simp [split, overlong]
    rw [stops, notAll, List.map_map] at calls
    exact calls.trans (List.append_nil _)

/-- A process that prints a line, an empty line and a byte that is no text, and exits before the
last of its output. -/
def brokenOutput : Conduct where
  -- The last print comes after the exit and has no line feed.
  output := [(0, [97, 10, 10]), (2, [255])]
  gone := some (1, 3)
  closes := some 3
  files := []
  output_sorted := by simp
  output_before_close := by simp

/-- The lines reach the sink one by one, the last one without a line feed and with the byte
replaced. -/
theorem output_calls_of_broken_output :
    (echo.request { fs := .host }).start .host = .ok (.host, ⟨"echo", []⟩) ∧
      (echo.runWith (fun _ _ _ _ => brokenOutput) none {} (recorder none).observed none ({}, [])
        { fs := .host }).sink.2
        = [.write ['a', '\n'], .write ['\n'], .write ['\ufffd'], .flush] := by
  -- The output is given, so its lines are computed.
  have started : (echo.request { fs := .host }).start .host = .ok (.host, ⟨"echo", []⟩) := rfl
  obtain ⟨_, _, calls, _⟩ := @output_calls Recording (fun _ _ _ _ => brokenOutput) none echo {}
    (recorder none) {} { fs := .host } _ _ _ _ _ _ rfl started rfl (by decide +kernel)
  exact ⟨started, (calls (by decide +kernel)).trans (by decide +kernel)⟩

end ModelServing.Run
