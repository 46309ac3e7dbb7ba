import ModelServing.Proofs.Log.LoggedLines
import ModelServing.Proofs.Run.LineDelivery
import ModelServing.Proofs.Text.LossyDecoding

/-! What is logged of the output of a server: as much as of the whole output in one piece. -/

namespace ModelServing.Run

/-- The lines of an output, decoded one by one, are the output decoded as a whole. -/
theorem decodeLossy_outputLines (bytes : List UInt8) :
    ((outputLines bytes).map Text.Utf8.decodeLossy).flatten = Text.Utf8.decodeLossy bytes := by
  -- A tail without bytes is no line, and no text either.
  have whole := Text.flatten_splitEnds 10 bytes
  have decoded := Text.Utf8.decodeLossy_lines (Text.splitEnds (· == 10) bytes).1
    (Text.splitEnds (· == 10) bytes).2
  rw [whole] at decoded
  rw [decoded, outputLines, List.map_append, List.flatten_append]
  congr 1
  cases (Text.splitEnds (· == 10) bytes).2 with
  | nil => simp [Text.Utf8.decodeLossy, Text.Utf8.readings]
  | cons byte more => simp

/-- Messages as the log of a server takes them. -/
def records (messages : List (List Char)) : List LogRecord :=
  messages.map fun line => .info (String.ofList line)

@[simp] theorem logSink_write (sink : LineSink) (piece : List Char) :
    logSink.write sink piece =
      { state := (sink.write piece).2, logs := records (sink.write piece).1 } := rfl

@[simp] theorem logSink_flush (sink : LineSink) :
    logSink.flush sink = { state := sink.flush.2, logs := records sink.flush.1 } := rfl

/-- The log takes all pieces of text, and logs their messages in order. -/
theorem takeAll_logSink (sink : LineSink) (pieces : List (List Char)) :
    logSink.takeAll sink pieces =
      { state := (sink.writeAll pieces).2, logs := records (sink.writeAll pieces).1 } := by
  -- Induction on the pieces, with the sink left open.
  induction pieces generalizing sink with
  | nil => rfl
  | cons piece rest ih => simp [Sink.takeAll, ih, LineSink.writeAll, records]

/-- Lines that are short enough are all delivered to the log, as one text and a flush after it. -/
theorem deliver_logSink {sink : LineSink} (unended : '\n' ∉ sink.held) {lines : List (List UInt8)}
    (short : ∀ line ∈ lines, fits line) :
    Pump.deliver logSink sink lines =
      let written := sink.write (lines.map Text.Utf8.decodeLossy).flatten
      let flushed := written.2.flush
      ({ state := .finished, sink := flushed.2 }, records (written.1 ++ flushed.1)) := by
  -- The pump stops at no line, and comes to the end of the output.
  have whole : lines.takeWhile fits = lines := List.takeWhile_eq_self_iff.mpr short
  have all : lines.all fits = true := List.all_eq_true.mpr short
  simp only [Pump.deliver, whole, all, if_true, takeAll_logSink,
    LineSink.writeAll_eq_write unended, Pump.after]
  simp [records]

/-- The exit of a server whose pump has finished is told and logged. -/
theorem Supervision.Attended.of_finished {σ : Type} {ops : Sink σ} {name : String} {sink : σ}
    {base : List LogRecord} {bytes : List UInt8} {code : Int} {state : Supervision σ}
    (attended : Attended ops name sink base ⟨bytes, some code, true⟩ state)
    (finished : (Pump.carryAll ops sink bytes).1.state = .finished) :
    state.outcome? = some (.exited code) ∧
      state.logs = base ++ (Pump.carryAll ops sink bytes).2
        ++ [.error (name ++ " server exited with code " ++ toString code)] := by
  -- A finished pump has noticed the end of the output, so the exit is all that is left to tell.
  rcases attended.outcome with ⟨-, ended⟩ | ⟨-, unnoticed⟩
  · refine ⟨by rw [ended, conclusion_of_finished finished], ?_⟩
    cases attended with
    | serving serving => cases serving.outcome?.symm.trans ended
    | drained drained => cases drained.outcome?.symm.trans ended
    | concluded concluded exit =>
      cases exit
      rw [concluded.logs, conclusionLogs, finished]
  · exact absurd finished (unnoticed rfl).2

/-- A server that has been started, exits by itself and prints no line that is too long is told to
have exited. Decoding its output line by line changes no character, and the log gets the messages
that a sink passes on of the whole output, decoded and written in one piece and then flushed. -/
theorem output_logged_as_whole {programs : Programs} {refused : Option Errno} {server : Server}
    {settings : Settings} {host : Host} {fs seen : Filesystem} {warnings : List LogRecord}
    {image : Image} {time : Nat} {code : Int}
    (cleared : removeStaleSocket host.fs refused server.socket = .ok (fs, warnings))
    (started : (server.request host).start fs = .ok (seen, image))
    (exits : (programs seen image (server.fullEnvironment host) {}).exit = some (time, code))
    (short : ∀ line ∈ outputLines (programs seen image (server.fullEnvironment host) {}).printed,
      fits line) :
    let bytes := (programs seen image (server.fullEnvironment host) {}).printed
    let result := server.runWith programs refused settings logSink none {} host
    let written := ({} : LineSink).write (Text.Utf8.decodeLossy bytes)
    let flushed := written.2.flush
    ((outputLines bytes).map Text.Utf8.decodeLossy).flatten = Text.Utf8.decodeLossy bytes ∧
    result.outcome = some (.exited code) ∧ result.sink = flushed.2 ∧
    result.logs = warnings ++ (server.announcement
        ++ [.info (server.name ++ " server started (PID: N)")]
        ++ records (written.1 ++ flushed.1)
        ++ [.error (server.name ++ " server exited with code " ++ toString code)]) := by
  -- Lines are decoded alike alone and together, since a line feed is no part of any other
  -- character.
  intro bytes result written flushed
  have decoded := decodeLossy_outputLines bytes
  have delivered := deliver_logSink (show '\n' ∉ ({} : LineSink).held from nofun) short
  rw [decoded] at delivered
  -- The log refuses nothing, so that the pump finishes, and the exit is told.
  obtain ⟨state, attended, outcome, sink, logs⟩ :=
    Server.runWith_of_exit settings logSink {} cleared started exits
  rw [Pump.carryAll_eq_deliver, delivered] at sink
  have carried := Pump.carryAll_eq_deliver logSink {} bytes
  rw [delivered] at carried
  obtain ⟨ended, told⟩ := attended.of_finished (by rw [carried])
  refine ⟨decoded, outcome.trans ended, sink, logs.trans ?_⟩
  rw [told, carried]

/-- A process that prints a character cut off by a line feed, a byte that continues nothing, and a
byte that is no text before a carriage return at the end. -/
def cutCharacters : Conduct where
  -- Each print cuts a character or ends one, so that the decoder meets all of its cases.
  output := [(0, [0xE2, 0x82]), (1, [10, 0xAC, 13]), (2, [10, 255, 13])]
  gone := some (1, 3)
  closes := some 3
  files := []
  output_sorted := by simp
  output_before_close := by simp

/-- Each of them is logged as one replacement character. -/
theorem output_logged_of_cut_characters :
    (echo.request { fs := .host }).start .host = .ok (.host, ⟨"echo", []⟩) ∧
      (∀ line ∈ outputLines cutCharacters.printed, fits line) ∧
      (echo.runWith (fun _ _ _ _ => cutCharacters) none {} logSink none {} { fs := .host }).logs
        = echo.announcement ++ [.info "echo server started (PID: N)", .info "\ufffd",
          .info "\ufffd", .info "\ufffd", .error "echo server exited with code 3"] := by
  -- The output is given, so its messages are computed.
  have started : (echo.request { fs := .host }).start .host = .ok (.host, ⟨"echo", []⟩) := rfl
  have short : ∀ line ∈ outputLines cutCharacters.printed, fits line := by decide +kernel
  obtain ⟨_, _, _, logs⟩ := @output_logged_as_whole (fun _ _ _ _ => cutCharacters) none echo {}
    { fs := .host } _ _ _ _ _ _ rfl started rfl short
  exact ⟨started, short, logs.trans (by decide +kernel)⟩

end ModelServing.Run
