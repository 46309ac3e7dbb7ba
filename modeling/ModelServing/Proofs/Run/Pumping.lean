import Mathlib.Data.List.TakeWhile
import ModelServing.Run.Pump

/-! What a pump makes of an output, however the output is cut into pieces. -/

namespace ModelServing.Run

variable {σ : Type}

/-- What a sink does with pieces of text in order, up to the first that it refuses. -/
def Sink.takeAll (ops : Sink σ) (sink : σ) : List (List Char) → Taken σ
  -- A refused piece is the last one, and the pieces behind it are not tried.
  | [] => { state := sink }
  | piece :: rest =>
    let taken := ops.write sink piece
    match taken.failure with
    | some _ => taken
    | none =>
      let more := takeAll ops taken.state rest
      { more with logs := taken.logs ++ more.logs }

/-- Whether a sink takes pieces of text in order, and a flush after them. -/
def Sink.accepts (ops : Sink σ) (sink : σ) (pieces : List (List Char)) : Bool :=
  (ops.takeAll sink pieces).failure.isNone &&
    (ops.flush (ops.takeAll sink pieces).state).failure.isNone

/-- The lines of an output, each with its line feed. What follows the last line feed is a line too,
unless it is empty. -/
def outputLines (bytes : List UInt8) : List (List UInt8) :=
  let (lines, tail) := Text.splitEnds (· == 10) bytes
  lines.map (· ++ [10]) ++ if tail.isEmpty then [] else [tail]

/-- Whether a line is short enough to be carried. Its line feed is not counted. -/
def fits (line : List UInt8) : Bool := (line.filter (· != 10)).length ≤ lineLimit

/-- The lines of an output make it up. -/
theorem flatten_outputLines (bytes : List UInt8) : (outputLines bytes).flatten = bytes := by
  -- An empty tail is no line, and adds nothing either.
  have whole := Text.flatten_splitEnds 10 bytes
  unfold outputLines
  generalize Text.splitEnds (· == 10) bytes = parts at whole
  obtain ⟨lines, tail⟩ := parts
  cases tail with
  | nil => simpa using whole
  | cons byte more => simpa using whole

/-- A pump that does not go on is over. -/
theorem Pumping.isOver_of_ne_running {pumping : Pumping} (halted : pumping ≠ .running) :
    pumping.isOver = true := by
  -- The other two states are those of a pump that is over.
  cases pumping with
  | running => exact absurd rfl halted
  | finished | failed failure => rfl

/-- Whether bytes that were taken as a whole were taken as in two pieces, one after the other: the
pump and the messages are the same, and if the pump goes on, then so are the bytes that are left. -/
structure Progress.Follows (whole first second : Progress σ) : Prop where
  pump : whole.pump = second.pump
  logs : whole.logs = first.logs ++ second.logs
  rest : second.pump.state = .running → whole.rest = second.rest

namespace Pump

/-- A pump that was given lines and then the end of the output: it has written the lines before the
first that is too long, as far as the sink takes them, and has flushed the sink after the last. -/
def deliver (ops : Sink σ) (sink : σ) (lines : List (List UInt8)) : Pump σ × List LogRecord :=
  -- There are three ways to come to an end: a refused write, an overlong line, and the flush.
  let taken := ops.takeAll sink ((lines.takeWhile fits).map Text.Utf8.decodeLossy)
  match taken.failure with
  | some failure => ({ state := .failed failure, sink := taken.state }, taken.logs)
  | none =>
    if lines.all fits then
      let (pump, logs) := after .finished (ops.flush taken.state)
      (pump, taken.logs ++ logs)
    else ({ state := .failed .overlongLine, sink := taken.state }, taken.logs)

/-- Whatever follows the beginning of a line that is too long already, carrying fails at that
line. -/
theorem carry_overlong (ops : Sink σ) (sink : σ) {held : List UInt8}
    (unended : ∀ byte ∈ held, (byte == 10) = false) (long : lineLimit < held.length)
    (bytes : List UInt8) :
    let whole := carry ops sink (Text.splitEnds (· == 10) (held ++ bytes)).2
      (Text.splitEnds (· == 10) (held ++ bytes)).1
    whole.pump = { state := .failed .overlongLine, sink } ∧ whole.logs = [] := by
  -- What is held starts the first line, or the tail where no line ends.
  rw [Text.splitEnds_append_of_open unended]
  rcases Text.splitEnds (· == 10) bytes with ⟨_ | ⟨line, more⟩, tail⟩
  · have longer : lineLimit < (held ++ tail).length := by
      rw [List.length_append]
      omega
    simp only [carry, longer, if_true, and_self]
  · have longer : lineLimit < (held ++ line).length := by
      rw [List.length_append]
      omega
    simp only [carry, longer, if_true, and_self]

/-- Carrying lines can be interrupted: what is left goes in front of the bytes that come next. -/
theorem carry_append (ops : Sink σ) (sink : σ) (lines : List (List UInt8)) {held : List UInt8}
    (unended : ∀ byte ∈ held, (byte == 10) = false) (bytes : List UInt8) :
    let first := carry ops sink held lines
    (carry ops sink (Text.splitEnds (· == 10) (held ++ bytes)).2
        (lines ++ (Text.splitEnds (· == 10) (held ++ bytes)).1)).Follows first
      (advance ops first.pump (first.rest ++ bytes)) := by
  -- A line that ends early stops both sides alike; without lines, what is held decides.
  induction lines generalizing sink with
  | nil =>
    by_cases long : lineLimit < held.length
    · obtain ⟨pump, logs⟩ := carry_overlong ops sink unended long bytes
      rw [List.nil_append]
      constructor
      · simpa [carry, long, advance] using pump
      · simpa [carry, long, advance] using logs
      · simp [carry, long, advance]
    · constructor <;> simp [carry, long, advance]
  | cons line rest ih =>
    by_cases long : lineLimit < line.length
    · constructor <;> simp [carry, long, advance]
    · cases refused : (ops.write sink (Text.Utf8.decodeLossy (line ++ [10]))).failure with
      | some failure => constructor <;> simp [carry, long, refused, advance]
      | none =>
        obtain ⟨pump, logs, rest⟩ := ih (ops.write sink (Text.Utf8.decodeLossy (line ++ [10]))).state
        constructor
        · simpa [carry, long, refused] using pump
        · simpa [carry, long, refused, List.append_assoc] using logs
        · simpa [carry, long, refused] using rest

/-- A pump that is over takes nothing any more. -/
theorem advance_of_isOver (ops : Sink σ) {pump : Pump σ} (halted : pump.state.isOver = true)
    (bytes : List UInt8) : advance ops pump bytes = { pump, rest := bytes } := by
  -- Only a running pump looks at the bytes.
  unfold advance
  cases state : pump.state with
  | running => simp [state, Pumping.isOver] at halted
  | finished | failed failure => rfl

/-- Taking bytes in one piece or in two comes to the same. -/
theorem advance_append (ops : Sink σ) (pump : Pump σ) (bytes more : List UInt8) :
    let first := advance ops pump bytes
    (advance ops pump (bytes ++ more)).Follows first
      (advance ops first.pump (first.rest ++ more)) := by
  -- Splitting at line feeds can be done in two steps, and carrying lines as well.
  cases running : pump.state with
  | running =>
    simp only [advance, running]
    rw [Text.splitEnds_append]
    exact carry_append ops pump.sink _
      (Text.splitEnds_unended _ _ _ List.mem_cons_self) more
  | finished | failed failure =>
    -- A pump that is over leaves both pieces.
    have halted : pump.state.isOver = true := by simp [running, Pumping.isOver]
    simp only [advance_of_isOver ops halted]
    exact ⟨rfl, rfl, fun _ => rfl⟩

/-- A pump that goes on has left no more than it can hold. -/
theorem length_rest_of_running (ops : Sink σ) (pump : Pump σ) (bytes : List UInt8)
    (running : (advance ops pump bytes).pump.state = .running) :
    (advance ops pump bytes).rest.length ≤ lineLimit := by
  -- A rest that is too long would have stopped the pump.
  have carried (sink : σ) (tail : List UInt8) (lines : List (List UInt8))
      (running : (carry ops sink tail lines).pump.state = .running) :
      (carry ops sink tail lines).rest.length ≤ lineLimit := by
    -- What is left is what follows the last line, unless a line has stopped the pump.
    induction lines generalizing sink with
    | nil =>
      by_cases long : lineLimit < tail.length
      · simp [carry, long] at running
      · simp only [carry, long, if_false]
        omega
    | cons line rest ih =>
      by_cases long : lineLimit < line.length
      · simp [carry, long] at running
      · cases refused : (ops.write sink (Text.Utf8.decodeLossy (line ++ [10]))).failure with
        | some failure => simp [carry, long, refused] at running
        | none =>
          simp only [carry, long, refused, if_false] at running ⊢
          exact ih _ running
  cases state : pump.state with
  | running =>
    simp only [advance, state] at running ⊢
    exact carried _ _ _ running
  | finished | failed failure => simp [advance, state] at running

/-- Lines with what follows them are no longer than they are in one piece. -/
theorem length_rest_carry (ops : Sink σ) (sink : σ) (tail : List UInt8)
    (lines : List (List UInt8)) :
    (carry ops sink tail lines).rest.length ≤ (joinLines tail lines).length := by
  -- What is left are the lines after the one at which the pump stops, and what follows them.
  induction lines generalizing sink with
  | nil =>
    unfold carry
    split <;> simp [joinLines]
  | cons line rest ih =>
    have shorter : (joinLines tail rest).length ≤ (joinLines tail (line :: rest)).length := by
      simp only [joinLines, List.flatMap_cons, List.length_append]
      omega
    unfold carry
    split
    · exact shorter
    · dsimp only
      split
      · exact shorter
      · exact Nat.le_trans (ih _) shorter

/-- A pump leaves no more than there was. -/
theorem length_rest_advance (ops : Sink σ) (pump : Pump σ) (bytes : List UInt8) :
    (advance ops pump bytes).rest.length ≤ bytes.length := by
  -- What is left are whole lines and what follows them, none of which is counted twice.
  cases state : pump.state with
  | running =>
    have whole : joinLines (Text.splitEnds (· == 10) bytes).2 (Text.splitEnds (· == 10) bytes).1
        = bytes := by
      simpa [joinLines, List.flatMap_def] using Text.flatten_splitEnds 10 bytes
    simp only [advance, state]
    exact Nat.le_trans (length_rest_carry ..) (Nat.le_of_eq (congrArg List.length whole))
  | finished | failed failure => simp [advance, state]

/-- Delivering a line first and then the others. -/
theorem deliver_cons (ops : Sink σ) (sink : σ) (line : List UInt8) (rest : List (List UInt8)) :
    deliver ops sink (line :: rest) =
      if fits line then
        let taken := ops.write sink (Text.Utf8.decodeLossy line)
        match taken.failure with
        | some failure => ({ state := .failed failure, sink := taken.state }, taken.logs)
        | none =>
          let (pump, logs) := deliver ops taken.state rest
          (pump, taken.logs ++ logs)
      else ({ state := .failed .overlongLine, sink }, []) := by
  -- A line that is not delivered stops the pump, whatever comes after it.
  cases short : fits line with
  | false => simp [deliver, short, Sink.takeAll]
  | true =>
    cases refused : (ops.write sink (Text.Utf8.decodeLossy line)).failure with
    | some failure => simp [deliver, short, Sink.takeAll, refused]
    | none =>
      simp only [deliver, List.takeWhile_cons, short, if_true, List.map_cons, Sink.takeAll, refused,
        List.all_cons, Bool.true_and]
      -- The rest is taken after the line, and its messages are told after those of the line.
      split
      · rfl
      · split <;> simp [List.append_assoc]

/-- A line feed at its end does not make a line any longer. -/
theorem fits_feed (line : List UInt8) : fits (line ++ [10]) = fits line := by
  -- Line feeds do not count for the limit.
  simp [fits, List.filter_append]

/-- A line without a line feed is short enough unless it is longer than the limit. -/
theorem fits_of_unended {line : List UInt8} (unended : ∀ byte ∈ line, (byte == 10) = false) :
    fits line = decide (¬lineLimit < line.length) := by
  -- All bytes of the line count.
  have kept : line.filter (· != 10) = line := by
    simpa [List.filter_eq_self] using unended
  simp [fits, kept]

/-- At the end of the output, what is left is delivered as the last line. -/
theorem close_running (ops : Sink σ) (sink : σ) {held : List UInt8}
    (unended : ∀ byte ∈ held, (byte == 10) = false) (short : ¬lineLimit < held.length) :
    close ops { sink } held = deliver ops sink (if held.isEmpty then [] else [held]) := by
  -- What is left is short enough, or the pump would have stopped.
  cases held with
  | nil => simp [close, deliver, Sink.takeAll]
  | cons byte more =>
    have fitting := fits_of_unended unended
    simp only [List.isEmpty_cons, Bool.false_eq_true, if_false, deliver_cons, fitting, short,
      not_false_eq_true, decide_true, if_true, close, after]
    cases refused : (ops.write sink (Text.Utf8.decodeLossy (byte :: more))).failure with
    | some failure => rfl
    | none => simp [deliver, Sink.takeAll, after]

/-- A pump that has carried lines and what follows them has delivered them when the output ends. -/
theorem close_carry (ops : Sink σ) (sink : σ) {tail : List UInt8} {lines : List (List UInt8)}
    (unended : ∀ line ∈ tail :: lines, ∀ byte ∈ line, (byte == 10) = false) :
    let progress := carry ops sink tail lines
    ((close ops progress.pump progress.rest).1,
        progress.logs ++ (close ops progress.pump progress.rest).2)
      = deliver ops sink (lines.map (· ++ [10]) ++ if tail.isEmpty then [] else [tail]) := by
  -- Induction on the lines, with the sink left open.
  obtain ⟨unendedTail, unendedLines⟩ := List.forall_mem_cons.mp unended
  -- Each line is carried as it is delivered; in the end the tail is closed as the last line.
  clear unended
  induction lines generalizing sink with
  | nil =>
    rw [List.map_nil, List.nil_append]
    by_cases long : lineLimit < tail.length
    · have held : tail.isEmpty = false := by
        cases tail with
        | nil => exact absurd long (Nat.not_lt_zero _)
        | cons byte more => rfl
      have overlong := fits_of_unended unendedTail
      simp [carry, close, long, held, deliver_cons, overlong]
    · rw [← close_running ops sink unendedTail long]
      simp [carry, long]
  | cons line rest ih =>
    obtain ⟨unendedLine, unendedRest⟩ := List.forall_mem_cons.mp unendedLines
    have fitting := fits_of_unended unendedLine
    have later := fun sink => ih sink unendedRest
    simp only [List.map_cons, List.cons_append, deliver_cons, fits_feed, fitting]
    by_cases long : lineLimit < line.length
    · simp [carry, long, close]
    · cases refused : (ops.write sink (Text.Utf8.decodeLossy (line ++ [10]))).failure with
      | some failure => simp [carry, long, close, refused]
      | none =>
        rw [← later]
        simp [carry, long, refused, List.append_assoc]

/-- A pump that carries a whole output delivers its lines. -/
theorem carryAll_eq_deliver (ops : Sink σ) (sink : σ) (bytes : List UInt8) :
    carryAll ops sink bytes = deliver ops sink (outputLines bytes) :=
  -- The lines of the output are those that a pump splits off, and what follows them.
  close_carry ops sink (Text.splitEnds_unended _ bytes)

/-- A pump that has stopped before the end of the output passes over that. -/
theorem carryAll_of_isOver (ops : Sink σ) (sink : σ) {bytes : List UInt8}
    (halted : (advance ops { sink } bytes).pump.state.isOver = true) :
    carryAll ops sink bytes
      = ((advance ops { sink } bytes).pump, (advance ops { sink } bytes).logs) := by
  -- There is nothing to close for a pump that has stopped.
  unfold carryAll
  generalize advance ops { sink } bytes = progress at halted
  cases state : progress.pump.state with
  | running => simp [state, Pumping.isOver] at halted
  | finished | failed failure => simp [close, state]

/-- A pump has not flushed its sink before the end of the output. -/
theorem advance_ne_finished (ops : Sink σ) (sink : σ) (bytes : List UInt8) :
    (advance ops { sink } bytes).pump.state ≠ .finished := by
  -- Only the end of an output lets a pump finish.
  have carried (tail : List UInt8) (lines : List (List UInt8)) :
      (carry ops sink tail lines).pump.state ≠ .finished := by
    -- A line is written and left behind, or stops the pump.
    induction lines generalizing sink with
    | nil =>
      unfold carry
      split <;> simp
    | cons line rest ih =>
      unfold carry
      split
      · simp
      · dsimp only
        split
        · simp
        · exact ih _
  exact carried _ _

/-- A pump that a call of its sink is to finish is over, whether the sink takes the call or not. -/
theorem isOver_after (taken : Taken σ) : (after .finished taken).1.state.isOver = true := by
  -- The pump fails or it finishes.
  unfold after
  split <;> rfl

/-- The end of the output ends a pump. -/
theorem isOver_close (ops : Sink σ) (pump : Pump σ) (rest : List UInt8) :
    (close ops pump rest).1.state.isOver = true := by
  -- A running pump flushes or fails, and any other one is over already.
  unfold close
  cases state : pump.state with
  | finished | failed => simp [state, Pumping.isOver]
  | running =>
    cases rest with
    | nil => exact isOver_after _
    | cons byte more =>
      -- What is left is written, and unless that fails the sink is flushed.
      dsimp only
      split
      · exact isOver_after _
      · exact isOver_after _

/-- A pump that was given everything is finished if every line is short enough and the sink takes
all of them and the flush, and has failed otherwise. -/
theorem deliver_state (ops : Sink σ) (sink : σ) (lines : List (List UInt8)) :
    ((deliver ops sink lines).1.state = .finished ∧ (∀ line ∈ lines, fits line) ∧
        ops.accepts sink (lines.map Text.Utf8.decodeLossy)) ∨
      ((∃ failure, (deliver ops sink lines).1.state = .failed failure) ∧
        ¬((∀ line ∈ lines, fits line) ∧ ops.accepts sink (lines.map Text.Utf8.decodeLossy))) := by
  -- If every line is short enough, it is for the sink to refuse.
  by_cases short : ∀ line ∈ lines, fits line
  · have whole : lines.takeWhile fits = lines := List.takeWhile_eq_self_iff.mpr short
    have all : lines.all fits = true := List.all_eq_true.mpr short
    simp only [deliver, whole, all, if_true, Sink.accepts, after]
    cases refused : (ops.takeAll sink (lines.map Text.Utf8.decodeLossy)).failure with
    | some failure => exact Or.inr ⟨⟨failure, rfl⟩, by simp⟩
    | none =>
      cases unflushed :
          (ops.flush (ops.takeAll sink (lines.map Text.Utf8.decodeLossy)).state).failure with
      | some failure => exact Or.inr ⟨⟨failure, rfl⟩, by simp⟩
      | none => exact Or.inl ⟨rfl, short, rfl⟩
  · -- A line that is too long stops the pump, unless the sink does so before.
    have overlong : lines.all fits = false := by
      rw [← Bool.not_eq_true, List.all_eq_true]
      exact short
    right
    refine ⟨?_, fun both => short both.1⟩
    simp only [deliver, overlong, Bool.false_eq_true, if_false]
    split
    · exact ⟨_, rfl⟩
    · exact ⟨_, rfl⟩

end Pump

end ModelServing.Run
