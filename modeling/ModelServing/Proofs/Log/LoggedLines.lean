import Mathlib.Data.List.DropRight
import ModelServing.Log.LoggerSink
import ModelServing.Run.Sink

/-! Which messages a log sink makes of the text that it is given, however the text is cut into
pieces. -/

namespace ModelServing

namespace LineSink

/-- Lines, each with the line feed that ends it, and what follows the last of them make up a
text. -/
structure Divides (text : List Char) (lines : List (List Char)) (rest : List Char) : Prop where
  whole : (lines.map (· ++ ['\n'])).flatten ++ rest = text
  unfed : ∀ line ∈ lines, '\n' ∉ line
  unended : '\n' ∉ rest

/-- Without a line feed in it, a text has no lines that have ended. -/
theorem Divides.of_unended {text : List Char} (unended : '\n' ∉ text) : Divides text [] text :=
  -- The whole text is what follows the last line feed.
  ⟨rfl, nofun, unended⟩

/-- What follows the last line of a text starts the first line of the text with more behind it. -/
theorem Divides.append {text rest more after : List Char} {lines later : List (List Char)}
    (first : Divides text lines rest) (second : Divides (rest ++ more) later after) :
    Divides (text ++ more) (lines ++ later) after where
  -- The rest of the first text is cut anew, together with what comes behind it.
  whole := by
    -- The text that is left over stands between the two, and only the second tells of it.
    rw [← first.whole, List.append_assoc, ← second.whole, List.map_append, List.flatten_append,
      List.append_assoc]
  unfed line member := by
    rcases List.mem_append.mp member with early | late
    · exact first.unfed line early
    · exact second.unfed line late
  unended := second.unended

/-- The parts before the line feeds of a text are its lines. -/
theorem divides_splitEnds (text : List Char) :
    Divides text (Text.splitEnds (· == '\n') text).1 (Text.splitEnds (· == '\n') text).2 where
  -- A split at line feeds leaves none in the parts, and loses none.
  whole := Text.flatten_splitEnds '\n' text
  unfed line member fed := by
    simpa using Text.splitEnds_unended (· == '\n') text line (List.mem_cons_of_mem _ member) '\n' fed
  unended fed := by
    simpa using Text.splitEnds_unended (· == '\n') text _ List.mem_cons_self '\n' fed

/-- No character of a text without a line feed is one. -/
theorem ne_feed {text : List Char} (unended : '\n' ∉ text) : ∀ c ∈ text, (c == '\n') = false := by
  -- A line feed among the characters would be in the text.
  intro c member
  rw [beq_eq_false_iff_ne]
  rintro rfl
  exact unended member

/-- Messages that tell lines in order: each line without the carriage returns at its end. Lines that
hold nothing else are not told. -/
inductive Tells : (lines messages : List (List Char)) → Prop
  | nil : Tells [] []
  | dropped {lines messages : List (List Char)} (count : Nat) (more : Tells lines messages) :
    Tells (List.replicate count '\r' :: lines) messages
  | told {lines messages : List (List Char)} (front : List Char) {last : Char} (kept : last ≠ '\r')
    (count : Nat) (more : Tells lines messages) :
    Tells ((front ++ [last] ++ List.replicate count '\r') :: lines) ((front ++ [last]) :: messages)

/-- The message of a line is the line up to its last character that is no carriage return. -/
theorem message_cases (line : List Char) :
    (∃ count, line = List.replicate count '\r' ∧ message line = []) ∨
      ∃ front last count, last ≠ '\r' ∧ line = front ++ [last] ++ List.replicate count '\r' ∧
        message line = front ++ [last] := by
  -- What is cut off at the end are carriage returns, and what is left does not end in one.
  have parts : message line ++ line.rtakeWhile (· == '\r') = line :=
    List.rdropWhile_append_rtakeWhile
  have returns : line.rtakeWhile (· == '\r')
      = List.replicate (line.rtakeWhile (· == '\r')).length '\r' :=
    List.eq_replicate_of_mem fun c member => by simpa using List.mem_rtakeWhile_imp member
  rw [returns] at parts
  by_cases empty : message line = []
  · rw [empty, List.nil_append] at parts
    exact .inl ⟨_, parts.symm, empty⟩
  · have kept : ¬((message line).getLast empty == '\r') = true := List.rdropWhile_last_not _ _ empty
    have ending := List.dropLast_append_getLast empty
    rw [← ending] at parts
    exact .inr ⟨_, _, _, by simpa using kept, parts.symm, ending.symm⟩

/-- A line has an empty message exactly if it holds nothing but carriage returns. -/
theorem message_eq_nil_iff {line : List Char} : message line = [] ↔ ∀ c ∈ line, c = '\r' := by
  -- Carriage returns are stripped from the end, which leaves nothing if there is nothing else.
  have all : message line = [] ↔ ∀ c ∈ line, (c == '\r') = true := List.rdropWhile_eq_nil_iff
  simpa using all

/-- The messages of lines in order, without the empty ones. -/
def messages (lines : List (List Char)) : List (List Char) :=
  (lines.map message).filter fun line => !line.isEmpty

/-- The messages of lines tell them. -/
theorem tells_messages (lines : List (List Char)) : Tells lines (messages lines) := by
  -- What becomes of a line is read off its own message.
  induction lines with
  | nil => exact .nil
  | cons line rest ih =>
    rcases message_cases line with ⟨count, same, empty⟩ | ⟨front, last, count, kept, same, told⟩
    · have skipped : messages (line :: rest) = messages rest := by simp [messages, empty]
      rw [skipped, same]
      exact .dropped count ih
    · have first : messages (line :: rest) = (front ++ [last]) :: messages rest := by
        simp [messages, told]
      rw [first, same]
      exact .told front kept count ih

/-- No message of lines is empty. -/
theorem nil_not_mem_messages (lines : List (List Char)) : [] ∉ messages lines := by
  -- Empty ones are filtered out.
  simp [messages]

/-- A write passes on the messages of the lines that it ends, and holds what follows them. -/
theorem write_eq (sink : LineSink) (piece : List Char) :
    sink.write piece =
      (messages (Text.splitEnds (· == '\n') (sink.held ++ piece)).1,
        ⟨(Text.splitEnds (· == '\n') (sink.held ++ piece)).2⟩) :=
  -- This is how a write is defined, with what is held in front.
  rfl

/-- Two writes come to the same as one write of both pieces. -/
theorem write_append (sink : LineSink) (first second : List Char) :
    sink.write (first ++ second) =
      ((sink.write first).1 ++ ((sink.write first).2.write second).1,
        ((sink.write first).2.write second).2) := by
  -- The text is the same, and dividing it can be interrupted.
  simp only [write_eq, ← List.append_assoc, Text.splitEnds_append _ (sink.held ++ first) second]
  simp [messages]

/-- A write tells the lines that it ends, and holds what follows the last of them. -/
theorem divides_write (sink : LineSink) (piece : List Char) :
    ∃ lines, Divides (sink.held ++ piece) lines (sink.write piece).2.held ∧
      Tells lines (sink.write piece).1 :=
  -- The lines of the text that is held and written are what a split at line feeds finds.
  ⟨_, divides_splitEnds (sink.held ++ piece), tells_messages _⟩

/-- Writing nothing changes nothing about a sink that holds no line feed. -/
theorem write_nil {sink : LineSink} (unended : '\n' ∉ sink.held) : sink.write [] = ([], sink) := by
  -- What is held has nothing in it to divide.
  rw [write_eq, Text.splitEnds_append_of_open (ne_feed unended)]
  simp [Text.splitEnds, messages]

/-- Writes in order come to the same as one write of all pieces. -/
theorem writeAll_eq_write {sink : LineSink} (unended : '\n' ∉ sink.held)
    (pieces : List (List Char)) : sink.writeAll pieces = sink.write pieces.flatten := by
  -- No write leaves a line feed behind, so the sink is as good for the pieces that follow.
  induction pieces generalizing sink with
  | nil => exact (write_nil unended).symm
  | cons piece rest ih =>
    obtain ⟨_, divides, _⟩ := sink.divides_write piece
    rw [List.flatten_cons, write_append, ← ih divides.unended]
    rfl

/-- Nothing is held after a flush. -/
theorem held_flush (sink : LineSink) : sink.flush.2.held = [] := by
  -- A flush leaves the empty text, whatever was held.
  unfold flush
  split
  · rename_i empty
    exact List.isEmpty_iff.mp empty
  · rfl

end LineSink

namespace LoggerSink

open Run (Call)
open LineSink (Divides Tells)

/-- What a call of a sink comes to. -/
def call (sink : LoggerSink) : Call → Reply
  | .write piece => sink.write piece
  | .flush => sink.flush

/-- What is logged over calls in order, and the sink after them. -/
def follow (sink : LoggerSink) : List Call → List (Int × List Char) × LoggerSink
  -- Each call sees the sink that the one before it has left.
  | [] => ([], sink)
  | call :: rest =>
    let reply := sink.call call
    let (logged, sink) := reply.sink.follow rest
    (reply.logged ++ logged, sink)

/-- The text that is written after the last flush among calls. -/
def unflushed (calls : List Call) : List Char :=
  -- A flush forgets what was written, and a write adds to it.
  calls.foldl (fun text call =>
    match call with
    | .write piece => text ++ piece
    | .flush => []) []

/-- Following calls can be interrupted. -/
theorem follow_append (sink : LoggerSink) (calls more : List Call) :
    sink.follow (calls ++ more) =
      ((sink.follow calls).1 ++ ((sink.follow calls).2.follow more).1,
        ((sink.follow calls).2.follow more).2) := by
  -- Induction on the first calls, with the sink left open.
  induction calls generalizing sink with
  | nil => rfl
  | cons call rest ih => simp [follow, ih, List.append_assoc]

/-- A call more at the end is one more reply. -/
theorem follow_snoc (sink : LoggerSink) (calls : List Call) (call : Call) :
    sink.follow (calls ++ [call]) =
      ((sink.follow calls).1 ++ ((sink.follow calls).2.call call).logged,
        ((sink.follow calls).2.call call).sink) := by
  -- The last call is followed on its own.
  simp [follow_append, follow]

/-- The messages of several lines are logged in order. -/
theorem logged_append (sink : LoggerSink) (first second : List (List Char)) :
    sink.logged (first ++ second) = sink.logged first ++ sink.logged second := by
  -- All of them pass, or none.
  unfold logged
  split <;> simp

/-- A logger that is enabled at the level of a sink lets all its messages pass. -/
theorem logged_of_passes {sink : LoggerSink} (enabled : passes sink.loggerLevel sink.level = true)
    (messages : List (List Char)) :
    sink.logged messages = messages.map fun text => (sink.level, text) :=
  -- The levels are compared once for all messages.
  if_pos enabled

/-- A call leaves the levels as they are. -/
theorem call_levels (sink : LoggerSink) (call : Call) :
    (sink.call call).sink.loggerLevel = sink.loggerLevel ∧
      (sink.call call).sink.level = sink.level := by
  -- No call writes to the levels.
  cases call <;> exact ⟨rfl, rfl⟩

/-- Calls leave the levels as they are. -/
theorem follow_levels (sink : LoggerSink) (calls : List Call) :
    (sink.follow calls).2.loggerLevel = sink.loggerLevel ∧
      (sink.follow calls).2.level = sink.level := by
  -- Each call passes the levels on to the next.
  induction calls generalizing sink with
  | nil => exact ⟨rfl, rfl⟩
  | cons call rest ih =>
    obtain ⟨loggerLevel, level⟩ := sink.call_levels call
    obtain ⟨loggerLevelLater, levelLater⟩ := ih (sink.call call).sink
    exact ⟨loggerLevelLater.trans loggerLevel, levelLater.trans level⟩

/-- Following writes is writing all their pieces. -/
theorem follow_writes (sink : LoggerSink) (pieces : List (List Char)) :
    sink.follow (pieces.map .write) =
      (sink.logged (sink.lines.writeAll pieces).1,
        { sink with lines := (sink.lines.writeAll pieces).2 }) := by
  -- The messages of the first piece are logged before those of the rest.
  induction pieces generalizing sink with
  | nil => simp [follow, LineSink.writeAll, logged]
  | cons piece rest ih =>
    rw [List.map_cons, follow, ih, LineSink.writeAll, logged_append]
    rfl

/-- After any calls, a sink holds what follows the last line feed since the last flush. -/
theorem divides_follow {sink : LoggerSink} (fresh : sink.held = []) (calls : List Call) :
    ∃ lines, Divides (unflushed calls) lines (sink.follow calls).2.held := by
  -- A write divides the text a little further, and a flush starts with no text.
  induction calls using List.reverseRecOn with
  | nil =>
    refine ⟨[], ?_⟩
    rw [show (sink.follow []).2.held = [] from fresh]
    exact .of_unended nofun
  | append_singleton calls call ih =>
    obtain ⟨lines, divides⟩ := ih
    rw [follow_snoc, unflushed, List.foldl_append]
    cases call with
    | write piece =>
      obtain ⟨later, divided, _⟩ := (sink.follow calls).2.lines.divides_write piece
      exact ⟨lines ++ later, divides.append divided⟩
    | flush =>
      refine ⟨[], ?_⟩
      rw [show ((sink.follow calls).2.call .flush).sink.held = [] from LineSink.held_flush _]
      exact .of_unended nofun

/-- After any calls, what a sink logs of a text does not depend on how the text is cut: two writes
come to the same as one write of both pieces. The sink holds what follows the last line feed since
the last flush. Writes log the lines that they end, in order and without the carriage returns at
their ends; lines that hold nothing else are left out. Each write tells the length of its piece. -/
theorem log_of_writes {loggerLevel level : Int} (enabled : passes loggerLevel level = true)
    (calls : List Call) :
    let sink := (follow { loggerLevel, level } calls).2
    (∀ first second,
      let one := sink.write first
      let two := one.sink.write second
      let whole := sink.write (first ++ second)
      one.logged ++ two.logged = whole.logged ∧ two.sink = whole.sink) ∧
    (∃ lines, Divides (unflushed calls) lines sink.held) ∧
    (∀ pieces : List (List Char), ∃ lines messages,
      let later := sink.follow (pieces.map .write)
      Divides (sink.held ++ pieces.flatten) lines later.2.held ∧ Tells lines messages ∧
        later.1 = messages.map fun text => (level, text)) ∧
    ∀ piece, (sink.write piece).returned = some piece.length := by
  -- The state after any calls is described by the text since the last flush, and lines are found in
  -- that text alone.
  intro sink
  obtain ⟨lines, divides⟩ := divides_follow (show held { loggerLevel, level } = [] from rfl) calls
  obtain ⟨sameLogger, sameLevel⟩ := follow_levels { loggerLevel, level } calls
  refine ⟨fun first second => ?_, ⟨lines, divides⟩, fun pieces => ?_, fun piece => rfl⟩
  · -- The levels stay as they are, so that only the lines matter.
    have cut := sink.lines.write_append first second
    constructor
    · show sink.logged _ ++ sink.logged _ = sink.logged (sink.lines.write (first ++ second)).1
      rw [cut, logged_append]
      rfl
    · show _ = { sink with lines := (sink.lines.write (first ++ second)).2 }
      rw [cut]
      rfl
  · -- Written as one, the pieces divide the text that is held with them, and each line is told.
    obtain ⟨ended, divided, told⟩ := sink.lines.divides_write pieces.flatten
    have passing : passes sink.loggerLevel sink.level = true := by
      rw [sameLogger, sameLevel]
      exact enabled
    have written := sink.follow_writes pieces
    rw [LineSink.writeAll_eq_write divides.unended, logged_of_passes passing, sameLevel] at written
    rw [written]
    exact ⟨ended, _, divided, told, rfl⟩

/-- A line with a percent sign whose end is cut in two is logged once, and a blank line is not. -/
theorem log_of_cut_line :
    let sink := (follow { loggerLevel := 20 } [.write ['x'], .flush, .write ['a', '%', '\r']]).2
    let first := sink.write ['\n', '\r']
    let second := first.sink.write ['\n', 'b']
    passes 20 20 = true ∧ sink.held = ['a', '%', '\r'] ∧
      first.logged ++ second.logged = [(20, ['a', '%'])] ∧ second.sink.held = ['b'] := by
  -- Both cuts are compared by the general statement, and the whole by evaluation.
  intro sink first second
  have enabled : passes 20 20 = true := by decide
  -- The cut stands between the carriage return and the line feed behind it.
  obtain ⟨cut, _⟩ := log_of_writes enabled [.write ['x'], .flush, .write ['a', '%', '\r']]
  obtain ⟨logged, after⟩ := cut ['\n', '\r'] ['\n', 'b']
  exact ⟨enabled, by decide, logged.trans (by decide), (congrArg held after).trans (by decide)⟩

end LoggerSink

end ModelServing
