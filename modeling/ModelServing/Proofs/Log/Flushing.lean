import ModelServing.Proofs.Log.LoggedLines

/-! When a flush does what a line feed would do, and when an empty message is logged. -/

namespace ModelServing

namespace LineSink

/-- A flush of nothing changes nothing. -/
theorem flush_of_empty {sink : LineSink} (empty : sink.held = []) : sink.flush = ([], sink) := by
  -- Nothing is held, so nothing is passed on.
  simp [flush, empty]

/-- A flush passes on the message of what is held, empty or not. -/
theorem flush_of_held {sink : LineSink} (holds : sink.held ≠ []) :
    sink.flush = ([message sink.held], {}) := by
  -- Something is held, whatever its message is.
  simp [flush, holds]

/-- The message of one line, unless it is empty. -/
theorem messages_singleton (line : List Char) :
    messages [line] = if message line = [] then [] else [message line] := by
  -- Empty messages are left out.
  cases told : message line <;> simp [messages, told]

/-- A line feed ends the line that is held. -/
theorem write_feed {sink : LineSink} (unended : '\n' ∉ sink.held) :
    sink.write ['\n'] = (messages [sink.held], {}) := by
  -- What is held has no line feed, so the one that is written ends the only line.
  rw [write_eq, Text.splitEnds_append_of_open (ne_feed unended)]
  simp [Text.splitEnds]

/-- A flush leaves what a line feed would leave: nothing. -/
theorem flush_leaves {sink : LineSink} (unended : '\n' ∉ sink.held) :
    sink.flush.2 = (sink.write ['\n']).2 := by
  -- A sink is the text that it holds.
  have emptied := sink.held_flush
  rw [write_feed unended]
  exact congrArg LineSink.mk emptied

/-- A flush passes on what a line feed would pass on, if there is more to tell than carriage
returns. -/
theorem flush_passes_iff {sink : LineSink} (unended : '\n' ∉ sink.held) (holds : sink.held ≠ []) :
    sink.flush.1 = (sink.write ['\n']).1 ↔ ∃ c ∈ sink.held, c ≠ '\r' := by
  -- The only difference is what becomes of an empty message.
  have firm : (∃ c ∈ sink.held, c ≠ '\r') ↔ message sink.held ≠ [] := by
    simp [message_eq_nil_iff]
  rw [flush_of_held holds, write_feed unended, firm, messages_singleton]
  split <;> simp_all

/-- Of carriage returns alone, a flush passes on an empty message, and a line feed passes on
nothing. -/
theorem flush_of_returns {sink : LineSink} (unended : '\n' ∉ sink.held) (holds : sink.held ≠ [])
    (returns : ∀ c ∈ sink.held, c = '\r') :
    sink.flush.1 = [[]] ∧ (sink.write ['\n']).1 = [] := by
  -- The message of such a line is empty, which a flush does not look at.
  have empty := message_eq_nil_iff.mpr returns
  rw [flush_of_held holds, write_feed unended, messages_singleton, if_pos empty, empty]
  exact ⟨rfl, rfl⟩

/-- No message of a write is empty. -/
theorem nil_not_mem_write (sink : LineSink) (piece : List Char) : [] ∉ (sink.write piece).1 :=
  -- A write passes on messages of lines, of which empty ones are left out.
  nil_not_mem_messages _

/-- The message of a flush is empty if nothing but carriage returns is held. -/
theorem nil_mem_flush_iff {sink : LineSink} :
    [] ∈ sink.flush.1 ↔ ∃ count, sink.held = List.replicate (count + 1) '\r' := by
  -- A flush of nothing has no message; of anything else it has the one of the line.
  by_cases empty : sink.held = []
  · simp [flush_of_empty empty, empty]
  · rw [flush_of_held empty, List.mem_singleton, eq_comm, message_eq_nil_iff]
    constructor
    · -- Something is held, so that there is a first carriage return.
      intro returns
      obtain ⟨count, size⟩ := Nat.exists_eq_succ_of_ne_zero fun zero =>
        empty (List.eq_nil_of_length_eq_zero zero)
      exact ⟨count, List.eq_replicate_iff.mpr ⟨size, returns⟩⟩
    · rintro ⟨count, held⟩
      rw [held]
      exact fun c member => List.eq_of_mem_replicate member

end LineSink

namespace LoggerSink

open Run (Call)

/-- What is logged over calls is logged by one of them, in the state that those before it leave. -/
theorem mem_follow_iff (sink : LoggerSink) (calls : List Call) (entry : Int × List Char) :
    entry ∈ (sink.follow calls).1 ↔
      ∃ before call after, calls = before ++ call :: after ∧
        entry ∈ ((sink.follow before).2.call call).logged := by
  -- Induction from the last call on: it has logged the message, or one before it has.
  induction calls using List.reverseRecOn with
  | nil => simp [follow]
  | append_singleton calls call ih =>
    rw [follow_snoc, List.mem_append, ih]
    constructor
    · rintro (⟨before, other, after, rfl, logged⟩ | logged)
      · exact ⟨before, other, after ++ [call], by simp, logged⟩
      · exact ⟨calls, call, [], rfl, logged⟩
    · rintro ⟨before, other, after, same, logged⟩
      -- The call is the last one, or one of those before it.
      rcases List.eq_nil_or_concat after with rfl | ⟨between, last, rfl⟩
      · obtain ⟨front, back⟩ := List.append_inj' same rfl
        cases front
        cases back
        exact .inr logged
      · rw [List.concat_eq_append, ← List.cons_append, ← List.append_assoc] at same
        obtain ⟨front, -⟩ := List.append_inj' same rfl
        exact .inl ⟨before, other, between, front, logged⟩

/-- After any calls, a flush of what is held does what a line feed would do, except that it logs an
empty message if nothing but carriage returns is held, where the line feed would log none. A flush
of nothing logs nothing. An empty message is never logged but by such flushes. -/
theorem flush_as_feed_iff {loggerLevel level : Int} (enabled : passes loggerLevel level = true)
    (calls : List Call) :
    let start : LoggerSink := { loggerLevel, level }
    let sink := (start.follow calls).2
    let flushed := sink.flush
    let fed := sink.write ['\n']
    (sink.held ≠ [] →
      flushed.sink = fed.sink ∧ flushed.sink.held = [] ∧
      (flushed.logged = fed.logged ↔ ∃ c ∈ sink.held, c ≠ '\r') ∧
      ((∀ c ∈ sink.held, c = '\r') → flushed.logged = [(level, [])] ∧ fed.logged = [])) ∧
    (sink.held = [] → flushed.logged = [] ∧ flushed.sink = sink) ∧
    ((level, []) ∈ (start.follow calls).1 ↔
      ∃ before after count, calls = before ++ .flush :: after ∧
        (start.follow before).2.held = List.replicate (count + 1) '\r') := by
  -- A flush and a line feed differ in nothing but the message of carriage returns, and a history
  -- can log an empty one only there.
  intro start sink flushed fed
  obtain ⟨lines, divides⟩ := divides_follow (show start.held = [] from rfl) calls
  -- Whatever was called before, all messages pass, at the level of the start.
  have told (before : List Call) (messages : List (List Char)) :
      (start.follow before).2.logged messages = messages.map fun text => (level, text) := by
    obtain ⟨sameLogger, sameLevel⟩ := start.follow_levels before
    rw [logged_of_passes (by rw [sameLogger, sameLevel]; exact enabled), sameLevel]
  refine ⟨fun holds => ⟨?_, LineSink.held_flush sink.lines, ?_, fun returns => ?_⟩,
    fun empty => ?_, ?_⟩
  · exact congrArg (fun lines => { sink with lines }) (LineSink.flush_leaves divides.unended)
  · -- Messages that are logged alike are alike.
    refine Iff.trans ?_ (LineSink.flush_passes_iff divides.unended holds)
    show sink.logged sink.lines.flush.1 = sink.logged (sink.lines.write ['\n']).1 ↔ _
    rw [told calls, told calls]
    exact List.map_inj_right fun text other same => (Prod.mk.inj same).2
  · -- Here the flush and the line feed part.
    obtain ⟨flush, feed⟩ := LineSink.flush_of_returns divides.unended holds returns
    exact ⟨(told calls _).trans (by rw [flush]; rfl), (told calls _).trans (by rw [feed]; rfl)⟩
  · have nothing : sink.lines.flush = ([], sink.lines) := LineSink.flush_of_empty empty
    refine ⟨(told calls _).trans (by rw [nothing]; rfl), ?_⟩
    exact congrArg (fun lines => { sink with lines }) (congrArg Prod.snd nothing)
  · -- Writes log no empty message, and a flush logs one exactly in such a state.
    have among (before : List Call) (messages : List (List Char)) :
        (level, []) ∈ (start.follow before).2.logged messages ↔ [] ∈ messages := by
      rw [told before, List.mem_map]
      simp
    rw [mem_follow_iff]
    constructor
    · rintro ⟨before, call, after, rfl, logged⟩
      cases call with
      | write piece => exact absurd ((among before _).mp logged) (LineSink.nil_not_mem_write _ _)
      | flush =>
        obtain ⟨count, held⟩ := LineSink.nil_mem_flush_iff.mp ((among before _).mp logged)
        exact ⟨before, after, count, rfl, held⟩
    · rintro ⟨before, after, count, rfl, held⟩
      exact ⟨before, .flush, after, rfl,
        (among before _).mpr (LineSink.nil_mem_flush_iff.mpr ⟨count, held⟩)⟩

/-- A text that is held is logged by a flush as by a line feed. -/
theorem flush_as_feed_of_text :
    let sink := (follow { loggerLevel := 20 } [.write ['a', '\r', '\n', '\r', 'b', '\r']]).2
    passes 20 20 = true ∧ sink.held = ['\r', 'b', '\r'] ∧
      sink.flush.logged = (sink.write ['\n']).logged ∧ sink.flush.logged = [(20, ['\r', 'b'])] ∧
      sink.flush.sink = (sink.write ['\n']).sink := by
  -- The general statement is applied to what one write leaves behind.
  intro sink
  have enabled : passes 20 20 = true := by decide
  have held : sink.held = ['\r', 'b', '\r'] := by decide
  obtain ⟨holding, _⟩ := flush_as_feed_iff enabled [.write ['a', '\r', '\n', '\r', 'b', '\r']]
  obtain ⟨same, _, alike, _⟩ := holding (by decide)
  -- The letter between the carriage returns makes the difference.
  have firm : ∃ c ∈ sink.held, c ≠ '\r' := by
    rw [held]
    exact ⟨'b', by decide, by decide⟩
  exact ⟨enabled, held, alike.mpr firm, by decide, same⟩

/-- A carriage return that is held becomes an empty message in a flush, and none in a line feed. -/
theorem empty_message_of_return :
    let start : LoggerSink := { loggerLevel := 20 }
    let sink := (start.follow [.write ['\r']]).2
    sink.held ≠ [] ∧ sink.flush.logged = [(20, [])] ∧ (sink.write ['\n']).logged = [] ∧
      (start.follow [.write ['\r'], .flush]).1 = [(20, [])] := by
  -- The one character that is held counts as a line end, so that its message is empty.
  decide

end LoggerSink

end ModelServing
