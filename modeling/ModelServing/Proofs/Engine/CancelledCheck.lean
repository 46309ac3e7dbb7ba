import ModelServing.Proofs.Engine.Decision
import ModelServing.Proofs.Run.Moves

/-! What is left of a check that is given up while the interpreter runs. -/

namespace ModelServing.Engine

namespace Inquiry

section Steps

variable {inquiry : Inquiry}

/-- A run that has ended passes over every turn. -/
theorem turn_of_isEnded (ended : inquiry.isEnded = true) (turn : Turn) :
    inquiry.turn turn = inquiry := by
  -- Every turn asks first whether the run has ended.
  simp [Inquiry.turn, ended]

/-- A run that has ended stays as it is. -/
theorem run_of_isEnded (ended : inquiry.isEnded = true) (turns : List Turn) :
    inquiry.run turns = inquiry := by
  -- Each turn is passed over.
  induction turns with
  | nil => rfl
  | cons turn rest ih => rw [run_cons, turn_of_isEnded ended, ih]

/-- Going on leaves the interpreter as it is seen. -/
theorem child_resume (inquiry : Inquiry) : inquiry.resume.child = inquiry.child := by
  -- Only the stage can change.
  unfold resume
  split
  · split <;> rfl
  · split <;> rfl
  · split <;> rfl
  · rfl
  · rfl

/-- Reading tells nothing of the exit of the interpreter. -/
theorem known_read (inquiry : Inquiry) : inquiry.read.child.known = inquiry.child.known := by
  -- Only what lies unread is touched.
  unfold read
  split <;> rfl

/-- Giving up tells nothing of the exit of the interpreter. -/
theorem known_giveUp (inquiry : Inquiry) : inquiry.giveUp.child.known = inquiry.child.known := by
  -- Giving up kills and begins to wait at most, and only a notice tells an exit.
  unfold giveUp
  split
  · rfl
  · split
    · -- The output may be closed with that.
      simp [kill]
    · simp [kill]
    · rfl
    · rfl
    · rfl

/-- What is known of the interpreter after a turn comes after what was known before. -/
theorem follows_turn (inquiry : Inquiry) (turn : Turn) :
    (inquiry.turn turn).child.Follows inquiry.child := by
  -- Only what is noted of the interpreter tells something of it.
  unfold Inquiry.turn
  split
  · exact .of_known rfl
  · cases turn with
    | noted notice => exact Run.Child.follows_note notice inquiry.child
    | taken => exact .of_known (known_read inquiry)
    | resumed => exact .of_known (congrArg Run.Child.known (child_resume inquiry))
    | cancelled => exact .of_known (known_giveUp inquiry)

/-- A run of the interpreter that nobody gave up: the interpreter was not killed, and its exit is
not all that is waited for. -/
structure Waiting (inquiry : Inquiry) : Prop where
  sound : inquiry.child.Sound
  unkilled : inquiry.killed = false
  stage : inquiry.stage ≠ .stopping

/-- Only giving up changes that. -/
theorem Waiting.turn {turn : Turn} (waiting : inquiry.Waiting) (other : turn ≠ .cancelled) :
    (inquiry.turn turn).Waiting := by
  -- The stage is changed by a turn of whoever waits, and only giving up makes it the last one.
  have sound := (follows_turn inquiry turn).sound waiting.sound
  obtain ⟨-, unkilled, stage⟩ := waiting
  suffices same : (inquiry.turn turn).killed = inquiry.killed ∧
      (inquiry.turn turn).stage ≠ .stopping from ⟨sound, same.1.trans unkilled, same.2⟩
  unfold Inquiry.turn
  split
  · exact ⟨rfl, stage⟩
  · cases turn with
    | noted notice => exact ⟨rfl, stage⟩
    | taken =>
      dsimp only [read]
      split <;> exact ⟨rfl, stage⟩
    | resumed =>
      dsimp only [resume]
      split
      · split
        · exact ⟨rfl, nofun⟩
        · exact ⟨rfl, stage⟩
      · split
        · exact ⟨rfl, nofun⟩
        · exact ⟨rfl, stage⟩
      · rename_i stopping
        exact absurd stopping stage
      · exact ⟨rfl, stage⟩
      · exact ⟨rfl, stage⟩
    | cancelled => exact absurd rfl other

/-- How far a run is that was given up: the exit of the interpreter is all that is waited for, or
was told. -/
structure GivingUp (killed : Bool) (inquiry : Inquiry) : Prop where
  sound : inquiry.child.Sound
  killed : inquiry.killed = killed
  stage : inquiry.stage = .stopping ∧ inquiry.child.awaited = true ∨
    inquiry.stage = .cancelled ∧ inquiry.child.exitCode.isSome = true

/-- A run that was given up and goes on waits for the exit of the interpreter. -/
theorem GivingUp.stopping {killed : Bool} (givingUp : GivingUp killed inquiry)
    (going : inquiry.isEnded = false) :
    inquiry.stage = .stopping ∧ inquiry.child.awaited = true := by
  -- The other stage of giving up is the end of the run.
  rcases givingUp.stage with stopping | ⟨cancelled, -⟩
  · exact stopping
  · simp [isEnded, cancelled] at going

/-- A run that was given up ends in no other way, and not before its interpreter is gone and its
exit is told. -/
theorem GivingUp.ends {killed : Bool} (givingUp : GivingUp killed inquiry)
    (ended : inquiry.isEnded = true) :
    inquiry.probe = .cancelled ∧ inquiry.child.exitCode.isSome = true ∧
      inquiry.child.gone.isSome = true := by
  -- In the first of the two stages of giving up, the run has not ended.
  rcases givingUp.stage with ⟨stopping, -⟩ | ⟨cancelled, told⟩
  · simp [isEnded, stopping] at ended
  · exact ⟨by simp [probe, cancelled], told, givingUp.sound told⟩

/-- A run that was given up goes on in one way only: its wait for the exit is over when whoever
waits goes on. Nobody reads the output any more. -/
theorem turn_of_stopping {turn : Turn} (stopping : inquiry.stage = .stopping)
    (other : turn ≠ .cancelled) :
    inquiry.turn turn =
      match turn with
      | .noted notice => { inquiry with child := inquiry.child.note notice }
      | .resumed => if inquiry.child.isOver then { inquiry with stage := .cancelled } else inquiry
      | .taken | .cancelled => inquiry := by
  -- The stage is fixed, so every kind of turn has a single branch left.
  have going : inquiry.isEnded = false := by simp [isEnded, stopping]
  unfold Inquiry.turn
  rw [going]
  cases turn with
  | noted notice => rfl
  | taken => simp [read, stopping]
  | resumed => simp [resume, stopping]
  | cancelled => exact absurd rfl other

/-- A run that was given up once stays so, and nothing but its end comes of that. -/
theorem GivingUp.turn {killed : Bool} {turn : Turn} (givingUp : GivingUp killed inquiry)
    (other : turn ≠ .cancelled) : GivingUp killed (inquiry.turn turn) := by
  -- There are two stages, of which the second passes over every turn.
  rcases givingUp.stage with ⟨stopping, awaited⟩ | ⟨cancelled, -⟩
  · have sound := (follows_turn inquiry turn).sound givingUp.sound
    have next := turn_of_stopping stopping other
    rw [next] at sound ⊢
    cases turn with
    | noted notice => exact ⟨sound, givingUp.killed, .inl ⟨stopping, by simpa using awaited⟩⟩
    | taken => exact givingUp
    | resumed =>
      dsimp only
      split
      · rename_i past
        exact ⟨givingUp.sound, givingUp.killed, .inr ⟨rfl, (Bool.and_eq_true_iff.mp past).1⟩⟩
      · exact givingUp
    | cancelled => exact absurd rfl other
  · rw [turn_of_isEnded (by simp [isEnded, cancelled])]
    exact givingUp

/-- A run that was given up ends when whoever waits goes on and the wait for the exit is over. -/
theorem GivingUp.ends_iff {killed : Bool} {turn : Turn} (givingUp : GivingUp killed inquiry)
    (other : turn ≠ .cancelled) (going : inquiry.isEnded = false) :
    (inquiry.turn turn).isEnded = true ↔ turn = .resumed ∧ inquiry.child.isOver = true := by
  -- Every kind of turn is looked at, and one of them only can leave the last stage.
  obtain ⟨stopping, -⟩ := givingUp.stopping going
  rw [turn_of_stopping stopping other]
  cases turn with
  | noted notice => simp [isEnded, stopping]
  | taken => simp [going]
  | resumed =>
    dsimp only
    split
    · rename_i past
      simp [isEnded, past]
    · rename_i waits
      simp [going, waits]
  | cancelled => exact absurd rfl other

/-- A wait for the exit of the interpreter that is over stays so until somebody gives up. -/
theorem isOver_turn {turn : Turn} (sound : inquiry.child.Sound) (other : turn ≠ .cancelled)
    (past : inquiry.child.isOver = true) : (inquiry.turn turn).child.isOver = true := by
  -- A notice never takes back what was told, and no other turn tells anything.
  unfold Inquiry.turn
  split
  · exact past
  · cases turn with
    | noted notice => exact Run.Child.isOver_note sound past notice
    | taken =>
      dsimp only [read]
      split <;> exact past
    | resumed => exact child_resume inquiry ▸ past
    | cancelled => exact absurd rfl other

/-- Giving up kills an interpreter that is not gone, and no other one. It ends the run at once if
the exit of the interpreter was told, and only then. -/
theorem Waiting.giveUp (waiting : inquiry.Waiting) (going : inquiry.isEnded = false) :
    GivingUp inquiry.child.gone.isNone (inquiry.turn .cancelled) ∧
      ((inquiry.turn .cancelled).isEnded = true ↔ inquiry.child.exitCode.isSome = true) := by
  -- What giving up does depends on whether the exit was told and whether the interpreter is gone.
  have sound := (follows_turn inquiry .cancelled).sound waiting.sound
  have given : inquiry.turn .cancelled = inquiry.giveUp := by simp [Inquiry.turn, going]
  rw [given] at sound ⊢
  unfold Inquiry.giveUp at sound ⊢
  cases told : inquiry.child.exitCode with
  | some code =>
    -- An interpreter whose exit was told is gone, and was not killed.
    have gone : inquiry.child.gone.isNone = false :=
      Option.isNone_eq_false_iff.mpr (waiting.sound (by rw [told]; rfl))
    simp only [told, Option.isSome_some, if_true] at sound ⊢
    exact ⟨⟨sound, waiting.unkilled.trans gone.symm, .inr ⟨rfl, by simp [told]⟩⟩,
      iff_of_true rfl trivial⟩
  | none =>
    simp only [told, Option.isSome_none, Bool.false_eq_true, if_false] at sound ⊢
    cases stage : inquiry.stage with
    | starting =>
      have gone : inquiry.child.shut.gone = inquiry.child.gone :=
        congrArg Prod.fst (Run.Child.known_shut inquiry.child)
      rw [stage] at sound
      exact ⟨⟨sound, by simp [kill, gone], .inl ⟨rfl, rfl⟩⟩, by simp [kill, isEnded]⟩
    | reading =>
      rw [stage] at sound
      exact ⟨⟨sound, rfl, .inl ⟨rfl, rfl⟩⟩, by simp [kill, isEnded]⟩
    | stopping => exact absurd stage waiting.stage
    | exited code => simp [isEnded, stage] at going
    | cancelled => simp [isEnded, stage] at going

end Steps

section Runs

variable {turns : List Turn} {inquiry : Inquiry}

/-- Until somebody gives up, an interpreter is waited for. -/
theorem Waiting.run (waiting : inquiry.Waiting) (others : ∀ turn ∈ turns, turn ≠ .cancelled) :
    (inquiry.run turns).Waiting := by
  -- Each turn keeps it so.
  induction turns generalizing inquiry with
  | nil => exact waiting
  | cons turn rest ih =>
    obtain ⟨first, later⟩ := List.forall_mem_cons.mp others
    exact ih (waiting.turn first) later

/-- Whatever comes after it, a run that was given up once stays so. -/
theorem GivingUp.run {killed : Bool} (givingUp : GivingUp killed inquiry)
    (others : ∀ turn ∈ turns, turn ≠ .cancelled) : GivingUp killed (inquiry.run turns) := by
  -- Each turn keeps it so.
  induction turns generalizing inquiry with
  | nil => exact givingUp
  | cons turn rest ih =>
    obtain ⟨first, later⟩ := List.forall_mem_cons.mp others
    exact ih (givingUp.turn first) later

/-- A run that was given up ends once whoever waits goes on, if the wait for the exit is over by
then. -/
theorem GivingUp.ended_of_resumed {killed : Bool} (givingUp : GivingUp killed inquiry)
    (others : ∀ turn ∈ turns, turn ≠ .cancelled) (past : inquiry.child.isOver = true)
    (resumes : .resumed ∈ turns) : (inquiry.run turns).isEnded = true := by
  -- Induction on the turns: what was told stays told, so the first turn of whoever waits is the
  -- end.
  induction turns generalizing inquiry with
  | nil => cases resumes
  | cons turn rest ih =>
    obtain ⟨first, later⟩ := List.forall_mem_cons.mp others
    cases ended : inquiry.isEnded with
    | true => rw [run_of_isEnded ended, ended]
    | false =>
      rw [run_cons]
      rcases List.mem_cons.mp resumes with same | resumes
      · -- This is where it ends.
        have ends := (givingUp.ends_iff first ended).mpr ⟨same.symm, past⟩
        rw [run_of_isEnded ends, ends]
      · exact ih (givingUp.turn first) later (isOver_turn givingUp.sound first past) resumes

/-- Whether nothing that comes from now on ends a run that was given up: the end of the output is
not known, and not noticed any more. -/
structure Endless (turns : List Turn) (inquiry : Inquiry) : Prop where
  unclosed : inquiry.child.inflow.closed = false
  unnoticed : inquiry.child.inflow.paused = true ∨ .noted .closed ∉ turns

/-- The end of the output is not noticed in the next turn. -/
theorem Endless.turn {turn : Turn} {rest : List Turn} (endless : Endless (turn :: rest) inquiry)
    (stopping : inquiry.stage = .stopping) (other : turn ≠ .cancelled) :
    Endless rest (inquiry.turn turn) := by
  -- The turn is looked at by its kind; the end of the output is among the rest of the turns or it
  -- is not.
  obtain ⟨unclosed, unnoticed⟩ := endless
  have later : inquiry.child.inflow.paused = true ∨ .noted .closed ∉ rest :=
    unnoticed.imp_right fun away member => away (List.mem_cons_of_mem _ member)
  rw [turn_of_stopping stopping other]
  cases turn with
  | taken => exact ⟨unclosed, later⟩
  | resumed =>
    dsimp only
    split <;> exact ⟨unclosed, later⟩
  | cancelled => exact absurd rfl other
  | noted notice =>
    cases notice with
    | connected | vanished code | told => exact ⟨unclosed, later⟩
    | printed bytes =>
      dsimp only [Run.Child.note]
      split
      · exact ⟨unclosed, later.imp_left fun paused => by simp [Run.Inflow.arrive, paused]⟩
      · exact ⟨unclosed, later⟩
    | closed =>
      -- Only an output that is stopped can end without that it is noticed.
      have paused : inquiry.child.inflow.paused = true := unnoticed.resolve_right (by simp)
      dsimp only
      rw [Run.Child.note_closed_of_paused paused]
      exact ⟨unclosed, .inl paused⟩

/-- A run that was given up does not end if the end of the output is not noticed. -/
theorem GivingUp.unended_of_endless {killed : Bool} (givingUp : GivingUp killed inquiry)
    (others : ∀ turn ∈ turns, turn ≠ .cancelled) (going : inquiry.isEnded = false)
    (endless : Endless turns inquiry) : (inquiry.run turns).isEnded = false := by
  -- Induction on the turns, with the stage and the missing end of the output as the invariant.
  induction turns generalizing inquiry with
  | nil => exact going
  | cons turn rest ih =>
    obtain ⟨first, later⟩ := List.forall_mem_cons.mp others
    obtain ⟨stopping, awaited⟩ := givingUp.stopping going
    -- The wait has begun, so that it is over only with the end of the output.
    have waits : inquiry.child.isOver = false := by
      simp [Run.Child.isOver, endless.unclosed, awaited]
    have goes : (inquiry.turn turn).isEnded = false := by
      rw [← Bool.not_eq_true, givingUp.ends_iff first going, waits]
      simp
    exact ih (givingUp.turn first) later goes (endless.turn stopping first)

end Runs

end Inquiry

section Checks

variable {engine : Engine} {find : Host → Option String}
  {ask : (interpreter code : String) → Host → Attempt × Host}

/-- Whether something that the interpreter was asked was answered. -/
def Asked.isAnswered (asked : Asked) : Bool := (asked.attempt.probe.result asked.interpreter).isOk

/-- What a check has asked the interpreter. All of it was answered, or all but the last of it, and
the check has found nothing out and ends with that. -/
inductive Asks (checked : Checked (Host × List Asked)) : Prop
  | answered (all : ∀ asked ∈ checked.machine.2, asked.isAnswered = true)
  | silent (earlier : List Asked) (last : Asked) (whole : checked.machine.2 = earlier ++ [last])
    (before : ∀ asked ∈ earlier, asked.isAnswered = true)
    (ending : last.attempt.probe.result last.interpreter = .error checked.ending)
    (known : checked.known = none)

/-- If something of what a check has asked was not answered, then it was the last, and the check
ends with that and has found nothing out. -/
theorem Asks.of_unanswered {checked : Checked (Host × List Asked)} (asks : Asks checked)
    {asked : Asked} (member : asked ∈ checked.machine.2) {ending : Ending}
    (silent : asked.attempt.probe.result asked.interpreter = .error ending) :
    checked.ending = ending ∧ checked.known = none ∧
      ∃ earlier, checked.machine.2 = earlier ++ [asked] ∧
        ∀ before ∈ earlier, before.isAnswered = true := by
  -- The last question of a check is the only one that may stand unanswered.
  have unanswered : asked.isAnswered = false := by rw [Asked.isAnswered, silent]; rfl
  cases asks with
  | answered all => cases unanswered.symm.trans (all _ member)
  | silent earlier last whole answered ends known =>
    -- Only the last of what was asked was not answered, so that this is the last.
    have same : asked = last := by
      rw [whole] at member
      rcases List.mem_append.mp member with early | final
      · cases unanswered.symm.trans (answered _ early)
      · exact List.mem_singleton.mp final
    subst same
    exact ⟨Except.error.inj (ends.symm.trans silent), known, earlier, whole, answered⟩

/-- What an interpreter is asked is noted, with what comes of it. -/
theorem runCode_siteInTurns (interpreter code : String) (host : Host) (notes : List Asked) :
    (engine.siteInTurns find ask).runCode interpreter code (host, notes)
      = ((ask interpreter code host).1.probe, (ask interpreter code host).2,
        notes ++ [⟨interpreter, code, (ask interpreter code host).1⟩]) :=
  -- The machine in turns notes the question and hands it on.
  rfl

/-- What is told of an attempt was answered, as all that was asked before. -/
theorem forall_answered {notes : List Asked} (before : ∀ asked ∈ notes, asked.isAnswered = true)
    {interpreter code : String} {attempt : Attempt} {told : Int × String × List LogRecord}
    (answered : attempt.probe.result interpreter = .ok told) :
    ∀ asked ∈ notes ++ [⟨interpreter, code, attempt⟩], asked.isAnswered = true := by
  -- What was asked last is the only thing that is new.
  refine List.forall_mem_append.mpr ⟨before, ?_⟩
  rw [List.forall_mem_singleton, Asked.isAnswered, answered]
  rfl

/-- A check that asks for the version asks nothing after that. -/
theorem detectVersion_asks (interpreter : String) (logs : List LogRecord) (host : Host)
    {notes : List Asked} (before : ∀ asked ∈ notes, asked.isAnswered = true) :
    Asks (detectVersion (engine.siteInTurns find ask) interpreter logs (host, notes)) := by
  -- There is one question, which is answered or is the last.
  unfold detectVersion
  rw [runCode_siteInTurns]
  dsimp only
  split
  · rename_i silent
    exact .silent notes _ rfl before silent rfl
  · rename_i told
    exact .answered (forall_answered before told)

/-- A check that asks for the package asks for the version only if it was answered. -/
theorem detectHost_asks (host : Host) :
    Asks (detectHost (engine.siteInTurns find ask) (host, [])) := by
  -- There are two questions at most, and the second is reached through an answer to the first.
  unfold detectHost
  split
  · exact .answered nofun
  · rename_i interpreter found
    rw [runCode_siteInTurns]
    dsimp only
    split
    · rename_i silent
      exact .silent [] _ rfl nofun silent rfl
    · rename_i told
      have before : ∀ asked : Asked,
          asked ∈ [] ++ [⟨interpreter, presenceCode, (ask interpreter presenceCode host).1⟩] →
            asked.isAnswered = true := forall_answered (List.forall_mem_nil _) told
      split
      · exact detectVersion_asks interpreter _ _ before
      · exact .answered before

/-- No check asks anything once it was not answered. -/
theorem detect_asks (host : Host) : Asks (detect (engine.siteInTurns find ask) (host, [])) := by
  -- Only the search for an interpreter asks anything.
  unfold detect
  split
  · exact .answered nofun
  · split
    · -- A prebuilt binary is looked at without the interpreter.
      unfold detectPrebuilt
      split <;> exact .answered nofun
    · exact detectHost_asks host
    · exact .answered nofun
    · exact .answered nofun

/-- Whoever waits for an interpreter that a machine runs gives up at most once. -/
theorem count_cancelled_waitFor (watch : Watch) (start : Filesystem) (behavior : Run.Behavior) :
    (waitFor watch start behavior).1.count .cancelled ≤ 1 := by
  -- Giving up is put in once, between events that are turns of other kinds.
  have events (events : List (Nat × Run.Event)) :
      (events.flatMap fun event => Inquiry.turnsOf event.2).count .cancelled = 0 := by
    -- No event is that somebody gives up.
    rw [List.count_eq_zero, List.mem_flatMap]
    rintro ⟨event, -, member⟩
    cases kind : event.2 <;> simp [kind, Inquiry.turnsOf] at member
  have through (taken : List (Nat × Run.Event)) :
      (Inquiry.turnsThrough taken).count .cancelled = 0 := by
    rw [Inquiry.turnsThrough, List.count_append, events]
    rfl
  unfold waitFor
  dsimp only
  split
  · simp [through]
  · split
    · simp [through]
    · simp [through, events]

/-- Whoever waits for a line of code that a machine runs gives up at most once. -/
theorem count_cancelled_attempt {watch : Watch} {interpreter code : String} {host : Host}
    {turns : List Inquiry.Turn}
    (waited : (attempt watch interpreter code host).1 = .waited turns) :
    turns.count .cancelled ≤ 1 := by
  -- Nobody waits for an interpreter that was not started.
  unfold attempt at waited
  dsimp only at waited
  split at waited
  · cases waited
  · cases waited
  · cases waited
    exact count_cancelled_waitFor watch _ _

/-- Every check on a machine is one in which each line of code that is run is waited for in
turns. -/
theorem install_siteInTurns (engine : Engine) {watch : Watch} {host : Host}
    (begun : (watch.map fun shows => shows host.fs).getD false = false) :
    let site := engine.siteInTurns (fun host => which host engine.interpreter) (attempt watch)
    ((engine.install site (host, [])).1, (engine.install site (host, [])).2.map Prod.fst)
      = engine.installOn watch host := by
  -- A view that forgets the questions turns the one machine into the other, and a check follows
  -- views.
  intro site
  have views : site.Views (engine.site (runCode watch)) Prod.fst :=
    ⟨rfl, rfl, fun _ => rfl, fun _ => rfl, fun _ => rfl, fun _ _ _ => rfl⟩
  -- What is known afterwards is the same, since the whole check is.
  have checks : _ = detect (engine.site (runCode watch)) host := views.detect (host, [])
  have installed : engine.installOn watch host = engine.install (engine.site (runCode watch)) host := by
    simp [installOn, begun, installAs]
  have whole : engine.install (engine.site (runCode watch)) host
      = (engine.learn (detect (engine.site (runCode watch)) host).known,
        detect (engine.site (runCode watch)) host) := rfl
  rw [installed, whole, ← checks]
  rfl

end Checks

/-- In whatever order things come, an interpreter that is given up once, before its run has ended,
is killed exactly if it is not gone. Its run ends as given up and in no other way, and not before
its exit is told. It ends at once if that was told before, and otherwise when whoever waits goes on,
the exit is told and the end of the output noticed: not while somebody else holds the output open,
nor once too much of it lies unread. A check in which the interpreter is so given up ends as given
up if that run does, and goes on waiting otherwise; it asks nothing more, and leaves the engine as
it was, whatever the engine has known and whatever the interpreter was asked. Every check on a
machine that is not given up before it has begun is one of these. -/
theorem cancelled_check {before later : List Inquiry.Turn}
    (once : ∀ turn ∈ before ++ later, turn ≠ .cancelled)
    (going : (({} : Inquiry).run before).isEnded = false) :
    let held := ({} : Inquiry).run before
    let left := held.turn .cancelled
    let final := left.run later
    (held.killed = false ∧ left.killed = held.child.gone.isNone ∧ final.killed = left.killed) ∧
    (left.isEnded = true ↔ held.child.exitCode.isSome = true) ∧
    (final.isEnded = true →
      final.probe = .cancelled ∧ final.child.exitCode.isSome = true ∧
        final.child.gone.isSome = true) ∧
    (∀ early turn late, later = early ++ turn :: late →
      let sooner := left.run early
      (sooner.isEnded = false → ((sooner.turn turn).isEnded = true ↔
        turn = .resumed ∧ sooner.child.isOver = true)) ∧
      (sooner.child.isOver = true → .resumed ∈ turn :: late → final.isEnded = true) ∧
      (sooner.isEnded = false → sooner.child.inflow.closed = false →
        sooner.child.inflow.paused = true ∨ .noted .closed ∉ turn :: late →
        final.isEnded = false)) ∧
    (∀ (engine : Engine) (find : Host → Option String)
      (ask : (interpreter code : String) → Host → Attempt × Host) (host : Host)
      (interpreter code : String),
      let asked : Asked := ⟨interpreter, code, .waited (before ++ .cancelled :: later)⟩
      let (after, checked) := engine.install (engine.siteInTurns find ask) (host, [])
      asked ∈ checked.machine.2 →
        checked.ending = (if final.isEnded then .cancelled else .pending) ∧ after = engine ∧
        ∃ earlier, checked.machine.2 = earlier ++ [asked] ∧
          ∀ answered ∈ earlier, answered.isAnswered = true) ∧
    ∀ (engine : Engine) (watch : Watch) (host : Host),
      (watch.map fun shows => shows host.fs).getD false = false →
      let site := engine.siteInTurns (fun host => which host engine.interpreter) (attempt watch)
      ((engine.install site (host, [])).1, (engine.install site (host, [])).2.map Prod.fst)
        = engine.installOn watch host ∧
      ∀ interpreter code host turns, (attempt watch interpreter code host).1 = .waited turns →
        turns.count .cancelled ≤ 1 := by
  -- What a run does once it is given up is one invariant, and a check is a sequence of questions of
  -- which the last can be such a run.
  intro held left final
  obtain ⟨othersBefore, othersAfter⟩ := List.forall_mem_append.mp once
  have fresh : ({} : Inquiry).Waiting := ⟨nofun, rfl, nofun⟩
  have waiting : held.Waiting := fresh.run othersBefore
  obtain ⟨givingUp, atOnce⟩ := waiting.giveUp going
  have kept : Inquiry.GivingUp held.child.gone.isNone final := givingUp.run othersAfter
  refine ⟨⟨waiting.unkilled, givingUp.killed, kept.killed.trans givingUp.killed.symm⟩, atOnce,
    kept.ends, ?_, ?_, fun engine _ _ begun =>
      ⟨install_siteInTurns engine begun, fun _ _ _ _ => count_cancelled_attempt⟩⟩
  · rintro early turn late rfl
    intro sooner
    obtain ⟨othersEarly, othersLate⟩ := List.forall_mem_append.mp othersAfter
    have onward : Inquiry.GivingUp held.child.gone.isNone sooner := givingUp.run othersEarly
    have whole : final = sooner.run (turn :: late) := Inquiry.run_append left early (turn :: late)
    refine ⟨onward.ends_iff (othersLate turn List.mem_cons_self), fun past resumes => ?_,
      fun goes unclosed unnoticed => ?_⟩
    · rw [whole]
      exact onward.ended_of_resumed othersLate past resumes
    · rw [whole]
      exact onward.unended_of_endless othersLate goes ⟨unclosed, unnoticed⟩
  · intro engine find ask host interpreter code asked member
    -- The run ends as given up or goes on, and the check does so with it.
    have course : asked.attempt.probe = final.probe :=
      congrArg Inquiry.probe (Inquiry.run_append {} before (.cancelled :: later))
    have silent : asked.attempt.probe.result asked.interpreter
        = .error (if final.isEnded then .cancelled else .pending) := by
      rw [course]
      cases ended : final.isEnded with
      | true => rw [(kept.ends ended).1]; rfl
      | false =>
        have stage : final.probe = .pending := by
          simp [Inquiry.probe, (kept.stopping ended).1]
        rw [stage]
        rfl
    obtain ⟨ending, known, asks⟩ := (detect_asks host).of_unanswered member silent
    exact ⟨ending, congrArg engine.learn known, asks⟩

/-- The turns of an interpreter that prints nothing and exits well. -/
def turnsOfExit : List Inquiry.Turn :=
  Inquiry.turnsThrough [(0, .closed), (0, .exited 0)]

/-- The turns of an interpreter that is killed when it is given up, and whose output ends with
it. -/
def turnsOfKill : List Inquiry.Turn :=
  [.noted .connected, .resumed] ++ .cancelled ::
    [.noted (.vanished (-9)), .noted .closed, .noted .told, .resumed]

/-- An engine that has known of a prebuilt version still does after a check whose second question
was given up. The interpreter was killed, and it was waited for. -/
theorem cancelled_check_of_version :
    let engine := smallEngine.learn (some (.prebuilt (some "1")))
    let ask (_ code : String) (host : Host) :=
      (Attempt.waited (if code = versionCode then turnsOfKill else turnsOfExit), host)
    let (after, checked) := engine.install (engine.siteInTurns (fun _ => some "/py") ask) (bareHost, [])
    checked.ending = .cancelled ∧ after = engine ∧
      after.installation.status = "running sglang version: 1" ∧
      checked.machine.2.map (·.code) = [presenceCode, versionCode] ∧
      (({} : Inquiry).run turnsOfKill).killed = true ∧
      (({} : Inquiry).run turnsOfKill).child.exitCode = some (-9) := by
  -- The first question is answered, and it is the second whose run is given up.
  intro engine ask
  have absent : checkPath bareHost engine.binaryPath
      = .error (.system ⟨.noEntry, engine.binaryPath⟩) := by decide +kernel
  have asked : (detect (engine.siteInTurns (fun _ => some "/py") ask) (bareHost, [])).machine.2
      = [⟨"/py", presenceCode, .waited turnsOfExit⟩, ⟨"/py", versionCode, .waited turnsOfKill⟩] := by
    rw [detect_of_absent _ _ rfl absent]
    rfl
  obtain ⟨-, -, -, -, ended, -⟩ := @cancelled_check [.noted .connected, .resumed]
    [.noted (.vanished (-9)), .noted .closed, .noted .told, .resumed] (by decide) rfl
  obtain ⟨ending, kept, -⟩ := ended engine (fun _ => some "/py") ask bareHost "/py" versionCode
    (by rw [asked]; exact List.mem_cons_of_mem _ List.mem_cons_self)
  exact ⟨ending, kept, by rw [kept]; rfl, by rw [asked]; rfl, rfl, rfl⟩

/-- A check is not over once the interpreter was killed and its exit told, as long as something else
holds the output of the interpreter open. -/
theorem cancelled_check_unended :
    let turns : List Inquiry.Turn := [.noted .connected, .resumed, .cancelled,
      .noted (.vanished (-9)), .noted .told, .resumed]
    let killed := ({} : Inquiry).run turns
    killed.child.exitCode = some (-9) ∧
      (∀ later, (∀ turn ∈ later, turn ≠ .cancelled) → .noted .closed ∉ later →
        (killed.run later).isEnded = false) ∧
      (detect (smallEngine.siteInTurns (fun _ => some "/py") fun _ _ host => (.waited turns, host))
        (bareHost, [])).ending = .pending := by
  -- The exit is told and the end of the output is not, so the wait goes on.
  intro turns killed
  have givingUp : Inquiry.GivingUp true killed := ⟨fun _ => rfl, rfl, .inl ⟨rfl, rfl⟩⟩
  refine ⟨rfl, fun later others away => ?_, ?_⟩
  · exact givingUp.unended_of_endless others rfl ⟨rfl, .inr away⟩
  · have absent : checkPath bareHost smallEngine.binaryPath
        = .error (.system ⟨.noEntry, smallEngine.binaryPath⟩) := by decide +kernel
    rw [detect_of_absent _ _ rfl absent]
    rfl

end ModelServing.Engine
