import ModelServing.Proofs.Run.ExitReport
import ModelServing.Proofs.Run.Moves
import ModelServing.Proofs.Run.Turns

/-! How the supervision of a server goes on that was given up, in whatever order things come. -/

namespace ModelServing.Run

variable {σ : Type}

namespace Supervision

/-- A supervision that nobody has given up has sent no signal, and goes on or has ended. -/
structure Unasked (state : Supervision σ) : Prop where
  sound : state.child.Sound
  silent : state.signals = []
  stage : state.stage.isUnasked = true ∨ ∃ outcome, state.stage = .ended outcome

/-- How far a supervision is that was given up, and whose grace period, if it has one, is over at a
time. Only a server that is gone is not signalled. -/
inductive GivingUp (limit : Nat) (state : Supervision σ) : Prop
  | discarded (stage : state.stage = .discarding)
  | asked (stage : state.stage = .stopping) (due : state.limit = some limit)
    (signalled : state.child.gone = none → state.signals = [.terminate])
  | killed (stage : state.stage = .killing) (awaited : state.child.awaited = true)
    (signalled : state.child.gone = none → .kill ∈ state.signals)
  | ended (stage : state.stage = .ended .cancelled) (gone : state.child.gone.isSome = true)

/-- Whether a turn at a time ends a supervision that was given up: it goes on, and its wait for the
exit is over; or the grace period is over, and the exit code is told. -/
def EndsWith (state : Supervision σ) (now : Nat) (turn : Turn) : Prop :=
  -- Both ways need the exit to be told; only the first needs the end of the output.
  turn = .resumed ∧ state.child.isOver = true ∨
    turn = .graceOver ∧ state.stage = .stopping ∧
      (∃ limit, state.limit = some limit ∧ limit ≤ now) ∧ state.child.exitCode.isSome = true

section Steps

variable {ops : Sink σ} {name : String} {grace : Int} {now limit : Nat}
  {state : Supervision σ}

/-- Ending a supervision leaves the server as it is seen. -/
@[simp] theorem child_conclude : (state.conclude name).child = state.child := by
  -- Ending writes to the stage and to the log.
  unfold conclude
  split <;> rfl

/-- Ending a supervision that was given up leaves the server as it is seen. -/
@[simp] theorem child_dismiss : (state.dismiss name).child = state.child := by
  -- Ending writes to the stage and to the log.
  unfold dismiss
  split <;> rfl

/-- Signals reach a server that is not gone. -/
theorem signalling_of_running {signal : Signal} (running : state.child.gone = none) :
    state.signalling signal = state.signals ++ [signal] := by
  -- Nothing stands in the way of a signal but that the process is gone.
  simp [signalling, running]

/-- Signals do not reach a server that is gone. -/
theorem signalling_of_gone {signal : Signal} (gone : state.child.gone.isSome = true) :
    state.signalling signal = state.signals := by
  -- A process that is gone is not sent anything.
  simp [signalling, gone]

/-- What is sent to a server that has not been signalled before. -/
theorem signalling_of_silent {signal : Signal} (silent : state.signals = []) :
    state.signalling signal = if state.child.gone.isSome then [] else [signal] := by
  -- The first signal is the only one there can be.
  simp [signalling, silent]

/-- Nothing is given up but by who waits. -/
theorem Unasked.turn {turn : Turn} (unasked : state.Unasked) (waiting : turn.givesUp = false) :
    (state.turn ops name grace now turn).Unasked := by
  -- Every turn is one of a few moves, and those that send a signal are made by who gives up or come
  -- after that.
  obtain ⟨sound, silent, stage⟩ := unasked
  have moves : Moves grace now turn state (state.turn ops name grace now turn) :=
    turn_moves ops name grace now turn
  refine ⟨(follows_turn ops name grace now state turn).sound sound, ?_, ?_⟩
  · cases moves with
    | kept _ signals | left _ _ signals => exact signals.trans silent
    | proceeded _ proceeds => exact proceeds.signals.trans silent
    | discarded _ _ _ cause | asked _ _ _ _ _ cause | overrun _ _ _ _ _ cause
    | abandoned _ _ _ cause => simp [waiting] at cause
    | killed stopping => rcases stage with other | ⟨_, other⟩ <;> simp_all [Stage.isUnasked]
  · cases moves with
    | kept same => exact same ▸ stage
    | left _ ended => exact .inr ⟨_, ended⟩
    | proceeded _ proceeds =>
      exact proceeds.stage.imp_right fun ended =>
        ended.elim (fun ⟨_, exited⟩ => ⟨_, exited⟩) fun ⟨_, _, failed⟩ => ⟨_, failed⟩
    | discarded _ _ _ cause | asked _ _ _ _ _ cause | overrun _ _ _ _ _ cause
    | abandoned _ _ _ cause => simp [waiting] at cause
    | killed stopping => rcases stage with other | ⟨_, other⟩ <;> simp_all [Stage.isUnasked]

/-- A server that was given up once stays so, and nothing but its end comes of that. -/
theorem GivingUp.turn {turn : Turn} (givingUp : GivingUp limit state)
    (sound : state.child.Sound) (waiting : turn.givesUp = false) :
    GivingUp limit (state.turn ops name grace now turn) := by
  -- The moves of a turn are gone through for each of the states that giving up leads to.
  have follows := follows_turn ops name grace now state turn
  have moves : Moves grace now turn state (state.turn ops name grace now turn) :=
    turn_moves ops name grace now turn
  generalize state.turn ops name grace now turn = next at follows moves
  have running (unseen : next.child.gone = none) : state.child.gone = none := by
    simpa [unseen] using mt follows.gone
  cases moves with
  | kept stage signals due waits =>
    cases givingUp with
    | discarded discarding => exact .discarded (stage.trans discarding)
    | asked stopping limit signalled =>
      exact .asked (stage.trans stopping) (due.trans limit) fun unseen =>
        signals.trans (signalled (running unseen))
    | killed killing awaited signalled =>
      exact .killed (stage.trans killing) (waits awaited) fun unseen =>
        signals ▸ signalled (running unseen)
    | ended reached gone => exact .ended (stage.trans reached) (follows.gone gone)
  | proceeded unasked => cases givingUp <;> simp_all [Stage.isUnasked]
  | discarded _ _ _ cause | asked _ _ _ _ _ cause | overrun _ _ _ _ _ cause
  | abandoned _ _ _ cause => simp [waiting] at cause
  | left _ ended _ known => exact .ended ended (follows.gone (known.elim sound id))
  | killed _ stage signals _ _ awaited =>
    refine .killed stage awaited fun unseen => ?_
    rw [signals, signalling_of_running (running unseen)]
    exact List.mem_append_right _ List.mem_cons_self

/-- Of a server that was given up, a turn sends at most the second signal, and that only when its
grace period is over and it is not gone. -/
theorem GivingUp.kills {turn : Turn} (givingUp : GivingUp limit state)
    (waiting : turn.givesUp = false) :
    let next := state.turn ops name grace now turn
    next.signals = state.signals ∨
      state.signals = [.terminate] ∧ next.signals = [.terminate, .kill] ∧
        state.child.exitCode = none ∧ state.child.gone = none ∧ limit ≤ now := by
  -- Of the moves that are left, one only sends a signal, and it is made when the grace period is
  -- over.
  intro next
  have moves : Moves grace now turn state next := turn_moves ops name grace now turn
  cases moves with
  | kept _ signals | left _ _ signals | abandoned _ _ signals => exact .inl signals
  | proceeded _ proceeds => exact .inl proceeds.signals
  | discarded _ _ _ cause | asked _ _ _ _ _ cause | overrun _ _ _ _ _ cause =>
    simp [waiting] at cause
  | killed stopping _ signals untold due =>
    cases givingUp with
    | discarded other | killed other | ended other => cases stopping.symm.trans other
    | asked _ awaited signalled =>
      cases seen : state.child.gone with
      | some code => exact .inl (signals.trans (signalling_of_gone (by rw [seen]; rfl)))
      | none =>
        have sent := signalled seen
        obtain ⟨_, same, passed⟩ := due
        obtain rfl := Option.some.inj (awaited.symm.trans same)
        refine .inr ⟨sent, ?_, untold, rfl, passed⟩
        rw [signals, signalling_of_running seen, sent]
        rfl

/-- Once the grace period is over, a server that was asked to terminate is gone or was killed. -/
theorem GivingUp.struck (givingUp : GivingUp limit state) (sound : state.child.Sound)
    (asked : state.stage ≠ .discarding) (due : limit ≤ now) :
    let next := state.turn ops name grace now .graceOver
    next.child.gone.isSome = true ∨ .kill ∈ next.signals := by
  -- The stage is that of a server asked to terminate, or it is later, where the server was killed
  -- or is gone.
  intro next
  -- A server that has been killed before, or is gone, is not struck any more.
  cases givingUp with
  | discarded stage => exact absurd stage asked
  | asked stopping awaited =>
    have struck : next = state.endGrace name now := by
      simp [next, Supervision.turn, outcome?, stopping]
    rw [struck]
    simp only [endGrace, log, awaited, Option.any_some, due, decide_true, if_true]
    split
    · rename_i told
      exact .inl (by simpa using sound told)
    · cases seen : state.child.gone with
      | some code => exact .inl (by simp [Child.await, seen])
      | none => exact .inr (by simp [signalling, seen])
  | killed killing _ signalled =>
    have same : next = state := by simp [next, Supervision.turn, outcome?, killing]
    rw [same]
    cases gone : state.child.gone with
    | some code => exact .inl rfl
    | none => exact .inr (signalled gone)
  | ended stage gone =>
    have same : next = state := turn_of_ended ops name grace (by simp [outcome?, stage]) now .graceOver
    rw [same]
    exact .inl gone

/-- The supervision of a server that was given up has ended as that, and only once the server is
gone, or goes on. -/
theorem GivingUp.outcome (givingUp : GivingUp limit state) :
    state.outcome? = none ∨ state.outcome? = some .cancelled ∧ state.child.gone.isSome = true := by
  -- Only the last of its stages is an end.
  cases givingUp with
  | discarded stage | asked stage | killed stage => exact .inl (by simp [outcome?, stage])
  | ended stage gone => exact .inr ⟨outcome?_eq_some_iff.mpr stage, gone⟩

/-- Whether a supervision that was given up waits no more is what ends it. -/
theorem isSome_outcome?_waitThen {next : Supervision σ → Supervision σ}
    (ends : (next state).stage = .ended .cancelled) (going : state.outcome? = none) :
    (state.waitThen next).outcome?.isSome = true ↔ state.child.isOver = true := by
  -- What waits on is as it was but for the wait.
  have same : { state with child := state.child.await }.outcome? = none := going
  unfold waitThen
  split
  · rename_i past
    exact iff_of_true (by simp [outcome?, ends]) past
  · rename_i waits
    exact iff_of_false (by simp [same]) waits

/-- A supervision that was given up ends in one of two ways. -/
theorem GivingUp.ends_iff {turn : Turn} (givingUp : GivingUp limit state)
    (waiting : turn.givesUp = false) (going : state.outcome? = none) :
    (state.turn ops name grace now turn).outcome?.isSome = true ↔ EndsWith state now turn := by
  -- One kind of turn after the other is excluded, until the two that can end it are left.
  have unended {next : Supervision σ} (same : next.stage = state.stage)
      (other : ¬EndsWith state now turn) :
      next.outcome?.isSome = true ↔ EndsWith state now turn :=
    iff_of_false (by simp [outcome?, same] at going ⊢; simp [going]) other
  unfold Supervision.turn
  simp only [going, Option.isSome_none, Bool.false_eq_true, if_false]
  cases turn with
  | noted notice => exact unended rfl (by simp [EndsWith])
  | pumped =>
    refine unended ?_ (by simp [EndsWith])
    dsimp only
    split
    · simp only [Supervision.advance]
      split <;> rfl
    · rfl
  | cancelled refused => cases waiting
  | resumed =>
    have resumes : EndsWith state now .resumed ↔ state.child.isOver = true := by simp [EndsWith]
    rw [resumes]
    cases givingUp with
    | discarded stage =>
      simpa [resume, stage] using isSome_outcome?_waitThen rfl going
    | asked stage | killed stage =>
      simpa [resume, stage] using isSome_outcome?_waitThen (dismiss_eq name state).1 going
    | ended stage => simp [outcome?, stage] at going
  | graceOver =>
    dsimp only
    split
    · rename_i stopping
      simp only [endGrace]
      split
      · rename_i due
        have passed : ∃ limit, state.limit = some limit ∧ limit ≤ now := by
          simpa [Option.any_eq_true] using due
        split
        · rename_i told
          refine iff_of_true ?_ (.inr ⟨rfl, stopping, passed, told⟩)
          simp [outcome?, (dismiss_eq name _).1]
        · rename_i untold
          refine iff_of_false (by simp [outcome?]) ?_
          rintro (⟨other, -⟩ | ⟨-, -, -, told⟩)
          · cases other
          · exact untold told
      · rename_i early
        refine unended rfl ?_
        rintro (⟨other, -⟩ | ⟨-, -, ⟨limit, awaited, passed⟩, -⟩)
        · cases other
        · simp [awaited, passed] at early
    · rename_i stage
      refine unended rfl ?_
      rintro (⟨other, -⟩ | ⟨-, stopping, -⟩)
      · cases other
      · exact stage stopping

/-- A wait for the exit of a server that is over stays so until somebody gives up. -/
theorem isOver_turn {turn : Turn} (sound : state.child.Sound) (waiting : turn.givesUp = false)
    (past : state.child.isOver = true) :
    (state.turn ops name grace now turn).child.isOver = true := by
  -- No turn begins another wait but that of who gives up, and what was told stays told.
  have waited (next : Supervision σ → Supervision σ) : state.waitThen next = next state := by
    simp [waitThen, past]
  have drains (state : Supervision σ) : (state.drain name).child = state.child := by
    rw [drain, child_conclude]
  have told : state.child.exitCode.isSome = true := (Bool.and_eq_true_iff.mp past).1
  unfold Supervision.turn
  split
  · exact past
  · cases turn with
    | noted notice => exact Child.isOver_note sound past notice
    | pumped =>
      dsimp only
      split
      · simp only [Supervision.advance]
        split <;> exact past
      · exact past
    | cancelled refused => cases waiting
    | resumed =>
      -- Going on leaves what is waited for behind, and the server as it is seen.
      dsimp only [resume]
      split
      · split
        · simp [serve, waitThen, log, past, drains]
        · exact past
      · rwa [waited]
      · rwa [waited, drains]
      · rwa [child_conclude]
      · rwa [waited, child_dismiss]
      · rwa [waited, child_dismiss]
      · exact past
    | graceOver =>
      dsimp only
      split
      · simp only [endGrace, log, told, if_true]
        split
        · rwa [child_dismiss]
        · exact past
      · exact past

end Steps

section Asked

variable {ops : Sink σ} {name : String} {grace : Int} {state : Supervision σ}

/-- A server that is given up while its output is being connected is killed on the spot. -/
theorem Unasked.turn_starting (unasked : state.Unasked) (starting : state.stage = .starting)
    (time : Nat) (refused : Bool) :
    let next := state.turn ops name grace time (.cancelled refused)
    next.stage = (if state.child.exitCode.isSome then .ended .cancelled else .discarding) ∧
      next.signals = if state.child.gone.isSome then [] else [.kill] := by
  -- There is nobody to talk to yet, so what giving up does is to kill and wait anew.
  intro next
  have given : next = state.discard := by
    simp [next, Supervision.turn, outcome?, starting, giveUp]
  have told : state.child.shut.renew.isOver = state.child.exitCode.isSome := by
    -- A wait that begins anew needs nothing but the exit code.
    simp only [Child.shut, Child.renew, Child.isOver]
    split <;> simp
  rw [given, discard, signalling_of_silent unasked.silent]
  unfold waitThen
  rw [told]
  split <;> simp [abandon]

/-- A server that is waited for is asked to terminate by whoever gives it up. That is over at once
if the server is known to be gone, or the grace period too long for the clock. -/
theorem Unasked.turn_waited (unasked : state.Unasked) (going : state.outcome? = none)
    (waited : state.stage ≠ .starting) (time : Nat) (refused : Bool) :
    let next := state.turn ops name grace time (.cancelled refused)
    next.stage =
        (if state.child.exitCode.isSome ∨ state.child.gone.isSome ∧ refused then .ended .cancelled
        else if graceLimit ≤ grace then .ended (.failed .hugeDelay) else .stopping) ∧
      next.signals = (if state.child.gone.isSome then [] else [.terminate]) ∧
      (next.stage = .stopping → next.limit = some (time + grace.toNat)) := by
  -- The cases are those of stopping: the exit is known, the process turns out to be gone, the clock
  -- refuses, or the request is sent.
  intro next
  have given : next = state.stop name grace time refused := by
    rcases unasked.stage with stage | ⟨outcome, ended⟩
    · cases which : state.stage <;>
        simp_all [next, Supervision.turn, outcome?, giveUp, Stage.isUnasked]
    · simp [outcome?, ended] at going
  have silent := unasked.silent
  rw [given]
  simp only [stop]
  split
  · rename_i found
    have gone : state.child.gone.isSome = true := by
      simp only [log, Bool.or_eq_true, Bool.and_eq_true] at found
      exact found.elim unasked.sound And.left
    have known : state.child.exitCode.isSome ∨ state.child.gone.isSome ∧ refused := by
      simpa [log] using found
    have ends := dismiss_eq name (state.log [.info ("Stopping " ++ name ++ " server (PID: N)")])
    refine ⟨by rw [if_pos known, ends.1], by rw [ends.2]; simp [log, silent, gone], fun stage => ?_⟩
    cases ends.1.symm.trans stage
  · rename_i unfound
    have unknown : ¬(state.child.exitCode.isSome ∨ state.child.gone.isSome ∧ refused) := by
      simpa [log] using unfound
    rw [if_neg unknown]
    split
    · exact ⟨rfl, signalling_of_silent silent, fun stage => by cases stage⟩
    · exact ⟨rfl, signalling_of_silent silent, fun _ => rfl⟩

/-- A server that is waited for is asked to terminate, and given up from then on, unless that is
over at once. -/
theorem Unasked.givingUp (unasked : state.Unasked) (going : state.outcome? = none) (time : Nat)
    (refused : Bool) :
    let next := state.turn ops name grace time (.cancelled refused)
    next.stage = .ended (.failed .hugeDelay) ∨ GivingUp (time + grace.toNat) next := by
  -- The two ways to give up, before and after the output is connected, are put together.
  intro next
  have follows : next.child.Follows state.child :=
    follows_turn ops name grace time state (.cancelled refused)
  by_cases starting : state.stage = .starting
  · obtain ⟨stage, -⟩ : next.stage =
        (if state.child.exitCode.isSome then .ended .cancelled else .discarding) ∧ _ :=
      unasked.turn_starting starting time refused
    split at stage
    · rename_i told
      exact .inr (.ended stage (follows.gone (unasked.sound told)))
    · exact .inr (.discarded stage)
  · obtain ⟨stage, signals, limit⟩ : next.stage =
          (if state.child.exitCode.isSome ∨ state.child.gone.isSome ∧ refused then .ended .cancelled
          else if graceLimit ≤ grace then .ended (.failed .hugeDelay) else .stopping) ∧
        next.signals = (if state.child.gone.isSome then [] else [.terminate]) ∧
        (next.stage = .stopping → next.limit = some (time + grace.toNat)) :=
      unasked.turn_waited going starting time refused
    split at stage
    · rename_i known
      exact .inr (.ended stage (follows.gone (known.elim unasked.sound And.left)))
    · split at stage
      · exact .inl stage
      · refine .inr (.asked stage (limit stage) fun running => ?_)
        -- A server that is not gone now was not gone before.
        have before : state.child.gone = none := by simpa [running] using mt follows.gone
        simp [signals, before]

end Asked

section Runs

variable {ops : Sink σ} {name : String} {grace : Int} {limit : Nat} {turns : List (Nat × Turn)}
  {state : Supervision σ}

/-- Until somebody gives it up, a server is sent no signal. -/
theorem Unasked.run (unasked : state.Unasked) (waiting : ∀ entry ∈ turns, entry.2.givesUp = false) :
    (state.run ops name grace turns).Unasked := by
  -- Each turn leaves it unasked.
  induction turns generalizing state with
  | nil => exact unasked
  | cons entry rest ih =>
    obtain ⟨first, others⟩ := List.forall_mem_cons.mp waiting
    exact ih (unasked.turn first) others

/-- Whatever comes after it, a server that was given up once stays so. -/
theorem GivingUp.run (givingUp : GivingUp limit state) (sound : state.child.Sound)
    (waiting : ∀ entry ∈ turns, entry.2.givesUp = false) :
    (state.run ops name grace turns).child.Sound ∧
      GivingUp limit (state.run ops name grace turns) := by
  -- Each turn keeps both.
  induction turns generalizing state with
  | nil => exact ⟨sound, givingUp⟩
  | cons entry rest ih =>
    obtain ⟨first, others⟩ := List.forall_mem_cons.mp waiting
    exact ih (givingUp.turn sound first)
      ((follows_turn ops name grace entry.1 state entry.2).sound sound) others

/-- A server that was killed on the spot is sent nothing more. -/
theorem signals_run_of_discarding
    (stage : state.stage = .discarding ∨ state.outcome?.isSome = true)
    (waiting : ∀ entry ∈ turns, entry.2.givesUp = false) :
    (state.run ops name grace turns).signals = state.signals := by
  -- It is only waited for, which ends or goes on.
  induction turns generalizing state with
  | nil => rfl
  | cons entry rest ih =>
    obtain ⟨first, others⟩ := List.forall_mem_cons.mp waiting
    rcases stage with discarding | ended
    · rw [run_cons]
      have moves : Moves grace entry.1 entry.2 state (state.turn ops name grace entry.1 entry.2) :=
        turn_moves ops name grace entry.1 entry.2
      cases moves with
      | kept same signals => exact (ih (.inl (same.trans discarding)) others).trans signals
      | left _ ended signals => exact (ih (.inr (by simp [outcome?, ended])) others).trans signals
      | proceeded unasked => simp [discarding, Stage.isUnasked] at unasked
      | killed stopping => cases stopping.symm.trans discarding
      | discarded _ _ _ cause | asked _ _ _ _ _ cause | overrun _ _ _ _ _ cause
      | abandoned _ _ _ cause => simp [first] at cause
    · rw [run_of_ended ops name grace ended]

/-- A server that was given up once has ended once its supervision goes on, if its wait for the exit
is over by then. -/
theorem GivingUp.ended_of_resumed (givingUp : GivingUp limit state) (sound : state.child.Sound)
    (waiting : ∀ entry ∈ turns, entry.2.givesUp = false) (past : state.child.isOver = true)
    (resumes : Turn.resumed ∈ turns.map (·.2)) :
    (state.run ops name grace turns).outcome?.isSome = true := by
  -- Induction on the turns: a wait that is over stays so, and the first turn that goes on ends it.
  induction turns generalizing state with
  | nil => cases resumes
  | cons entry rest ih =>
    obtain ⟨first, others⟩ := List.forall_mem_cons.mp waiting
    cases ended : state.outcome?.isSome with
    | true => rw [run_of_ended ops name grace ended, ended]
    | false =>
      rw [run_cons]
      rcases List.mem_cons.mp resumes with now | later
      · -- This is the turn that ends it, and nothing undoes that.
        have ends : (state.turn ops name grace entry.1 entry.2).outcome?.isSome = true :=
          (givingUp.ends_iff first (by simpa using ended)).mpr (.inl ⟨now.symm, past⟩)
        rw [run_of_ended ops name grace ends, ends]
      · exact ih (givingUp.turn sound first)
          ((follows_turn ops name grace entry.1 state entry.2).sound sound) others
          (isOver_turn sound first past) later

/-- A server that was killed is waited for in vain from then on if its pump is over and too much of
its output lies unread. -/
theorem GivingUp.unended_of_stuck (givingUp : GivingUp limit state)
    (killed : state.stage = .killing) (stuck : Stuck state)
    (waiting : ∀ entry ∈ turns, entry.2.givesUp = false) :
    (state.run ops name grace turns).outcome? = none := by
  -- The wait needs the end of the output, and that is not noticed while too much lies unread.
  cases givingUp with
  | discarded stage | asked stage | ended stage => cases stage.symm.trans killed
  | killed stage awaited =>
    have jammed : Jammed state := ⟨stuck, .inr stage, awaited⟩
    obtain ⟨still, -⟩ : Jammed (state.run ops name grace turns) ∧ _ := jammed.run waiting
    exact still.outcome?

end Runs

/-- A server that has just been started is asked nothing. -/
theorem unasked_supervision (server : Server) (sink : σ) : (server.supervision sink).Unasked :=
  -- Nothing has happened to it yet.
  ⟨nofun, rfl, .inl rfl⟩

end Supervision

open Supervision in
/-- In whatever order things come, a server that is given up once, before its supervision has ended,
is told to have been given up, and not before it is gone, unless its grace period is too long for
the clock. While its output is being connected it is killed on the spot. Later it is asked to
terminate only if it is not gone, and killed only after that, if it is still not gone once its whole
grace period is over. The supervision ends when it goes on and the exit code is told and, unless it
was told when the wait began, the end of the output noticed. It does not end once the server was
killed with too much of its output left unread by a pump that is over. Every attended server goes
through such turns. -/
theorem cancelled_run (server : Server) (settings : Settings) (ops : Sink σ) (sink : σ)
    {before after : List (Nat × Turn)} (time : Nat) (refused : Bool)
    (once : ∀ entry ∈ before ++ after, entry.2.givesUp = false)
    (going : ((server.supervision sink).run ops server.name (server.grace settings)
      before).outcome? = none) :
    let grace := server.grace settings
    let held := (server.supervision sink).run ops server.name grace before
    let asked := held.turn ops server.name grace time (.cancelled refused)
    let final := asked.run ops server.name grace after
    let overrun := asked.outcome? = some (.failed .hugeDelay)
    held.signals = [] ∧
      (held.stage = .starting →
        asked.stage = (if held.child.exitCode.isSome then .ended .cancelled else .discarding) ∧
          asked.signals = (if held.child.gone.isSome then [] else [.kill]) ∧
          final.signals = asked.signals) ∧
      (held.stage ≠ .starting →
        asked.stage =
            (if held.child.exitCode.isSome ∨ held.child.gone.isSome ∧ refused then
              .ended .cancelled
            else if graceLimit ≤ grace then .ended (.failed .hugeDelay) else .stopping) ∧
          asked.signals = if held.child.gone.isSome then [] else [.terminate]) ∧
      (final.outcome? = none ∨ final.outcome? = some .cancelled ∧ final.child.gone.isSome = true ∨
        overrun ∧ final = asked) ∧
      (∀ early now turn late, after = early ++ (now, turn) :: late → ¬overrun →
        let sooner := asked.run ops server.name grace early
        let later := sooner.turn ops server.name grace now turn
        (later.signals = sooner.signals ∨
          sooner.signals = [.terminate] ∧ later.signals = [.terminate, .kill] ∧
            sooner.child.exitCode = none ∧ sooner.child.gone = none ∧ time + grace.toNat ≤ now) ∧
        (turn = .graceOver → sooner.stage ≠ .discarding → time + grace.toNat ≤ now →
          later.child.gone.isSome = true ∨ .kill ∈ later.signals) ∧
        (sooner.outcome? = none → (later.outcome?.isSome = true ↔ sooner.EndsWith now turn)) ∧
        (sooner.child.isOver = true → .resumed ∈ turn :: late.map (·.2) →
          final.outcome? = some .cancelled) ∧
        (sooner.stage = .killing → Stuck sooner → final.outcome? = none)) ∧
      ∀ deadline behavior, ∃ turns, turns.countP (fun entry => entry.2.givesUp) ≤ 1 ∧
        (server.supervision sink).run ops server.name grace turns
          = (server.attend settings ops deadline sink behavior).state := by
  -- Everything before giving up, giving up itself and everything after it are three invariants that
  -- follow from one another.
  intro grace held asked final overrun
  obtain ⟨noneBefore, noneAfter⟩ := List.forall_mem_append.mp once
  have unasked : held.Unasked := (unasked_supervision server sink).run noneBefore
  have sound : asked.child.Sound :=
    (follows_turn ops server.name grace time held (.cancelled refused)).sound unasked.sound
  -- Unless it is over for its grace period, the server has been given up from then on.
  have givingUp (within : ¬overrun) : GivingUp (time + grace.toNat) asked :=
    (unasked.givingUp going time refused).resolve_left fun ended =>
      within (outcome?_eq_some_iff.mpr ended)
  have kept {turns : List (Nat × Turn)} (within : ¬overrun)
      (waiting : ∀ entry ∈ turns, entry.2.givesUp = false) :
      (asked.run ops server.name grace turns).child.Sound ∧
        GivingUp (time + grace.toNat) (asked.run ops server.name grace turns) :=
    (givingUp within).run sound waiting
  refine ⟨unasked.silent, fun starting => ?_, fun waited => ?_, ?_, ?_,
    fun _ behavior => server.exists_run_eq_attend settings ops _ sink behavior⟩
  · obtain ⟨stage, signals⟩ : asked.stage =
          (if held.child.exitCode.isSome then .ended .cancelled else .discarding) ∧
        asked.signals = (if held.child.gone.isSome then [] else [.kill]) :=
      unasked.turn_starting starting time refused
    refine ⟨stage, signals, signals_run_of_discarding ?_ noneAfter⟩
    split at stage
    · exact .inr (by simp [outcome?, stage])
    · exact .inl stage
  · exact (unasked.turn_waited going waited time refused).imp_right And.left
  · by_cases within : overrun
    · have ended : asked.outcome?.isSome = true := Option.isSome_of_mem within
      exact .inr (.inr ⟨within, run_of_ended ops server.name grace ended after⟩)
    · exact (kept within noneAfter).2.outcome.imp_right .inl
  · rintro early now turn late rfl within
    intro sooner later
    obtain ⟨first, rest⟩ := List.forall_mem_append.mp noneAfter
    obtain ⟨waiting, -⟩ := List.forall_mem_cons.mp rest
    obtain ⟨soundly, onward⟩ := kept within first
    have whole : final = sooner.run ops server.name grace ((now, turn) :: late) :=
      run_append ops server.name grace asked early ((now, turn) :: late)
    refine ⟨onward.kills waiting, ?_, onward.ends_iff waiting, fun past resumes => ?_,
      fun killed stuck => whole ▸ onward.unended_of_stuck killed stuck rest⟩
    · rintro rfl asked due
      exact onward.struck soundly asked due
    · have ends : final.outcome?.isSome = true :=
        whole ▸ onward.ended_of_resumed soundly rest past resumes
      rcases (kept within noneAfter).2.outcome with unended | ⟨ended, -⟩
      · simp [show final.outcome? = none from unended] at ends
      · exact ended

/-- A server that passes over the request to terminate and whose output nobody takes is killed once
its grace period is over. It is told to have been given up, and not that its pump has failed. -/
theorem cancelled_run_of_stubborn_server :
    let before := [(0, Turn.noted .connected), (0, .resumed), (1, .noted (.printed [104, 105, 10])),
      (2, .pumped)]
    let after := [(30005, Turn.graceOver), (30006, .noted (.vanished (-9))), (30007, .noted .closed),
      (30008, .noted .told), (30009, .resumed)]
    let ops := recorder (some .sinkClosed)
    let held := (echo.supervision {}).run ops "echo" 30000 before
    let final := (held.turn ops "echo" 30000 5 (.cancelled false)).run ops "echo" 30000 after
    (∀ entry ∈ before ++ after, entry.2.givesUp = false) ∧ held.outcome? = none ∧
      held.pump.state = .failed .sinkClosed ∧ final.signals = [.terminate, .kill] ∧
      final.outcome? = some .cancelled := by
  -- The sink refuses the first line, so that the pump is over before the server is given up.
  intro before after ops held final
  have once : ∀ entry ∈ before ++ after, entry.2.givesUp = false := by decide
  have going : held.outcome? = none := by decide +kernel
  obtain ⟨_, _, _, _, steps, _⟩ := cancelled_run echo {} ops {} 5 false once going
  -- It ends with the last turn, before which its exit was told and the end of its output noticed.
  obtain ⟨_, _, _, ends, _⟩ := steps [(30005, .graceOver), (30006, .noted (.vanished (-9))),
    (30007, .noted .closed), (30008, .noted .told)] 30009 .resumed [] rfl (by decide +kernel)
  exact ⟨once, going, by decide +kernel, by decide +kernel,
    ends (by decide +kernel) List.mem_cons_self⟩

open Supervision in
/-- A server that is given up may be killed without having been asked to terminate, may be told to
have failed, and may never be told to have been given up. -/
theorem cancellation_lost :
    ((echo.supervision {}).turn (recorder none) "echo" 30000 1 (.cancelled false)).signals
        = [.kill] ∧
      (((echo.supervision {}).run (recorder none) "echo" graceLimit Server.openingTurns).turn
          (recorder none) "echo" graceLimit 1 (.cancelled false)).outcome?
        = some (.failed .hugeDelay) ∧
      ∃ before after, ∀ late, (∀ entry ∈ late, entry.2.givesUp = false) →
        let held := (echo.supervision {}).run (recorder (some .sinkClosed)) "echo" 30000 before
        let killed := (held.turn (recorder (some .sinkClosed)) "echo" 30000 5 (.cancelled false)).run
          (recorder (some .sinkClosed)) "echo" 30000 after
        held.outcome? = none ∧ killed.child.exitCode = some (-9) ∧
          (killed.run (recorder (some .sinkClosed)) "echo" 30000 late).outcome? = none := by
  -- Each of the three is one run, and only the last one needs an argument about all that may
  -- follow.
  refine ⟨by decide +kernel, by decide +kernel, ?_⟩
  -- The sink refuses the first line, and then more is printed than is let in unread.
  obtain ⟨flood, long⟩ : ∃ flood : List UInt8, inflowLimit < flood.length :=
    ⟨List.replicate (inflowLimit + 1) 10, by simp⟩
  let opened := Server.openingTurns ++ [(1, .noted (.printed [10])), (2, .pumped)]
  refine ⟨opened ++ [(3, .noted (.printed flood))], [(30005, .graceOver),
    (30006, .noted (.vanished (-9))), (30007, .noted .closed), (30008, .noted .told)],
    fun late waiting => ?_⟩
  intro held killed
  have within : ¬graceLimit ≤ 30000 := by decide +kernel
  generalize start : (echo.supervision {}).run (recorder (some .sinkClosed)) "echo" 30000 opened
    = first
  have stage : first.stage = .serving := by
    rw [← start]
    decide +kernel
  have failed : first.pump.state = .failed .sinkClosed := by
    rw [← start]
    decide +kernel
  have child : first.child = { connected := true, awaited := true } := by
    rw [← start]
    decide +kernel
  have printed : held = { first with child := {
      inflow := { unread := flood, paused := true }, connected := true, awaited := true } } := by
    simp only [held, run_append, start]
    simp [Supervision.turn, outcome?, stage, child, Child.note, Inflow.arrive, long]
  obtain ⟨known, killing, pump⟩ :
      killed.child = {
        inflow := { unread := flood, paused := true }, connected := true, awaited := true
        gone := some (-9), exitCode := some (-9) } ∧
      killed.stage = .killing ∧ killed.pump = first.pump := by
    simp [killed, printed, Supervision.turn, outcome?, stage, Child.note, giveUp, stop, log, within,
      Child.renew, endGrace, Child.await, Inflow.finish]
  -- The end of the output is not noticed from then on, so that the wait for the exit goes on.
  have jammed : Jammed killed := {
    past := by simp [pump, failed, Pumping.isOver]
    unclosed := by rw [known]
    paused := by rw [known]
    long := by
      rw [known]
      exact Nat.lt_trans (by decide) long
    stage := .inr killing
    awaited := by rw [known] }
  obtain ⟨still, -⟩ : Jammed (killed.run (recorder (some .sinkClosed)) "echo" 30000 late) ∧ _ :=
    jammed.run waiting
  exact ⟨by simp [printed, outcome?, stage], by rw [known], still.outcome?⟩

end ModelServing.Run
