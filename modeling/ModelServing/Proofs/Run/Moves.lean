import ModelServing.Proofs.Run.Serving

/-! What a single turn can make of a supervision. -/

namespace ModelServing.Run

variable {σ : Type}

/-- What is known of the exit of a process: the exit code of one that is gone, and what was told. -/
def Child.known (child : Child) : Option Int × Option Int := (child.gone, child.exitCode)

/-- What is known of a process of which something was known before: one that is gone stays gone, and
what is told of it is what has become of it. -/
structure Child.Follows (new old : Child) : Prop where
  gone : old.gone.isSome = true → new.gone.isSome = true
  told : new.exitCode = old.exitCode ∨ new.exitCode = new.gone

namespace Child

@[simp] theorem known_await (child : Child) : child.await.known = child.known := rfl

@[simp] theorem known_renew (child : Child) : child.renew.known = child.known := rfl

@[simp] theorem known_shut (child : Child) : child.shut.known = child.known := by
  -- Shutting an output concerns nothing but the output.
  unfold shut
  split <;> rfl

/-- Whatever lies unread, the same is known of the exit. -/
@[simp] theorem known_inflow (child : Child) (inflow : Inflow) :
    { child with inflow }.known = child.known := rfl

/-- Nothing new is known of a process of which the same is known. -/
theorem Follows.of_known {old new : Child} (same : new.known = old.known) : new.Follows old := by
  -- Both parts of what is known are the same.
  obtain ⟨gone, told⟩ := Prod.mk.inj same
  exact ⟨fun before => gone ▸ before, .inl told⟩

/-- What becomes of a process is known after what was known before. -/
theorem follows_note (notice : Notice) (child : Child) : (child.note notice).Follows child := by
  -- A notice tells nothing, that the process is gone, or that its exit is told.
  cases notice with
  | connected => exact .of_known rfl
  | printed bytes | closed =>
    simp only [note]
    split
    · exact .of_known rfl
    · exact .of_known rfl
  | vanished code =>
    exact ⟨fun _ => by simp [note], .inl rfl⟩
  | told => exact ⟨id, .inr rfl⟩

/-- Whether the exit code of a process is told only once the process is gone. -/
def Sound (child : Child) : Prop := child.exitCode.isSome = true → child.gone.isSome = true

/-- Sound knowledge of a process stays sound. -/
theorem Follows.sound {old new : Child} (follows : new.Follows old) (sound : old.Sound) :
    new.Sound := by
  -- An exit is told as it was before, or as the process was found gone.
  intro told
  rcases follows.told with same | same
  · exact follows.gone (sound (same ▸ told))
  · rwa [same] at told

/-- What has been told of a process is not forgotten. -/
theorem Follows.told_of_told {old new : Child} (follows : new.Follows old) (sound : old.Sound)
    (told : old.exitCode.isSome = true) : new.exitCode.isSome = true := by
  -- What is told is either kept, or taken from what was already known.
  rcases follows.told with same | same
  · rwa [same]
  · rw [same]
    exact follows.gone (sound told)

/-- A wait for the exit that is over stays so, whatever becomes of the process. -/
theorem isOver_note {child : Child} (sound : child.Sound) (past : child.isOver = true)
    (notice : Notice) : (child.note notice).isOver = true := by
  -- The exit stays told, and it remains that no wait has begun or that the output has ended.
  simp only [isOver, Bool.and_eq_true] at past ⊢
  obtain ⟨told, waited⟩ := past
  refine ⟨(follows_note notice child).told_of_told sound told, ?_⟩
  -- The end of the output, once noticed, stays noticed, and no wait begins.
  cases notice with
  | connected | vanished code | told => exact waited
  | printed bytes =>
    dsimp only [note]
    split <;> exact waited
  | closed =>
    dsimp only [note]
    split
    · unfold Inflow.finish
      split
      · exact waited
      · rfl
    · exact waited

end Child

/-- Whether nobody has given up a supervision that is at a stage. -/
def Stage.isUnasked : Stage → Bool
  | .starting | .serving | .draining => true
  | .discarding | .stopping | .killing | .ended _ => false

/-- Whether a supervision that is at a stage was given up, and goes on. -/
def Stage.isGivenUp : Stage → Bool
  | .discarding | .stopping | .killing => true
  | .starting | .serving | .draining | .ended _ => false

namespace Supervision

/-- How a supervision goes on that nobody gives up: it waits for the server or for its pump, or it
ends with the exit of the server or the failure of the pump. -/
structure Proceeds (old new : Supervision σ) : Prop where
  signals : new.signals = old.signals
  stage : new.stage.isUnasked = true ∨ (∃ code, new.stage = .ended (.exited code)) ∨
    ∃ failure, old.pump.state = .failed failure ∧ new.stage = .ended (.failed failure)

/-- What a turn at a time can make of a supervision. -/
inductive Moves (grace : Int) (now : Nat) (turn : Turn) (old new : Supervision σ) : Prop
  /-- The supervision stays where it is. -/
  | kept (stage : new.stage = old.stage) (signals : new.signals = old.signals)
    (limit : new.limit = old.limit)
    (awaited : old.child.awaited = true → new.child.awaited = true)
  /-- Nobody has given it up, nor does now. -/
  | proceeded (unasked : old.stage.isUnasked = true) (proceeds : Proceeds old new)
  /-- A server is given up before its output is connected, and killed with that. -/
  | discarded (starting : old.stage = .starting)
    (stage : new.stage = .discarding ∨
      new.stage = .ended .cancelled ∧ old.child.exitCode.isSome = true)
    (signals : new.signals = old.signalling .kill) (cause : turn.givesUp = true)
  /-- A server is asked to terminate. -/
  | asked (waited : old.stage = .serving ∨ old.stage = .draining) (stage : new.stage = .stopping)
    (signals : new.signals = old.signalling .terminate) (untold : old.child.exitCode = none)
    (limit : new.limit = some (now + grace.toNat)) (cause : turn.givesUp = true)
  /-- A server is asked to terminate, and its grace period is too long for the clock. -/
  | overrun (waited : old.stage = .serving ∨ old.stage = .draining)
    (ended : new.stage = .ended (.failed .hugeDelay))
    (signals : new.signals = old.signalling .terminate) (untold : old.child.exitCode = none)
    (long : graceLimit ≤ grace) (cause : turn.givesUp = true)
  /-- The server is gone, and the supervision ends as given up. -/
  | left (asked : old.stage.isUnasked = true → turn.givesUp = true)
    (ended : new.stage = .ended .cancelled) (signals : new.signals = old.signals)
    (known : old.child.exitCode.isSome = true ∨ old.child.gone.isSome = true)
  /-- The grace period of a server is over, and it is killed. -/
  | killed (stopping : old.stage = .stopping) (stage : new.stage = .killing)
    (signals : new.signals = old.signalling .kill) (untold : old.child.exitCode = none)
    (due : ∃ limit, old.limit = some limit ∧ limit ≤ now) (awaited : new.child.awaited = true)
  /-- A server is given up once more, and left to itself. -/
  | abandoned (givenUp : old.stage.isGivenUp = true) (ended : new.stage = .ended .cancelled)
    (signals : new.signals = old.signals) (cause : turn.givesUp = true)

section Known

variable (ops : Sink σ) (name : String) (grace : Int) (now : Nat) (state : Supervision σ)

/-- What is known of the exit of a server, and what its pump has come to. -/
def known (state : Supervision σ) : (Option Int × Option Int) × Pump σ :=
  (state.child.known, state.pump)

/-- Ending a supervision tells nothing new. -/
@[simp] theorem known_conclude : (state.conclude name).known = state.known := by
  -- Only the stage and the log are touched.
  unfold conclude
  split <;> rfl

/-- Ending a supervision that was given up tells nothing new. -/
@[simp] theorem known_dismiss : (state.dismiss name).known = state.known := by
  -- A failed pump is told about, and stays as it is.
  unfold dismiss
  split <;> rfl

/-- Waiting tells nothing new, if what comes after it does not. -/
theorem known_waitThen {next : Supervision σ → Supervision σ}
    (silent : ∀ state, (next state).known = state.known) :
    (state.waitThen next).known = state.known := by
  -- Either the wait is over, or it is noted that it has begun.
  unfold waitThen
  split
  · exact silent state
  · rfl

/-- Going on tells nothing new. -/
theorem known_resume : (state.resume name).known = state.known := by
  -- Going on waits, ends or moves to the next stage, and none of these asks the system.
  have drains (state : Supervision σ) : (state.drain name).known = state.known :=
    known_conclude name { state with stage := .draining }
  -- Every stage waits and goes on to the next one.
  unfold resume
  split
  · split
    · exact known_waitThen _ drains
    · rfl
  · exact known_waitThen _ fun _ => rfl
  · exact known_waitThen _ drains
  · exact known_conclude name state
  · exact known_waitThen _ (known_dismiss name)
  · exact known_waitThen _ (known_dismiss name)
  · rfl

/-- Asking a server to terminate tells nothing new. -/
theorem known_stop (refused : Bool) :
    (state.stop name grace now refused).known = state.known := by
  -- The server is left, or asked and waited for anew.
  simp only [stop]
  split
  · exact known_dismiss name _
  · split <;> rfl

/-- Giving up tells nothing new. -/
theorem known_giveUp (refused : Bool) :
    (state.giveUp name grace now refused).known = state.known := by
  -- Giving up signals and waits, and neither tells anything new.
  have left (state : Supervision σ) : state.abandon.known = state.known := rfl
  unfold giveUp
  split
  · -- The output may be closed with that, which tells nothing of the exit.
    unfold discard
    rw [known_waitThen _ left]
    exact Prod.ext (Child.known_shut state.child) rfl
  · exact known_stop name grace now state refused
  · exact known_stop name grace now state refused
  · exact left state
  · exact left state
  · exact left state
  · rfl

/-- The end of the grace period tells nothing new. -/
theorem known_endGrace : (state.endGrace name now).known = state.known := by
  -- The server is killed if it is not known to have gone.
  simp only [endGrace]
  split
  · split
    · exact known_dismiss name _
    · rfl
  · rfl

/-- What the pump takes tells nothing of the exit of the server. -/
theorem known_advance : (state.advance ops).child.known = state.child.known := by
  -- Only what lies unread is touched.
  simp only [Supervision.advance]
  split <;> rfl

/-- What is known of the server after a turn comes after what was known before. -/
theorem follows_turn (turn : Turn) :
    (state.turn ops name grace now turn).child.Follows state.child := by
  -- Notices are the one kind of turn that can bring something new.
  have same {next : Supervision σ} (silent : next.known = state.known) :
      next.child.Follows state.child := .of_known (congrArg Prod.fst silent)
  -- Only what is noted of the server tells something of it.
  unfold Supervision.turn
  split
  · exact same rfl
  · cases turn with
    | noted notice => exact Child.follows_note notice state.child
    | pumped =>
      dsimp only
      split
      · exact .of_known (known_advance ops state)
      · exact same rfl
    | resumed => exact same (known_resume name state)
    | cancelled refused => exact same (known_giveUp name grace now state refused)
    | graceOver =>
      dsimp only
      split
      · exact same (known_endGrace name now state)
      · exact same rfl

/-- Only the turns of the pump change what it has come to. -/
theorem pump_turn {turn : Turn} (other : turn ≠ .pumped) :
    (state.turn ops name grace now turn).pump = state.pump := by
  -- In every other turn the pump counts among what nothing new is known of.
  unfold Supervision.turn
  split
  · rfl
  · cases turn with
    | noted notice => rfl
    | pumped => exact absurd rfl other
    | resumed => exact congrArg Prod.snd (known_resume name state)
    | cancelled refused => exact congrArg Prod.snd (known_giveUp name grace now state refused)
    | graceOver =>
      dsimp only
      split
      · exact congrArg Prod.snd (known_endGrace name now state)
      · rfl

end Known

section Moves

variable (ops : Sink σ) (name : String) (grace : Int) (now : Nat) {state : Supervision σ}

/-- A supervision ends as its pump has, or waits for that. -/
theorem conclude_proceeds (state : Supervision σ) (unasked : state.stage.isUnasked = true) :
    Proceeds state (state.conclude name) := by
  -- The pump has failed, has finished or still runs.
  unfold conclude
  split
  · rename_i failed
    exact ⟨rfl, .inr (.inr ⟨_, failed, rfl⟩)⟩
  · exact ⟨rfl, .inr (.inl ⟨_, rfl⟩)⟩
  · exact ⟨rfl, .inl unasked⟩

/-- From the exit of a server it goes on to the pump. -/
theorem drain_proceeds (state : Supervision σ) : Proceeds state (state.drain name) := by
  -- The stage is changed to that of draining, and then the pump is looked at.
  have concludes := conclude_proceeds name { state with stage := .draining } rfl
  exact ⟨concludes.signals, concludes.stage⟩

/-- Waiting for a server that nobody gives up leads nowhere, or to what comes after it. -/
theorem waitThen_proceeds (state : Supervision σ) (unasked : state.stage.isUnasked = true) :
    Proceeds state (state.waitThen (drain name)) := by
  -- The wait is over or it goes on.
  unfold waitThen
  split
  · exact drain_proceeds name state
  · exact ⟨rfl, .inl unasked⟩

/-- What a supervision that was given up ends with sends no signal. -/
theorem dismiss_eq (state : Supervision σ) :
    (state.dismiss name).stage = .ended .cancelled ∧ (state.dismiss name).signals = state.signals := by
  -- Ending logs one line at most.
  unfold dismiss
  split <;> exact ⟨rfl, rfl⟩

/-- Going on is one of these moves. A supervision that was given up ends once the wait is over. -/
theorem resume_moves (turn : Turn) :
    Moves grace now turn state (state.resume name) := by
  -- Every stage has one way to go on, and in each the wait may be over or not.
  have still : Moves grace now turn state state := .kept rfl rfl rfl id
  -- A wait that is over has been told of the exit.
  have past {next : Supervision σ → Supervision σ} (givenUp : state.stage.isUnasked = false)
      (ends : (next state).stage = .ended .cancelled ∧ (next state).signals = state.signals) :
      Moves grace now turn state (state.waitThen next) := by
    unfold waitThen
    split
    · rename_i isOver
      exact .left (by simp [givenUp]) ends.1 ends.2 (.inl (Bool.and_eq_true_iff.mp isOver).1)
    · exact .kept rfl rfl rfl fun _ => rfl
  unfold resume
  split
  · rename_i starting
    split
    · have serves : Proceeds _ (state.serve name) := waitThen_proceeds name _ rfl
      exact .proceeded (by rw [starting]; rfl) ⟨serves.signals, serves.stage⟩
    · exact still
  · rename_i discarding
    exact past (by rw [discarding]; rfl) ⟨rfl, rfl⟩
  · rename_i serving
    exact .proceeded (by rw [serving]; rfl) (waitThen_proceeds name state (by rw [serving]; rfl))
  · rename_i draining
    exact .proceeded (by rw [draining]; rfl) (conclude_proceeds name state (by rw [draining]; rfl))
  · rename_i stopping
    exact past (by rw [stopping]; rfl) (dismiss_eq name state)
  · rename_i killing
    exact past (by rw [killing]; rfl) (dismiss_eq name state)
  · exact still

/-- Giving up a server that is waited for asks it to terminate, or finds it gone. -/
theorem stop_moves (waited : state.stage = .serving ∨ state.stage = .draining) (refused : Bool) :
    Moves grace now (.cancelled refused) state (state.stop name grace now refused) := by
  -- Which move it is depends on whether the server turns out to be gone, and on whether the clock
  -- takes the grace period.
  have unasked : state.stage.isUnasked = true := by rcases waited with same | same <;> rw [same] <;> rfl
  simp only [stop]
  split
  · rename_i found
    have ends := dismiss_eq name (state.log [.info ("Stopping " ++ name ++ " server (PID: N)")])
    refine .left (fun _ => rfl) ends.1 ends.2 ?_
    simp only [log, Bool.or_eq_true, Bool.and_eq_true] at found
    exact found.imp_right And.left
  · rename_i unfound
    have untold : state.child.exitCode = none := by
      simp only [log, Bool.or_eq_true, not_or, Option.not_isSome_iff_eq_none] at unfound
      exact unfound.1
    split
    · rename_i long
      exact .overrun waited rfl rfl untold long rfl
    · exact .asked waited rfl rfl untold rfl rfl

/-- Giving up is one of these moves. -/
theorem giveUp_moves (going : state.outcome? = none) (refused : Bool) :
    Moves grace now (.cancelled refused) state (state.giveUp name grace now refused) := by
  -- The stage decides: nothing is connected yet, the server is waited for, or it was given up
  -- before.
  unfold giveUp
  split
  · rename_i starting
    -- The wait that begins anew is over only if the exit was told.
    unfold discard waitThen
    split
    · rename_i isOver
      have told : state.child.exitCode.isSome = true := by
        have := (Bool.and_eq_true_iff.mp isOver).1
        unfold Child.shut at this
        split at this <;> exact this
      exact .discarded starting (.inr ⟨rfl, told⟩) rfl rfl
    · exact .discarded starting (.inl rfl) rfl rfl
  · rename_i serving
    exact stop_moves name grace now (.inl serving) refused
  · rename_i draining
    exact stop_moves name grace now (.inr draining) refused
  · rename_i discarding
    exact .abandoned (by rw [discarding]; rfl) rfl rfl rfl
  · rename_i stopping
    exact .abandoned (by rw [stopping]; rfl) rfl rfl rfl
  · rename_i killing
    exact .abandoned (by rw [killing]; rfl) rfl rfl rfl
  · rename_i ended
    simp [outcome?, ended] at going

/-- The end of the grace period kills a server, or finds it gone. -/
theorem endGrace_moves (stopping : state.stage = .stopping) (turn : Turn) :
    Moves grace now turn state (state.endGrace name now) := by
  -- The grace period is over or not, and the exit may have been told in the meantime.
  simp only [endGrace]
  split
  · rename_i due
    split
    · rename_i told
      have ends := dismiss_eq name
        (state.log [.warning "Process N did not stop gracefully, killing"])
      exact .left (by rw [stopping]; nofun) ends.1 ends.2 (.inl told)
    · rename_i untold
      refine .killed stopping rfl rfl (by simpa [log] using untold) ?_ rfl
      simpa [Option.any_eq_true] using due
  · exact .kept rfl rfl rfl id

/-- Every turn makes one of these moves. -/
theorem turn_moves (turn : Turn) :
    Moves grace now turn state (state.turn ops name grace now turn) := by
  -- Each kind of turn has its own moves, as they were found before.
  have still : Moves grace now turn state state := .kept rfl rfl rfl id
  unfold Supervision.turn
  split
  · exact still
  · rename_i going
    cases turn with
    | noted notice => exact .kept rfl rfl rfl (by simp)
    | pumped =>
      dsimp only
      split
      · simp only [Supervision.advance]
        split <;> exact .kept rfl rfl rfl id
      · exact still
    | resumed => exact resume_moves name grace now .resumed
    | cancelled refused =>
      exact giveUp_moves name grace now (by simpa using going) refused
    | graceOver =>
      dsimp only
      split
      · rename_i stopping
        exact endGrace_moves name grace now stopping .graceOver
      · exact still

end Moves

end Supervision

end ModelServing.Run
