import ModelServing.Proofs.Run.Moves
import ModelServing.Proofs.Run.Turns

/-! With which failures the run of a server ends that has been started. -/

namespace ModelServing.Run

variable {σ : Type} {ops : Sink σ} {among : Failure → Prop}

/-- A sink that refuses, if at all, with some of the failures that are given. -/
structure Sink.Refuses (ops : Sink σ) (among : Failure → Prop) : Prop where
  write : ∀ sink piece failure, (ops.write sink piece).failure = some failure → among failure
  flush : ∀ sink failure, (ops.flush sink).failure = some failure → among failure

/-- The log refuses nothing. -/
theorem logSink_refuses (among : Failure → Prop) : logSink.Refuses among :=
  -- Neither of its calls refuses anything.
  ⟨nofun, nofun⟩

namespace Pump

/-- A pump that has failed, if at all, at a line that is too long or with one of the given
failures. -/
def Fails (among : Failure → Prop) (pump : Pump σ) : Prop :=
  ∀ failure, pump.state = .failed failure → failure = .overlongLine ∨ among failure

/-- A pump fails after a call only if the sink has refused. -/
theorem fails_after {taken : Taken σ}
    (refused : ∀ failure, taken.failure = some failure → among failure) :
    (after .finished taken).1.Fails among := by
  -- A call that is taken leaves the pump finished.
  unfold after
  split
  · nofun
  · rename_i other refusal
    rintro failure ⟨⟩
    exact .inr (refused other refusal)

/-- Lines are carried up to one that is too long or refused. -/
theorem fails_carry (refuses : ops.Refuses among) (sink : σ) (tail : List UInt8)
    (lines : List (List UInt8)) : (carry ops sink tail lines).pump.Fails among := by
  -- Each line is measured, written and left behind, until there is a reason to stop.
  induction lines generalizing sink with
  | nil =>
    unfold carry
    split <;> rintro failure ⟨⟩
    exact .inl rfl
  | cons line rest ih =>
    unfold carry
    split
    · rintro failure ⟨⟩
      exact .inl rfl
    · dsimp only
      split
      · rename_i other refusal
        rintro failure ⟨⟩
        exact .inr (refuses.write _ _ _ refusal)
      · exact ih _

/-- What lies ready brings no other failure. -/
theorem Fails.advance (refuses : ops.Refuses among) {pump : Pump σ} (fails : pump.Fails among)
    (bytes : List UInt8) : (pump.advance ops bytes).pump.Fails among := by
  -- A pump that is over stays as it is.
  unfold Pump.advance
  split
  · exact fails_carry refuses _ _ _
  · exact fails

/-- The end of the output brings no other failure. -/
theorem Fails.close (refuses : ops.Refuses among) {pump : Pump σ} (fails : pump.Fails among)
    (rest : List UInt8) : (pump.close ops rest).1.Fails among := by
  -- What is left is one write and one flush, and each of them is a call of the sink.
  have flushed (sink : σ) : (after .finished (ops.flush sink)).1.Fails among :=
    fails_after (refuses.flush sink)
  unfold Pump.close
  split
  · split
    · exact flushed _
    · -- What is left is written first.
      dsimp only
      split
      · exact flushed _
      · exact fails_after (refuses.write _ _)
  · exact fails

end Pump

namespace Supervision

/-- A supervision whose pump has failed, if at all, at a line that is too long or with one of the
given failures, and that has itself failed, if at all, with one of those or for a grace period that
is too long for the clock. -/
structure Fails (among : Failure → Prop) (state : Supervision σ) : Prop where
  pump : state.pump.Fails among
  outcome : ∀ failure, state.stage = .ended (.failed failure) →
    failure = .overlongLine ∨ failure = .hugeDelay ∨ among failure

variable {state : Supervision σ} {name : String} {grace : Int}

/-- What the pump takes brings no other failure. -/
theorem Fails.advance (refuses : ops.Refuses among) (fails : state.Fails among) :
    (state.advance ops).Fails among := by
  -- The pump takes what lies unread, and then perhaps the end of the output.
  have advanced := fails.pump.advance refuses state.child.inflow.unread
  -- The end of the output comes after what lies unread, or is not there yet.
  simp only [Supervision.advance]
  split
  · exact ⟨advanced.close refuses _, fails.outcome⟩
  · exact ⟨advanced, fails.outcome⟩

/-- No turn brings another failure. -/
theorem Fails.turn (refuses : ops.Refuses among) (fails : state.Fails among) (now : Nat)
    (turn : Turn) : (state.turn ops name grace now turn).Fails among := by
  -- Turns of the pump are set apart, since no other turn touches it.
  by_cases pumps : turn = .pumped
  · subst pumps
    unfold Supervision.turn
    split
    · exact fails
    · dsimp only
      split
      · exact fails.advance refuses
      · exact fails
  · refine ⟨pump_turn ops name grace now state pumps ▸ fails.pump, fun failure ended => ?_⟩
    -- A supervision ends with a failure as its pump has, or for its grace period.
    have moves : Moves grace now turn state (state.turn ops name grace now turn) :=
      turn_moves ops name grace now turn
    cases moves with
    | kept stage => exact fails.outcome failure (stage ▸ ended)
    | proceeded unasked proceeds =>
      rcases proceeds.stage with going | ⟨code, exited⟩ | ⟨other, failed, told⟩
      · simp [ended, Stage.isUnasked] at going
      · cases ended.symm.trans exited
      · cases ended.symm.trans told
        exact (fails.pump failure failed).imp_right Or.inr
    | discarded _ stage =>
      rcases stage with discarding | ⟨cancelled, -⟩
      · cases ended.symm.trans discarding
      · cases ended.symm.trans cancelled
    | overrun _ overran =>
      cases ended.symm.trans overran
      exact .inr (.inl rfl)
    | asked _ stage | killed _ stage | left _ stage | abandoned _ stage =>
      cases ended.symm.trans stage

/-- No turns bring another failure. -/
theorem Fails.run (refuses : ops.Refuses among) (fails : state.Fails among)
    (turns : List (Nat × Turn)) : (state.run ops name grace turns).Fails among := by
  -- Each turn takes one step.
  induction turns generalizing state with
  | nil => exact fails
  | cons entry rest ih => exact ih (fails.turn refuses entry.1 entry.2)

end Supervision

/-- A server that was started fails, if at all, at a line that is too long, as its sink does, or
when it is given up with a grace period that is too long for the clock. -/
theorem Server.failed_of_attend (server : Server) (settings : Settings)
    (refuses : ops.Refuses among) (deadline : Option (Deadline σ)) (sink : σ)
    (behavior : Behavior) {failure : Failure}
    (failed : (server.attend settings ops deadline sink behavior).state.outcome?
      = some (.failed failure)) :
    failure = .overlongLine ∨ failure = .hugeDelay ∨ among failure := by
  -- It goes through turns that begin with a pump that has not failed.
  obtain ⟨turns, -, same⟩ := server.exists_run_eq_attend settings ops deadline sink behavior
  have fresh : (server.supervision sink).Fails among := ⟨nofun, nofun⟩
  rw [← same] at failed
  exact (fresh.run refuses turns).outcome failure (Supervision.outcome?_eq_some_iff.mp failed)

end ModelServing.Run
