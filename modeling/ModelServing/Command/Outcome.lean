import ModelServing.Console.Display
import ModelServing.Error.Failure
import ModelServing.Log.Record

/-! What a command leaves behind. -/

namespace ModelServing.Command

/-- How a command ends. -/
inductive Ending where
  | exited (code : Nat)
  /-- The command fails with something that it does not know how to tell. -/
  | crashed (failure : Failure)
  /-- The command comes to no end of its own. It is interrupted, or goes on waiting for a
  process. -/
  | unfinished
  deriving DecidableEq, Repr

/-- The code that a command exits with, if it comes to an end. -/
def Ending.code? : Ending → Option Nat
  | .exited code => some code
  | .crashed _ => some 1
  | .unfinished => none

/-- What a command leaves behind: what it printed, what it logged, and how it ended. -/
structure Outcome where
  stdout : String := ""
  logs : List LogRecord := []
  ending : Ending := .exited 0
  deriving DecidableEq, Repr

namespace Outcome

/-- An outcome after messages that were logged before. -/
def afterLogs (logs : List LogRecord) (outcome : Outcome) : Outcome :=
  { outcome with logs := logs ++ outcome.logs }

/-- An outcome after a text that was printed before. A text that cannot be shown ends the command in
its place. -/
def afterPrinting (manner : Console.Manner) (text : String) (outcome : Outcome) : Outcome :=
  match Console.display manner text with
  | .ok shown => { outcome with stdout := shown ++ outcome.stdout }
  | .error fault => { ending := .crashed (.markup fault) }

/-- The heading of an error that is told. -/
def heading (error : BackendError) : String :=
  "[red]Error (" ++ error.kind.code ++ "):[/red] " ++ error.message

/-- Tells an error, and the hint that it has. -/
def ofError (error : BackendError) : Outcome :=
  -- An empty hint counts as none.
  let failed : Outcome := { ending := .exited 1 }
  afterPrinting {} (heading error)
    (match error.hint?.filter fun hint => !hint.isEmpty with
    | some hint => afterPrinting {} ("[dim]" ++ hint ++ "[/dim]") failed
    | none => failed)

/-- What is printed for a text that can be shown comes before what is printed later. -/
theorem afterPrinting_of_ok {manner : Console.Manner} {text shown : String}
    (displayed : Console.display manner text = .ok shown) (outcome : Outcome) :
    afterPrinting manner text outcome = { outcome with stdout := shown ++ outcome.stdout } := by
  -- The text is displayed before anything else happens.
  rw [afterPrinting, displayed]

/-- A command that prints a text exits only if the text can be shown. -/
theorem exists_of_afterPrinting {manner : Console.Manner} {text : String} {outcome : Outcome}
    {code : Nat} (exits : (afterPrinting manner text outcome).ending = .exited code) :
    ∃ shown, Console.display manner text = .ok shown ∧ outcome.ending = .exited code := by
  -- A text that cannot be shown would have ended the command in another way.
  unfold afterPrinting at exits
  split at exits
  · next shown displayed => exact ⟨shown, displayed, exits⟩
  · contradiction

/-- A text printed before an outcome without messages brings in none. -/
theorem logs_afterPrinting {manner : Console.Manner} {text : String} {outcome : Outcome}
    (silent : outcome.logs = []) : (afterPrinting manner text outcome).logs = [] := by
  -- Only what is printed is added.
  unfold afterPrinting
  split
  · exact silent
  · rfl

/-- Nothing is logged where an error is told. -/
theorem logs_ofError (error : BackendError) : (ofError error).logs = [] := by
  -- The heading is printed before the hint, and neither is logged.
  unfold ofError
  refine logs_afterPrinting ?_
  split
  · exact logs_afterPrinting rfl
  · rfl

/-- Tells an error of the backend; anything else ends the command. -/
def ofFailure : Failure → Outcome
  | .backend error => ofError error
  | failure => { ending := .crashed failure }

end Outcome

end ModelServing.Command
