import ModelServing.Run.Conduct

/-! What happens to a process, in an order in which it can happen. -/

namespace ModelServing.Run

/-- What has come of a process. -/
structure Seen where
  /-- What it has printed. -/
  bytes : List UInt8 := []
  /-- The code with which it has exited, if it has. -/
  exit : Option Int := none
  /-- Whether its output was closed. -/
  closed : Bool := false

/-- What comes of a process by events in order. Nothing is printed once the output was closed, and
nothing exits or closes twice. -/
inductive Brings : Seen → List (Nat × Event) → Seen → Prop
  | nothing (seen : Seen) : Brings seen [] seen
  | printed {seen last : Seen} {rest : List (Nat × Event)} (time : Nat) (bytes : List UInt8)
    (unclosed : seen.closed = false)
    (more : Brings { seen with bytes := seen.bytes ++ bytes } rest last) :
    Brings seen ((time, .printed bytes) :: rest) last
  | exited {seen last : Seen} {rest : List (Nat × Event)} (time : Nat) (code : Int)
    (running : seen.exit = none) (more : Brings { seen with exit := some code } rest last) :
    Brings seen ((time, .exited code) :: rest) last
  | closed {seen last : Seen} {rest : List (Nat × Event)} (time : Nat)
    (unclosed : seen.closed = false) (more : Brings { seen with closed := true } rest last) :
    Brings seen ((time, .closed) :: rest) last

/-- Whether no event of some is an exit. -/
def Exitless (events : List (Nat × Event)) : Prop :=
  ∀ event ∈ events, ∀ code, event.2 ≠ .exited code

/-- What an exited process still does, it would have done as a running one. -/
theorem Brings.of_exited {seen last : Seen} {events : List (Nat × Event)}
    (brings : Brings seen events last) (exitless : Exitless events) (exit : Option Int) :
    Brings { seen with exit } events { last with exit } := by
  -- The exit code stands beside everything else that has come of a process.
  induction brings with
  | nothing => exact .nothing _
  | printed time bytes unclosed _ ih =>
    exact .printed time bytes unclosed (ih (List.forall_mem_cons.mp exitless).2)
  | exited time code => exact absurd rfl ((List.forall_mem_cons.mp exitless).1 code)
  | closed time unclosed _ ih =>
    exact .closed time unclosed (ih (List.forall_mem_cons.mp exitless).2)

/-- A process may exit in any place of what it does otherwise. -/
theorem Brings.exited_between {seen last : Seen} {before after : List (Nat × Event)}
    (brings : Brings seen (before ++ after) last) (exitless : Exitless (before ++ after))
    (running : seen.exit = none) (time : Nat) (code : Int) :
    Brings seen (before ++ (time, .exited code) :: after) { last with exit := some code } := by
  -- Up to that place everything is as before, and from there on the exit code stands beside it.
  induction before generalizing seen with
  | nil => exact .exited time code running (brings.of_exited exitless _)
  | cons event rest ih =>
    have others := (List.forall_mem_cons.mp exitless).2
    cases brings with
    | printed time bytes unclosed more => exact .printed time bytes unclosed (ih more others running)
    | exited time code => exact absurd rfl ((List.forall_mem_cons.mp exitless).1 code)
    | closed time unclosed more => exact .closed time unclosed (ih more others running)

namespace Conduct

/-- Prints and a close are no exits. -/
theorem exitless_outputEvents (conduct : Conduct) : Exitless conduct.outputEvents := by
  -- Both kinds of events are gone through.
  intro event member code
  rcases List.mem_append.mp member with printed | closed
  · obtain ⟨print, -, rfl⟩ := List.mem_map.mp printed
    nofun
  · simp only [Option.mem_toList, Option.map_eq_some_iff] at closed
    obtain ⟨time, -, rfl⟩ := closed
    nofun

/-- The prints of a process bring its output, and the close that may follow them the end of that. -/
theorem brings_outputEvents (conduct : Conduct) :
    Brings {} conduct.outputEvents
      { bytes := conduct.printed, closed := conduct.closes.isSome } := by
  -- The prints are brought one after the other, and what follows them is the close or nothing.
  have ends (bytes : List UInt8) :
      Brings { bytes } (conduct.closes.map fun time => (time, Event.closed)).toList
        { bytes, closed := conduct.closes.isSome } := by
    cases conduct.closes with
    | none => exact .nothing _
    | some time => exact .closed time rfl (.nothing _)
  have follows (bytes : List UInt8) (prints : List (Nat × List UInt8)) :
      Brings { bytes }
        (prints.map (fun print => (print.1, Event.printed print.2))
          ++ (conduct.closes.map fun time => (time, Event.closed)).toList)
        { bytes := bytes ++ prints.flatMap (·.2), closed := conduct.closes.isSome } := by
    -- Each print joins what was printed before.
    induction prints generalizing bytes with
    | nil => simpa using ends bytes
    | cons print rest ih =>
      rw [List.flatMap_cons, ← List.append_assoc]
      exact .printed print.1 print.2 rfl (ih (bytes ++ print.2))
  simpa [outputEvents, printed] using follows [] conduct.output

/-- What happens to a process that exits brings all of its output, its exit, and the end of the
output if that is closed one day. -/
theorem brings_events {conduct : Conduct} {time : Nat} {code : Int}
    (gone : conduct.gone = some (time, code)) :
    Brings {} conduct.events ⟨conduct.printed, some code, conduct.closes.isSome⟩ := by
  -- The exit stands in one place of what comes of the output.
  have brings := conduct.brings_outputEvents
  have exitless := conduct.exitless_outputEvents
  rw [← List.takeWhile_append_dropWhile
    (p := fun event : Nat × Event => decide (event.1 ≤ time))
    (l := conduct.outputEvents)] at brings exitless
  simpa only [events, gone] using brings.exited_between exitless rfl time code

end Conduct

end ModelServing.Run
