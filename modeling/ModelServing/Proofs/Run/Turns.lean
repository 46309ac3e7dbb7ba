import ModelServing.Run.Server

/-! Every run of a supervision is made in turns, in at most one of which it is given up. -/

namespace ModelServing.Run

variable {σ : Type}

/-- The turns in which events are taken up in order. -/
def turnsOf (events : List (Nat × Event)) : List (Nat × Turn) :=
  events.flatMap fun event => event.2.turns.map fun turn => (event.1, turn)

/-- How often somebody gives up in some turns. -/
def givingsUp (turns : List (Nat × Turn)) : Nat := turns.countP fun entry => entry.2.givesUp

@[simp] theorem givingsUp_append (first second : List (Nat × Turn)) :
    givingsUp (first ++ second) = givingsUp first + givingsUp second := List.countP_append

/-- Nobody gives up in the turns of events. -/
@[simp] theorem givingsUp_turnsOf (events : List (Nat × Event)) : givingsUp (turnsOf events) = 0 := by
  -- The turns of an event are that something is noted, pumped or resumed.
  simp only [givingsUp, List.countP_eq_zero, turnsOf, List.mem_flatMap, List.mem_map]
  rintro entry ⟨event, -, turn, member, rfl⟩
  cases kind : event.2 <;> simp only [kind, Event.turns, List.mem_cons, List.not_mem_nil] at member
  all_goals rcases member with rfl | rfl | rfl | member <;> simp_all [Turn.givesUp]

namespace Supervision

variable (ops : Sink σ) (name : String) (grace : Int)

/-- Events are taken up in their turns. -/
theorem takeAll_eq_run (state : Supervision σ) (events : List (Nat × Event)) :
    state.takeAll ops name grace events = state.run ops name grace (turnsOf events) := by
  -- Induction on the events, each of which is some turns.
  induction events generalizing state with
  | nil => rfl
  | cons event rest ih =>
    rw [takeAll_cons, ih, take, ← run_append]
    rfl

/-- A state that some turns lead to, in at most as many of which somebody gives up as is said. -/
def Reaches (count : Nat) (first last : Supervision σ) : Prop :=
  ∃ turns, last = first.run ops name grace turns ∧ givingsUp turns ≤ count

variable {ops name grace}

/-- Events lead somewhere without that anybody gives up. -/
theorem Reaches.takeAll {count : Nat} {first last : Supervision σ}
    (reaches : Reaches ops name grace count first last) (events : List (Nat × Event)) :
    Reaches ops name grace count first (last.takeAll ops name grace events) := by
  -- The turns of the events come behind those before, and none of them gives up.
  obtain ⟨turns, rfl, few⟩ := reaches
  exact ⟨turns ++ turnsOf events, by rw [takeAll_eq_run, run_append], by simpa using few⟩

/-- Further turns lead further. -/
theorem Reaches.run {count more : Nat} {first last : Supervision σ}
    (reaches : Reaches ops name grace count first last) (turns : List (Nat × Turn))
    (few : givingsUp turns ≤ more) :
    Reaches ops name grace (count + more) first (last.run ops name grace turns) := by
  -- The turns are put together, and those that give up are counted together.
  obtain ⟨before, rfl, fewer⟩ := reaches
  exact ⟨before ++ turns, by rw [run_append], by simpa using Nat.add_le_add fewer few⟩

/-- Nobody has to give up who may. -/
theorem Reaches.weaken {first last : Supervision σ} (reaches : Reaches ops name grace 0 first last) :
    Reaches ops name grace 1 first last := by
  -- The bound is only made larger.
  obtain ⟨turns, same, few⟩ := reaches
  exact ⟨turns, same, Nat.le_succ_of_le few⟩

/-- A server is stopped in turns, in one of which it is given up. -/
theorem Reaches.stopAt {first last : Supervision σ} (reaches : Reaches ops name grace 0 first last)
    (behavior : Behavior) (sent : Shell.Sent) (time : Nat) :
    Reaches ops name grace 1 first
      (Supervision.stopAt ops name grace behavior sent time last).state := by
  -- Giving up is one turn, and the others are those of events and of the grace period.
  have asked : Reaches ops name grace (0 + 1) first (last.run ops name grace
      [(time, .cancelled false), (time, .resumed)]) :=
    reaches.run [(time, .cancelled false), (time, .resumed)] (Nat.le_refl 1)
  have struck {state : Supervision σ} (reached : Reaches ops name grace 1 first state) :
      Reaches ops name grace 1 first
        (state.turn ops name grace (time + grace.toNat) .graceOver) :=
    reached.run [(_, .graceOver)] (Nat.le_refl 0)
  -- It may have ended after the request, in its grace period, or at the end of that.
  unfold Supervision.stopAt
  dsimp only
  split
  · exact asked
  split
  · exact asked.takeAll _
  split
  · exact struck (asked.takeAll _)
  · exact (struck (asked.takeAll _)).takeAll _

/-- A server that can print no more is followed in turns. -/
theorem Reaches.outwait {first last : Supervision σ} (reaches : Reaches ops name grace 0 first last)
    (behavior : Behavior) (time : Nat) (givenUp : Option Nat) :
    Reaches ops name grace 1 first
      (Supervision.outwait ops name grace behavior time givenUp last).state := by
  -- A server that can print no more is given up or is left for good.
  unfold Supervision.outwait
  cases givenUp with
  | some limit => exact (reaches.takeAll _).stopAt behavior _ limit
  | none => exact (reaches.takeAll _).weaken

/-- A server is followed in turns, in at most one of which it is given up. -/
theorem Reaches.follow {first last : Supervision σ} (reaches : Reaches ops name grace 0 first last)
    (behavior : Behavior) (deadline : Option (Deadline σ)) (now : Nat) (givenUp : Option Nat)
    (events : List (Nat × Event)) :
    Reaches ops name grace 1 first
      (Supervision.follow ops name grace behavior deadline now givenUp last events).state := by
  -- Until the server is stopped or can print no more, what is taken is what it does by itself.
  induction events generalizing now givenUp last with
  | nil =>
    unfold Supervision.follow
    split
    · split
      · exact reaches.weaken
      · exact reaches.stopAt behavior _ _
    · exact reaches.weaken
  | cons event rest ih =>
    have next : Reaches ops name grace 0 first (last.take ops name grace event) :=
      reaches.takeAll [event]
    unfold Supervision.follow
    split
    · exact reaches.weaken
    split
    · exact reaches.stopAt behavior _ _
    dsimp only
    split
    · exact next.outwait behavior _ _
    · exact ih next _ _

end Supervision

/-- A server that is attended goes through some turns, in at most one of which it is given up. -/
theorem Server.exists_run_eq_attend (server : Server) (settings : Settings) (ops : Sink σ)
    (deadline : Option (Deadline σ)) (sink : σ) (behavior : Behavior) :
    ∃ turns, turns.countP (fun entry => entry.2.givesUp) ≤ 1 ∧
      (server.supervision sink).run ops server.name (server.grace settings) turns
        = (server.attend settings ops deadline sink behavior).state := by
  -- The output is connected first, and whatever follows comes in turns.
  have opened : Supervision.Reaches ops server.name (server.grace settings) 0
      (server.supervision sink) ((server.supervision sink).run ops server.name
        (server.grace settings) openingTurns) := ⟨_, rfl, Nat.le_refl 0⟩
  obtain ⟨turns, same, few⟩ := opened.follow behavior deadline 0 none (behavior {}).events
  exact ⟨turns, few, same.symm⟩

end ModelServing.Run
