import Mathlib.Logic.Relation
import JwSwarm.Transition.Machine

namespace JwSwarm.Transition

universe u v u' v'

namespace Machine

variable {State : Type u} {Event : Type v} {machine : Machine State Event}
variable {history : History State Event} {before after : State}
variable {event : Event}

def Next (machine : Machine State Event) (before after : State) : Prop :=
  ∃ event, machine.step before event = some after

abbrev Reaches (machine : Machine State Event) : State → State → Prop :=
  Relation.ReflTransGen machine.Next

theorem Reaches.of_step (taken : machine.step before event = some after) :
    machine.Reaches before after :=
  .single ⟨event, taken⟩

theorem Run.reaches (run : machine.Run history before)
    (reached : machine.Reaches before after) :
    ∃ later, machine.Run later after := by
  induction reached with
  | refl => exact ⟨history, run⟩
  | tail _ last ih =>
      obtain ⟨later, run⟩ := ih
      obtain ⟨event, taken⟩ := last
      exact ⟨_, run.next taken⟩

end Machine

open Machine

variable {State : Type u} {Event : Type v} {Model : Type u'} {Action : Type v'}

/-- A machine that is simulated by another: what one step of it does, the
other does in any number of steps. -/
structure Simulation (machine : Machine State Event)
    (model : Machine Model Action) where
  Related : History State Event → State → Model → Prop
  start : Related [] machine.init model.init
  step : ∀ {history before event after state}, machine.Run history before →
    Related history before state → machine.step before event = some after →
    ∃ next, model.Reaches state next ∧
      Related (history ++ [(before, event)]) after next

variable {machine : Machine State Event} {model : Machine Model Action}
variable {history : History State Event} {final : State}

/-- Every run of the machine is a run of its model. -/
theorem Simulation.run (simulation : Simulation machine model)
    (run : machine.Run history final) :
    ∃ past state, model.Run past state ∧
      simulation.Related history final state := by
  induction run with
  | start => exact ⟨[], _, .start, simulation.start⟩
  | next run taken ih =>
      obtain ⟨past, state, modelled, related⟩ := ih
      obtain ⟨next, reached, related⟩ := simulation.step run related taken
      obtain ⟨later, modelled⟩ := modelled.reaches reached
      exact ⟨later, next, modelled, related⟩

end JwSwarm.Transition
