import Mathlib.Logic.Relation

/-!
Labelled transition systems and their invariants. Every subsystem of the driver
is a state, a set of initial states and a step relation. A system can be cut
down to the steps that meet a condition, and its invariants are then those of
the runs in which every step does.
-/

namespace Floid.Lib

structure TransitionSystem (State Action : Type*) where
  initial : State → Prop
  step : State → Action → State → Prop

namespace TransitionSystem

variable {State Action : Type*} {system : TransitionSystem State Action}

inductive Reachable (system : TransitionSystem State Action) : State → Prop where
  | initial {state : State} (starts : system.initial state) : Reachable system state
  | step {before after : State} {action : Action} (reached : Reachable system before)
      (stepped : system.step before action after) : Reachable system after

theorem Reachable.next {before after : State} (action : Action)
    (reached : system.Reachable before) (stepped : system.step before action after) :
    system.Reachable after :=
  .step reached stepped

def restrict (system : TransitionSystem State Action) (condition : State → Action → Prop) :
    TransitionSystem State Action where
  initial := system.initial
  step before action after := condition before action ∧ system.step before action after

theorem Reachable.invariant {Invariant : State → Prop} {state : State} (reached : system.Reachable state)
    (holdsInitially : ∀ state, system.initial state → Invariant state)
    (preserved : ∀ before action after, Invariant before → system.step before action after → Invariant after) :
    Invariant state := by
  induction reached with
  | initial starts => exact holdsInitially _ starts
  | step reached stepped holds => exact preserved _ _ _ holds stepped

variable {state : State}

theorem Reachable.of_restrict {condition : State → Action → Prop}
    (reached : (system.restrict condition).Reachable state) : system.Reachable state := by
  refine reached.invariant (fun _ starts => .initial starts) ?_
  intro before action after holds stepped
  exact .step holds stepped.2

theorem Reachable.restrict_mono {strong weak : State → Action → Prop}
    (reached : (system.restrict strong).Reachable state)
    (implies : ∀ before action, strong before action → weak before action) :
    (system.restrict weak).Reachable state := by
  refine reached.invariant (fun _ starts => .initial starts) ?_
  intro before action after holds stepped
  exact .step holds ⟨implies _ _ stepped.1, stepped.2⟩

inductive Path (system : TransitionSystem State Action) (start : State) : List Action → State → Prop where
  | nil : Path system start [] start
  | step {actions : List Action} {before after : State} {action : Action}
      (path : Path system start actions before) (stepped : system.step before action after) :
      Path system start (actions ++ [action]) after

end TransitionSystem

end Floid.Lib
