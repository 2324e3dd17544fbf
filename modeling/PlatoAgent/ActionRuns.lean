import Mathlib

/-!
# Runs of labelled systems

A system is a partial step function on states, labelled by actions.  A state is
reached when some sequence of enabled actions leads to it, and when each of
these actions was allowed where it was taken.
-/

namespace PlatoAgent

variable {State Action : Type}

/-- The states reached from a start by steps that are all allowed. -/
inductive Reaches (step : State → Action → Option State)
    (allowed : State → Action → Prop) (start : State) : State → Prop where
  | start : Reaches step allowed start start
  | next {state after : State} {action : Action}
      (reached : Reaches step allowed start state)
      (isAllowed : allowed state action)
      (stepped : step state action = some after) :
      Reaches step allowed start after

theorem Reaches.invariant {step : State → Action → Option State}
    {allowed : State → Action → Prop} {start : State} {holds : State → Prop}
    (initial : holds start)
    (kept : ∀ state action after, holds state → allowed state action →
      step state action = some after → holds after)
    {state : State} (reached : Reaches step allowed start state) :
    holds state := by
  induction reached with
  | start => exact initial
  | next _ isAllowed stepped ih => exact kept _ _ _ ih isAllowed stepped

/-- Every step of the system is allowed. -/
def anyStep (_ : State) (_ : Action) : Prop :=
  True

/-- A sequence of actions that are always allowed and can be run reaches its last
state. -/
theorem Reaches.runAllowed {step : State → Action → Option State}
    {allowed : State → Action → Prop} {start state after : State}
    (reached : Reaches step allowed start state) {actions : List Action}
    (always : ∀ action ∈ actions, ∀ state, allowed state action)
    (runs : actions.foldlM step state = some after) :
    Reaches step allowed start after := by
  induction actions generalizing state with
  | nil =>
      cases runs
      exact reached
  | cons action actions ih =>
      rw [List.foldlM_cons] at runs
      obtain ⟨middle, stepped, rest⟩ := Option.bind_eq_some_iff.mp runs
      rw [List.forall_mem_cons] at always
      exact ih (reached.next (always.1 state) stepped) always.2 rest

/-- A sequence of actions that pass a check where they are taken reaches its last
state. -/
theorem Reaches.runChecked {step : State → Action → Option State}
    {allowed : State → Action → Prop} {check : State → Action → Bool}
    (sound : ∀ state action, check state action = true → allowed state action)
    {start state after : State} (reached : Reaches step allowed start state)
    {actions : List Action}
    (runs : actions.foldlM (fun state action =>
      if check state action then step state action else none) state =
        some after) :
    Reaches step allowed start after := by
  induction actions generalizing state with
  | nil =>
      cases runs
      exact reached
  | cons action actions ih =>
      rw [List.foldlM_cons] at runs
      obtain ⟨middle, checked, rest⟩ := Option.bind_eq_some_iff.mp runs
      obtain ⟨passes, stepped⟩ := Option.ite_none_right_eq_some.mp checked
      exact ih (reached.next (sound state action passes) stepped) rest

theorem Reaches.run {step : State → Action → Option State}
    {start state after : State}
    (reached : Reaches step PlatoAgent.anyStep start state)
    {actions : List Action} (runs : actions.foldlM step state = some after) :
    Reaches step PlatoAgent.anyStep start after :=
  reached.runAllowed (fun _ _ _ => trivial) runs

end PlatoAgent
