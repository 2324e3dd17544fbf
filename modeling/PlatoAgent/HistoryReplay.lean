import Mathlib

/-!
# Replaying histories through a fallible step

A ledger is accepted when folding a partial step function over it succeeds.
This file names that fold and proves the rules its users need: replay splits
at every position, and a relation between history and state that one step
preserves holds after every accepted history, and a projection that commutes
with one step commutes with replay.  `observations`, `latest` and `since` read a
history through a partial observation of its entries.
-/

namespace HistoryReplay

variable {State Entry Failure : Type*}

/-- Fold the step over the history, stopping at the first failure. -/
def replayFrom (step : State → Entry → Except Failure State) (state : State)
    (history : List Entry) : Except Failure State :=
  history.foldlM step state

variable {step : State → Entry → Except Failure State}

@[simp]
theorem replayFrom_nil (state : State) :
    replayFrom step state [] = .ok state :=
  rfl

theorem replayFrom_cons (state : State) (entry : Entry) (rest : List Entry) :
    replayFrom step state (entry :: rest) =
      step state entry >>= fun after => replayFrom step after rest := by
  simp [replayFrom]

theorem replayFrom_append (state : State) (front back : List Entry) :
    replayFrom step state (front ++ back) =
      replayFrom step state front >>= fun middle =>
        replayFrom step middle back := by
  simp [replayFrom]

theorem replayFrom_cons_ok_iff {state after : State} {entry : Entry}
    {rest : List Entry} :
    replayFrom step state (entry :: rest) = .ok after ↔
      ∃ middle, step state entry = .ok middle ∧
        replayFrom step middle rest = .ok after := by
  rw [replayFrom_cons]
  cases step state entry <;> simp [bind, Except.bind]

theorem replayFrom_append_ok_iff {state after : State}
    {front back : List Entry} :
    replayFrom step state (front ++ back) = .ok after ↔
      ∃ middle, replayFrom step state front = .ok middle ∧
        replayFrom step middle back = .ok after := by
  rw [replayFrom_append]
  cases replayFrom step state front <;> simp [bind, Except.bind]

theorem replayFrom_concat_ok_iff {state after : State} {front : List Entry}
    {entry : Entry} :
    replayFrom step state (front ++ [entry]) = .ok after ↔
      ∃ middle, replayFrom step state front = .ok middle ∧
        step middle entry = .ok after := by
  rw [replayFrom_append_ok_iff]
  simp [replayFrom_cons_ok_iff]

/-- Every prefix of an accepted history is accepted. -/
theorem replayFrom_ok_of_prefix {state after : State}
    {front history : List Entry} (isPrefix : front <+: history)
    (accepted : replayFrom step state history = .ok after) :
    ∃ middle, replayFrom step state front = .ok middle := by
  obtain ⟨back, rfl⟩ := isPrefix
  obtain ⟨middle, frontAccepted, _⟩ := replayFrom_append_ok_iff.mp accepted
  exact ⟨middle, frontAccepted⟩

/-- The invariant rule: a relation between the history so far and the state it
replays to holds of every accepted history when it holds initially and every
accepted step preserves it. -/
theorem invariant_of_step {start : State} (holds : List Entry → State → Prop)
    (initially : holds [] start)
    (preserved : ∀ history state entry after,
      replayFrom step start history = .ok state → holds history state →
        step state entry = .ok after → holds (history ++ [entry]) after)
    {history : List Entry} {state : State}
    (accepted : replayFrom step start history = .ok state) :
    holds history state := by
  induction history using List.reverseRecOn generalizing state with
  | nil =>
      obtain rfl : start = state := by simpa using accepted
      exact initially
  | append_singleton front entry ih =>
      obtain ⟨middle, frontAccepted, stepped⟩ :=
        replayFrom_concat_ok_iff.mp accepted
      exact preserved front middle entry state frontAccepted
        (ih frontAccepted) stepped

/-- A projection that commutes with one step commutes with replay. -/
theorem replayFrom_map {Detailed : Type*}
    {detailedStep : Detailed → Entry → Except Failure Detailed}
    (view : Detailed → State)
    (commutes : ∀ state entry,
      (detailedStep state entry).map view = step (view state) entry)
    (state : Detailed) (history : List Entry) :
    (replayFrom detailedStep state history).map view =
      replayFrom step (view state) history := by
  induction history generalizing state with
  | nil => rfl
  | cons entry rest ih =>
      rw [replayFrom_cons, replayFrom_cons, ← commutes]
      cases detailedStep state entry with
      | error failure => rfl
      | ok after => exact ih after

section Observations

variable {Observation : Type*}

/-- What a history shows to a partial observation, in order. -/
def observations (observe : Entry → Option Observation)
    (history : List Entry) : List Observation :=
  history.filterMap observe

/-- The most recent observation that a history contains. -/
def latest (observe : Entry → Option Observation) (history : List Entry) :
    Option Observation :=
  history.reverse.findSome? observe

variable {observe : Entry → Option Observation}

@[simp]
theorem observations_nil : observations observe [] = [] :=
  rfl

@[simp]
theorem observations_append (front back : List Entry) :
    observations observe (front ++ back) =
      observations observe front ++ observations observe back :=
  List.filterMap_append

@[simp]
theorem observations_cons (entry : Entry) (rest : List Entry) :
    observations observe (entry :: rest) =
      (observe entry).toList ++ observations observe rest := by
  cases observed : observe entry <;> simp [observations, observed]

theorem mem_observations {history : List Entry} {observed : Observation} :
    observed ∈ observations observe history ↔
      ∃ entry ∈ history, observe entry = some observed :=
  List.mem_filterMap

@[simp]
theorem latest_nil : latest observe [] = none :=
  rfl

@[simp]
theorem latest_concat (history : List Entry) (entry : Entry) :
    latest observe (history ++ [entry]) =
      (observe entry).or (latest observe history) := by
  simp only [latest, List.reverse_append, List.reverse_singleton,
    List.singleton_append, List.findSome?_cons]
  cases observe entry <;> rfl

/-- Entries without an observation do not hide an earlier one. -/
theorem latest_append_of_silent {front back : List Entry}
    (silent : ∀ entry ∈ back, observe entry = none) :
    latest observe (front ++ back) = latest observe front := by
  induction back using List.reverseRecOn with
  | nil => simp
  | append_singleton back entry ih =>
      have quiet : observe entry = none := silent entry (by simp)
      have rest := ih fun other member => silent other (by simp [member])
      rw [← List.append_assoc, latest_concat, quiet, rest]
      rfl

/-- The entries after the most recent observation. -/
def since (observe : Entry → Option Observation) (history : List Entry) :
    List Entry :=
  history.foldl
    (fun entries entry =>
      if (observe entry).isSome then [] else entries ++ [entry]) []

@[simp]
theorem since_nil : since observe [] = [] :=
  rfl

theorem since_concat (history : List Entry) (entry : Entry) :
    since observe (history ++ [entry]) =
      if (observe entry).isSome then []
      else since observe history ++ [entry] := by
  simp [since]

/-- Silent entries after an observation are exactly the ones since it. -/
theorem since_append_cons {front back : List Entry} {marker : Entry}
    (marked : (observe marker).isSome)
    (silent : ∀ entry ∈ back, observe entry = none) :
    since observe (front ++ marker :: back) = back := by
  induction back using List.reverseRecOn with
  | nil => simp [since_concat, marked]
  | append_singleton back entry ih =>
      have quiet : observe entry = none := silent entry (by simp)
      have rest := ih fun other member => silent other (by simp [member])
      have regroup : front ++ marker :: (back ++ [entry]) =
          (front ++ marker :: back) ++ [entry] := by simp
      rw [regroup, since_concat, quiet, rest]
      rfl

end Observations

end HistoryReplay
