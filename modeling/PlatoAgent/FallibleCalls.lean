import Mathlib

/-!
# Calls that can fail

A call changes a state and returns a result or fails.  A triple says what holds
when it returns and what holds when it fails; the rules take a call apart along
its `do` blocks.
-/

namespace FallibleCall

variable {State Failure Other Result Next : Type}

/-- The outcome of a call and the state it leaves. -/
def outcome (call : ExceptT Failure (StateM State) Result) (state : State) :
    Except Failure Result × State :=
  call.run state

/-- A call that hands its outcome to the caller and never fails. -/
def attempt (call : ExceptT Failure (StateM State) Result) :
    ExceptT Other (StateM State) (Except Failure Result) :=
  ExceptT.mk fun state =>
    (.ok (outcome call state).1, (outcome call state).2)

/-- From a state of `before`, the call returns in `after` or fails in
`failed`. -/
def Ensures (before : State → Prop)
    (call : ExceptT Failure (StateM State) Result)
    (after : Result → State → Prop) (failed : State → Prop) : Prop :=
  ∀ state, before state →
    (∀ result, (outcome call state).1 = .ok result →
      after result (outcome call state).2) ∧
    (∀ failure, (outcome call state).1 = .error failure →
      failed (outcome call state).2)

/-- The call keeps an invariant, whether it returns or fails. -/
def Keeps (invariant : State → Prop)
    (call : ExceptT Failure (StateM State) Result) : Prop :=
  Ensures invariant call (fun _ => invariant) invariant

variable {before middle failed invariant : State → Prop}
  {call : ExceptT Failure (StateM State) Result}
  {after : Result → State → Prop}

theorem outcome_bind_ok {next : Result → ExceptT Failure (StateM State) Next}
    {state reached : State} {result : Result}
    (returns : outcome call state = (.ok result, reached)) :
    outcome (call >>= next) state = outcome (next result) reached := by
  change ExceptT.bindCont next (outcome call state).1 (outcome call state).2 = _
  rw [returns]
  rfl

theorem outcome_bind_error {next : Result → ExceptT Failure (StateM State) Next}
    {state reached : State} {failure : Failure}
    (fails : outcome call state = (.error failure, reached)) :
    outcome (call >>= next) state = (.error failure, reached) := by
  change ExceptT.bindCont next (outcome call state).1 (outcome call state).2 = _
  rw [fails]
  rfl

theorem outcome_attempt (call : ExceptT Failure (StateM State) Result)
    (state : State) :
    outcome (attempt call : ExceptT Other (StateM State) _) state =
      (.ok (outcome call state).1, (outcome call state).2) :=
  rfl

theorem ensures_pure (result : Result)
    (holds : ∀ state, before state → after result state) :
    Ensures before
      (pure result : ExceptT Failure (StateM State) Result) after failed := by
  intro state start
  refine ⟨?_, fun _ fails => nomatch fails⟩
  rintro _ ⟨⟩
  exact holds state start

theorem ensures_throw (failure : Failure)
    (holds : ∀ state, before state → failed state) :
    Ensures before
      (throw failure : ExceptT Failure (StateM State) Result) after failed :=
  fun state start => ⟨fun _ returns => (nomatch returns),
    fun _ _ => holds state start⟩

theorem ensures_bind {first : ExceptT Failure (StateM State) Result}
    {next : Result → ExceptT Failure (StateM State) Next}
    {between : Result → State → Prop} {last : Next → State → Prop}
    (isFirst : Ensures before first between failed)
    (isNext : ∀ result, Ensures (between result) (next result) last failed) :
    Ensures before (first >>= next) last failed := by
  intro state start
  have begins := isFirst state start
  rcases ran : outcome first state with ⟨failure | result, reached⟩
  · rw [ran] at begins
    rw [outcome_bind_error ran]
    exact ⟨fun _ returns => (nomatch returns), fun _ _ => begins.2 failure rfl⟩
  · rw [ran] at begins
    rw [outcome_bind_ok ran]
    exact isNext result reached (begins.1 result rfl)

theorem ensures_get {after : State → State → Prop}
    (holds : ∀ state, before state → after state state) :
    Ensures before (get : ExceptT Failure (StateM State) State) after failed := by
  intro state start
  refine ⟨?_, fun _ fails => nomatch fails⟩
  rintro _ ⟨⟩
  exact holds state start

/-- A fact that does not depend on the state. -/
theorem ensures_and {fact : Prop}
    (ensures : fact → Ensures before call after failed) :
    Ensures (fun state => before state ∧ fact) call after failed :=
  fun state start => ensures start.2 state start.1

/-- What follows a read starts in the state that was read. -/
theorem ensures_bind_get {next : State → ExceptT Failure (StateM State) Next}
    {last : Next → State → Prop}
    (isNext : ∀ found, before found →
      Ensures (fun state => state = found) (next found) last failed) :
    Ensures before (get >>= next) last failed :=
  fun state start => isNext state start state rfl

theorem ensures_modify {change : State → State} {after : Unit → State → Prop}
    (holds : ∀ state, before state → after () (change state)) :
    Ensures before
      (modify change : ExceptT Failure (StateM State) Unit) after failed :=
  fun state start => ⟨fun _ _ => holds state start, fun _ fails => nomatch fails⟩

/-- Less is known before, or less is asked for after. -/
theorem Ensures.weaken {before' failed' : State → Prop}
    {after' : Result → State → Prop} (ensures : Ensures before call after failed)
    (start : ∀ state, before' state → before state)
    (returns : ∀ result state, after result state → after' result state)
    (fails : ∀ state, failed state → failed' state) :
    Ensures before' call after' failed' :=
  fun state known =>
    ⟨fun result same => returns result _
        ((ensures state (start state known)).1 result same),
      fun failure same => fails _
        ((ensures state (start state known)).2 failure same)⟩

/-- What holds from every state of `before` holds from one of them. -/
theorem Ensures.start {found : State}
    (ensures : Ensures before call after failed) (known : before found) :
    Ensures (fun state => state = found) call after failed := by
  rintro _ rfl
  exact ensures _ known

theorem ensures_ite {condition : Prop} [Decidable condition]
    {first second : ExceptT Failure (StateM State) Result}
    (isTrue : condition → Ensures before first after failed)
    (isFalse : ¬condition → Ensures before second after failed) :
    Ensures before (if condition then first else second) after failed := by
  split
  next holds => exact isTrue holds
  next fails => exact isFalse fails

/-- The outcome is handed to the caller, also when it is a failure. -/
theorem ensures_attempt {after' : Except Failure Result → State → Prop}
    (isCall : Ensures before call (fun result => after' (.ok result))
      fun state => ∀ failure, after' (.error failure) state) :
    Ensures before
      (attempt call : ExceptT Other (StateM State) (Except Failure Result))
      after' failed := by
  intro state start
  have ends := isCall state start
  refine ⟨?_, fun _ fails => nomatch fails⟩
  rintro _ ⟨⟩
  change after' (outcome call state).1 (outcome call state).2
  rcases ran : outcome call state with ⟨failure | result, reached⟩
  · rw [ran] at ends
    exact ends.2 failure rfl failure
  · rw [ran] at ends
    exact ends.1 result rfl

/-- A sequence of two steps returns only when both return. -/
theorem exists_of_bind_ok {first : Except Failure Result}
    {second : Result → Except Failure Next} {result : Next}
    (returns : first >>= second = .ok result) :
    ∃ middle, first = .ok middle ∧ second middle = .ok result := by
  cases first with
  | error failure => cases returns
  | ok middle => exact ⟨middle, rfl, returns⟩

/-- A list is read when each of its items is read. -/
theorem forall₂_of_mapM_ok {Item : Type} {read : Item → Except Failure Result}
    {items : List Item} {results : List Result}
    (returns : items.mapM read = .ok results) :
    List.Forall₂ (fun item result => read item = .ok result) items results := by
  induction items generalizing results with
  | nil =>
      cases returns
      exact .nil
  | cons item rest ih =>
      rw [List.mapM_cons] at returns
      obtain ⟨first, isFirst, returns⟩ := exists_of_bind_ok returns
      obtain ⟨others, areOthers, returns⟩ := exists_of_bind_ok returns
      cases returns
      exact .cons isFirst (ih areOthers)

theorem keeps_pure (result : Result) :
    Keeps invariant (pure result : ExceptT Failure (StateM State) Result) :=
  ensures_pure result fun _ holds => holds

theorem keeps_throw (failure : Failure) :
    Keeps invariant (throw failure : ExceptT Failure (StateM State) Result) :=
  ensures_throw failure fun _ holds => holds

theorem keeps_bind {next : Result → ExceptT Failure (StateM State) Next}
    (isFirst : Keeps invariant call) (isNext : ∀ result, Keeps invariant (next result)) :
    Keeps invariant (call >>= next) :=
  ensures_bind isFirst isNext

theorem keeps_get :
    Keeps invariant (get : ExceptT Failure (StateM State) State) :=
  ensures_get fun _ holds => holds

theorem keeps_modify {change : State → State}
    (holds : ∀ state, invariant state → invariant (change state)) :
    Keeps invariant (modify change : ExceptT Failure (StateM State) Unit) :=
  ensures_modify holds

theorem keeps_ite {condition : Prop} [Decidable condition]
    {first second : ExceptT Failure (StateM State) Result}
    (isFirst : Keeps invariant first) (isSecond : Keeps invariant second) :
    Keeps invariant (if condition then first else second) :=
  ensures_ite (fun _ => isFirst) fun _ => isSecond

/-- A call that is tried does not fail. -/
theorem Keeps.tried (isCall : Keeps invariant call) :
    Ensures invariant
      (attempt call : ExceptT Other (StateM State) (Except Failure Result))
      (fun _ => invariant) failed :=
  ensures_attempt (isCall.weaken (fun _ known => known)
    (fun _ _ known => known) fun _ known _ => known)

theorem keeps_attempt (isCall : Keeps invariant call) :
    Keeps invariant
      (attempt call : ExceptT Other (StateM State) (Except Failure Result)) :=
  isCall.tried

theorem keeps_map (change : Result → Next) (isCall : Keeps invariant call) :
    Keeps invariant (change <$> call) :=
  keeps_bind isCall fun _ => keeps_pure _

end FallibleCall
