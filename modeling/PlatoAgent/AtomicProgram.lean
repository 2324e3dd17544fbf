import Mathlib

/-!
# Programs of atomic steps

A program over a shared durable state is a tree of atomic steps: each step
changes the state in one go and resumes with what it read.  The same tree is
read in three ways.  Run alone, it ends with an outcome and a state.  Cut at
any point, it leaves one of the states it `Passes`.  Interleaved with the
programs of other connections, its steps are mixed with theirs.  A relation
that every step of a program guarantees is inherited by all three readings.
-/

namespace AtomicProgram

/-- A program whose steps are atomic.  `resume` receives the state that the
step found, so that a step can read and write at once. -/
inductive Program (State Failure Result : Type) where
  | finish (outcome : Except Failure Result)
  | atomic (effect : State → State)
      (resume : State → Program State Failure Result)

namespace Program

variable {State Failure Result First Second : Type}

/-- Sequencing; a failed first program ends the whole. -/
def bind : Program State Failure First →
    (First → Program State Failure Second) → Program State Failure Second
  | .finish (.ok result), continuation => continuation result
  | .finish (.error failure), _ => .finish (.error failure)
  | .atomic effect resume, continuation =>
      .atomic effect fun state => (resume state).bind continuation

instance : Monad (Program State Failure) where
  pure result := .finish (.ok result)
  bind := bind

theorem pure_bind (result : First)
    (continuation : First → Program State Failure Second) :
    (pure result >>= continuation) = continuation result :=
  rfl

/-- End with the outcome of a pure computation. -/
def ofExcept (outcome : Except Failure Result) : Program State Failure Result :=
  .finish outcome

theorem ofExcept_ok_bind (result : First)
    (continuation : First → Program State Failure Second) :
    (ofExcept (.ok result) >>= continuation) = continuation result :=
  rfl

theorem ofExcept_error_bind (failure : Failure)
    (continuation : First → Program State Failure Second) :
    (ofExcept (.error failure) >>= continuation) = ofExcept (.error failure) :=
  rfl

/-- A step that only reads. -/
def inspect (read : State → Except Failure Result) :
    Program State Failure Result :=
  .atomic id fun state => .finish (read state)

/-- A transaction: one step that commits its writes when the body succeeds and
changes nothing when the body fails. -/
def transact (body : State → Except Failure (Result × State)) :
    Program State Failure Result :=
  .atomic
    (fun state =>
      match body state with
      | .ok (_, after) => after
      | .error _ => state)
    (fun state => .finish ((body state).map Prod.fst))

/-- Hand a failure to the caller instead of ending with it. -/
def attempt : Program State Failure Result →
    Program State Failure (Except Failure Result)
  | .finish outcome => .finish (.ok outcome)
  | .atomic effect resume => .atomic effect fun state => (resume state).attempt

/-- Run all steps without interference. -/
def run : Program State Failure Result → State →
    Except Failure Result × State
  | .finish outcome, state => (outcome, state)
  | .atomic effect resume, state => (resume state).run (effect state)

@[simp]
theorem run_pure (result : Result) (state : State) :
    (pure result : Program State Failure Result).run state =
      (.ok result, state) :=
  rfl

@[simp]
theorem run_ofExcept (outcome : Except Failure Result) (state : State) :
    (ofExcept outcome : Program State Failure Result).run state =
      (outcome, state) :=
  rfl

@[simp]
theorem run_inspect (read : State → Except Failure Result) (state : State) :
    (inspect read).run state = (read state, state) :=
  rfl

theorem run_transact (body : State → Except Failure (Result × State))
    (state : State) :
    (transact body).run state =
      match body state with
      | .ok (result, after) => (.ok result, after)
      | .error failure => (.error failure, state) := by
  cases committed : body state with
  | error failure => simp [transact, run, committed, Except.map]
  | ok pair => simp [transact, run, committed, Except.map]

theorem run_bind (program : Program State Failure First)
    (continuation : First → Program State Failure Second) (state : State) :
    (program >>= continuation).run state =
      match program.run state with
      | (.ok result, middle) => (continuation result).run middle
      | (.error failure, middle) => (.error failure, middle) := by
  induction program generalizing state with
  | finish outcome => cases outcome <;> rfl
  | atomic effect resume ih => exact ih state (effect state)

theorem run_bind_ok {program : Program State Failure First}
    {continuation : First → Program State Failure Second}
    {state middle : State} {result : First}
    (first : program.run state = (.ok result, middle)) :
    (program >>= continuation).run state =
      (continuation result).run middle := by
  rw [run_bind, first]

theorem run_bind_error {program : Program State Failure First}
    {continuation : First → Program State Failure Second}
    {state middle : State} {failure : Failure}
    (first : program.run state = (.error failure, middle)) :
    (program >>= continuation).run state = (.error failure, middle) := by
  rw [run_bind, first]

/-- A sequence that succeeds went through both programs. -/
theorem exists_of_run_bind_ok {program : Program State Failure First}
    {continuation : First → Program State Failure Second}
    {state after : State} {result : Second}
    (whole : (program >>= continuation).run state = (.ok result, after)) :
    ∃ first middle, program.run state = (.ok first, middle) ∧
      (continuation first).run middle = (.ok result, after) := by
  rw [run_bind] at whole
  rcases ran : program.run state with ⟨_ | first, middle⟩
  · rw [ran] at whole
    cases whole
  · rw [ran] at whole
    exact ⟨first, middle, rfl, whole⟩

@[simp]
theorem run_attempt (program : Program State Failure Result) (state : State) :
    program.attempt.run state =
      (.ok (program.run state).1, (program.run state).2) := by
  induction program generalizing state with
  | finish outcome => rfl
  | atomic effect resume ih => exact ih state (effect state)

/-- A state in which a run from `start` can be cut: before its first step, or
after any number of steps. -/
def Passes : Program State Failure Result → State → State → Prop
  | .finish _, start, cut => cut = start
  | .atomic effect resume, start, cut =>
      cut = start ∨ (resume start).Passes (effect start) cut

theorem passes_start (program : Program State Failure Result) (start : State) :
    program.Passes start start := by
  cases program with
  | finish outcome => rfl
  | atomic effect resume => exact .inl rfl

theorem passes_end (program : Program State Failure Result) (start : State) :
    program.Passes start (program.run start).2 := by
  induction program generalizing start with
  | finish outcome => rfl
  | atomic effect resume ih => exact .inr (ih start (effect start))

theorem passes_of_run {program : Program State Failure Result}
    {start after : State} {outcome : Except Failure Result}
    (ran : program.run start = (outcome, after)) :
    program.Passes start after := by
  have reached := program.passes_end start
  rwa [ran] at reached

@[simp]
theorem passes_pure {result : Result} {start cut : State} :
    (pure result : Program State Failure Result).Passes start cut ↔
      cut = start :=
  Iff.rfl

@[simp]
theorem passes_ofExcept {outcome : Except Failure Result} {start cut : State} :
    (ofExcept outcome : Program State Failure Result).Passes start cut ↔
      cut = start :=
  Iff.rfl

@[simp]
theorem passes_inspect {read : State → Except Failure Result}
    {start cut : State} :
    (inspect read).Passes start cut ↔ cut = start := by
  simp [inspect, Passes]

/-- A transaction is cut before it or after it. -/
theorem passes_transact {body : State → Except Failure (Result × State)}
    {start cut : State} :
    (transact body).Passes start cut ↔
      cut = start ∨ cut = ((transact body).run start).2 := by
  simp [transact, Passes, run]

/-- A sequence is cut inside its first program, or inside its second after the
first has succeeded. -/
theorem passes_bind {program : Program State Failure First}
    {continuation : First → Program State Failure Second}
    {start cut : State} :
    (program >>= continuation).Passes start cut ↔
      program.Passes start cut ∨
        ∃ result middle, program.run start = (.ok result, middle) ∧
          (continuation result).Passes middle cut := by
  induction program generalizing start with
  | finish outcome =>
      cases outcome with
      | error failure => simp [Bind.bind, bind, Passes, run]
      | ok result =>
          have unfolded : ((finish (.ok result) : Program State Failure First)
              >>= continuation).Passes start cut ↔
              (continuation result).Passes start cut := Iff.rfl
          have fromStart := (continuation result).passes_start start
          simp only [unfolded, Passes, run, Prod.mk.injEq, Except.ok.injEq]
          constructor
          · intro passes
            exact .inr ⟨result, start, ⟨rfl, rfl⟩, passes⟩
          · rintro (rfl | ⟨_, _, ⟨rfl, rfl⟩, passes⟩)
            · exact fromStart
            · exact passes
  | atomic effect resume ih =>
      have step := @ih start (effect start)
      change cut = start ∨
        ((resume start) >>= continuation).Passes (effect start) cut ↔ _
      rw [step]
      simp [Passes, run, or_assoc]

theorem passes_bind_of_ok {program : Program State Failure First}
    {continuation : First → Program State Failure Second}
    {start middle cut : State} {result : First}
    (first : program.run start = (.ok result, middle)) :
    (program >>= continuation).Passes start cut ↔
      program.Passes start cut ∨
        (continuation result).Passes middle cut := by
  rw [passes_bind, first]
  simp only [Prod.mk.injEq, Except.ok.injEq]
  constructor
  · rintro (early | ⟨_, _, ⟨rfl, rfl⟩, late⟩)
    · exact .inl early
    · exact .inr late
  · rintro (early | late)
    · exact .inl early
    · exact .inr ⟨result, middle, ⟨rfl, rfl⟩, late⟩

theorem passes_bind_of_error {program : Program State Failure First}
    {continuation : First → Program State Failure Second}
    {start middle cut : State} {failure : Failure}
    (first : program.run start = (.error failure, middle)) :
    (program >>= continuation).Passes start cut ↔
      program.Passes start cut := by
  rw [passes_bind, first]
  simp

@[simp]
theorem passes_attempt {program : Program State Failure Result}
    {start cut : State} :
    program.attempt.Passes start cut ↔ program.Passes start cut := by
  induction program generalizing start with
  | finish outcome => rfl
  | atomic effect resume ih =>
      change cut = start ∨ (resume start).attempt.Passes (effect start) cut ↔ _
      rw [ih]
      rfl

/-- Every step of the program, from whatever state it is taken, changes the
state within the relation. -/
def Guarantees (relation : State → State → Prop) :
    Program State Failure Result → Prop
  | .finish _ => True
  | .atomic effect resume =>
      ∀ state, relation state (effect state) ∧
        (resume state).Guarantees relation

variable {relation : State → State → Prop}

@[simp]
theorem guarantees_pure (result : Result) :
    (pure result : Program State Failure Result).Guarantees relation :=
  trivial

@[simp]
theorem guarantees_ofExcept (outcome : Except Failure Result) :
    (ofExcept outcome : Program State Failure Result).Guarantees relation :=
  trivial

theorem guarantees_bind {program : Program State Failure First}
    {continuation : First → Program State Failure Second}
    (first : program.Guarantees relation)
    (second : ∀ result, (continuation result).Guarantees relation) :
    (program >>= continuation).Guarantees relation := by
  induction program with
  | finish outcome =>
      cases outcome with
      | error failure => trivial
      | ok result => exact second result
  | atomic effect resume ih =>
      intro state
      exact ⟨(first state).1, ih state (first state).2⟩

theorem guarantees_inspect (reflexive : ∀ state, relation state state)
    (read : State → Except Failure Result) :
    (inspect read).Guarantees relation :=
  fun state => ⟨reflexive state, trivial⟩

/-- A transaction guarantees what its committed writes guarantee. -/
theorem guarantees_transact (reflexive : ∀ state, relation state state)
    {body : State → Except Failure (Result × State)}
    (committed : ∀ state result after,
      body state = .ok (result, after) → relation state after) :
    (transact body).Guarantees relation := by
  intro state
  refine ⟨?_, trivial⟩
  cases ran : body state with
  | error failure => simpa [ran] using reflexive state
  | ok pair => simpa [ran] using committed state pair.1 pair.2 ran

theorem guarantees_attempt {program : Program State Failure Result}
    (guarantees : program.Guarantees relation) :
    program.attempt.Guarantees relation := by
  induction program with
  | finish outcome => trivial
  | atomic effect resume ih =>
      intro state
      exact ⟨(guarantees state).1, ih state (guarantees state).2⟩

/-- Every state a run passes is related to its start by a chain of steps. -/
theorem chain_of_passes {program : Program State Failure Result}
    (guarantees : program.Guarantees relation) {start cut : State}
    (passes : program.Passes start cut) :
    Relation.ReflTransGen relation start cut := by
  induction program generalizing start with
  | finish outcome =>
      obtain rfl : cut = start := passes
      exact .refl
  | atomic effect resume ih =>
      obtain rfl | later := passes
      · exact .refl
      · exact .head (guarantees start).1 (ih start (guarantees start).2 later)

end Program

variable {State Failure Result Connection : Type}

/-- The shared state and the program each connection has in progress. -/
structure System (State Failure Result Connection : Type) where
  shared : State
  programs : Connection → Program State Failure Result

variable [DecidableEq Connection]

/-- One step of a system: an idle connection issues a program, a busy one
takes its next atomic step, or the environment changes the shared state. -/
inductive System.Step (issued : Program State Failure Result → Prop)
    (environment : State → State → Prop) :
    System State Failure Result Connection →
      System State Failure Result Connection → Prop where
  | issue {system} (connection : Connection)
      {outcome : Except Failure Result}
      (idle : system.programs connection = .finish outcome)
      {program : Program State Failure Result} (allowed : issued program) :
      Step issued environment system
        { system with
          programs := Function.update system.programs connection program }
  | advance {system} (connection : Connection) {effect : State → State}
      {resume : State → Program State Failure Result}
      (busy : system.programs connection = .atomic effect resume) :
      Step issued environment system
        { shared := effect system.shared
          programs := Function.update system.programs connection
            (resume system.shared) }
  | disturb {system} {after : State}
      (changed : environment system.shared after) :
      Step issued environment system { system with shared := after }

/-- A system in which no connection has a program in progress. -/
def System.idle (shared : State) (outcome : Except Failure Result) :
    System State Failure Result Connection where
  shared := shared
  programs := fun _ => .finish outcome

section Interleaving

variable {issued : Program State Failure Result → Prop}
  {environment relation : State → State → Prop}

/-- If every program that may be issued guarantees a relation and so does the
environment, each interleaved step changes the shared state within it, and the
programs in progress still guarantee it. -/
theorem System.step_guarantees
    (reflexive : ∀ state, relation state state)
    (programs : ∀ program, issued program → program.Guarantees relation)
    (disturbs : ∀ before after, environment before after →
      relation before after)
    {system after : System State Failure Result Connection}
    (current : ∀ connection,
      (system.programs connection).Guarantees relation)
    (step : System.Step issued environment system after) :
    relation system.shared after.shared ∧
      ∀ connection, (after.programs connection).Guarantees relation := by
  cases step with
  | @issue connection outcome idle program allowed =>
      refine ⟨reflexive _, fun other => ?_⟩
      by_cases same : other = connection
      · subst same
        simpa using programs program allowed
      · simpa [Function.update_of_ne same] using current other
  | @advance connection effect resume busy =>
      have guaranteed := current connection
      rw [busy] at guaranteed
      refine ⟨(guaranteed system.shared).1, fun other => ?_⟩
      by_cases same : other = connection
      · subst same
        simpa using (guaranteed system.shared).2
      · simpa [Function.update_of_ne same] using current other
  | disturb changed => exact ⟨disturbs _ _ changed, current⟩

/-- Every interleaving of guaranteeing programs moves the shared state along a
chain of guaranteed steps. -/
theorem System.chain_of_steps
    (reflexive : ∀ state, relation state state)
    (programs : ∀ program, issued program → program.Guarantees relation)
    (disturbs : ∀ before after, environment before after →
      relation before after)
    {system after : System State Failure Result Connection}
    (current : ∀ connection,
      (system.programs connection).Guarantees relation)
    (steps : Relation.ReflTransGen (System.Step issued environment)
      system after) :
    Relation.ReflTransGen relation system.shared after.shared ∧
      ∀ connection, (after.programs connection).Guarantees relation := by
  induction steps with
  | refl => exact ⟨.refl, current⟩
  | tail _ step ih =>
      have stepped := System.step_guarantees reflexive programs disturbs
        ih.2 step
      exact ⟨ih.1.tail stepped.1, stepped.2⟩

/-- A busy connection can finish while the others wait. -/
theorem System.steps_of_busy {connection : Connection}
    {program : Program State Failure Result}
    {system : System State Failure Result Connection}
    (busy : system.programs connection = program) :
    Relation.ReflTransGen (System.Step issued environment) system
      { shared := (program.run system.shared).2
        programs := Function.update system.programs connection
          (.finish (program.run system.shared).1) } := by
  induction program generalizing system with
  | finish outcome =>
      have same : Function.update system.programs connection
          (.finish outcome) = system.programs := by
        rw [← busy]
        exact Function.update_eq_self connection system.programs
      simp only [Program.run, same]
      exact .refl
  | atomic effect resume ih =>
      have later := @ih system.shared
        { shared := effect system.shared
          programs := Function.update system.programs connection
            (resume system.shared) }
        (Function.update_self connection _ _)
      rw [Function.update_idem] at later
      exact .head (.advance connection busy) later

/-- An idle connection can issue a program and finish it. -/
theorem System.steps_of_run
    {system : System State Failure Result Connection}
    {connection : Connection} {outcome : Except Failure Result}
    (idle : system.programs connection = .finish outcome)
    {program : Program State Failure Result} (allowed : issued program) :
    Relation.ReflTransGen (System.Step issued environment) system
      { shared := (program.run system.shared).2
        programs := Function.update system.programs connection
          (.finish (program.run system.shared).1) } := by
  have finished := @System.steps_of_busy State Failure Result Connection _
    issued environment connection program
    { system with
      programs := Function.update system.programs connection program }
    (Function.update_self connection _ _)
  rw [Function.update_idem] at finished
  exact .head (.issue connection idle allowed) finished

end Interleaving

end AtomicProgram
