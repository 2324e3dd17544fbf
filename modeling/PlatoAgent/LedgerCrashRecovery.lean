import PlatoAgent.LedgerRunRecovery

/-!
# Restarting a crashed recovery

The recovery loop closes the running rows in a fixed order.  Restarted after a
crash it takes up where it was, and every run gets the outcome it would have
got, except for a run whose log already holds the interruption while its row is
still running: the second recovery takes the interruption for a failure.
-/

namespace PlatoAgent

open AtomicProgram

variable {env : LedgerEnv} {error : String} {workspace after cut : Workspace}
  {runId : RunId}

/-- The outcome columns of a row. -/
def SessionRun.outcome (row : SessionRun) : SessionOutcome :=
  { status := row.status, finalAnswer := row.finalAnswer, error := row.error }

/-- The outcome columns of the run's row. -/
def outcomeOf (workspace : Workspace) (runId : RunId) :
    Option SessionOutcome :=
  (workspace.sessionRuns.rows.find? (·.runId == runId)).map (·.outcome)

theorem row_eq_of_runId {first second : SessionRun}
    (firstMember : first ∈ workspace.sessionRuns)
    (secondMember : second ∈ workspace.sessionRuns)
    (same : first.runId = second.runId) : first = second :=
  UniqueTable.eq_of_shared_key firstMember secondMember (.runId first.runId)
    (by simp [SessionRun.keys]) (by simp [SessionRun.keys, same])

theorem mem_runningRuns {row : SessionRun} :
    row ∈ workspace.runningRuns ↔
      row ∈ workspace.sessionRuns ∧ row.status = .running := by
  simp [Workspace.runningRuns, UniqueTable.mem_iff]

theorem running_of_mem {row : SessionRun}
    (member : row ∈ workspace.runningRuns) : Running workspace row.runId := by
  obtain ⟨present, isRunning⟩ := mem_runningRuns.mp member
  exact ⟨row, present, by simp [SessionRun.isRunning, isRunning]⟩

theorem runningRuns_distinct (workspace : Workspace) :
    workspace.runningRuns.Pairwise fun first second =>
      first.runId ≠ second.runId := by
  have separate : (workspace.sessionRuns.rows.filter
      (·.status == .running)).Pairwise fun first second =>
        first.runId ≠ second.runId := by
    refine (workspace.sessionRuns.unique.filter _).imp ?_
    intro first second separate same
    exact separate (.runId first.runId) (by simp [SessionRun.keys])
      (by simp [SessionRun.keys, same])
  exact separate.perm (List.perm_insertionSort _ _).symm fun different =>
    Ne.symm different

/-- The row after another run was closed. -/
def closedRow (runId : RunId) (outcome : SessionOutcome) (now : Int64)
    (row : SessionRun) : SessionRun :=
  if row.isRunning runId then row.close outcome now else row

theorem closedRow_runId (runId : RunId) (outcome : SessionOutcome)
    (now : Int64) (row : SessionRun) :
    (closedRow runId outcome now row).runId = row.runId := by
  unfold closedRow
  split <;> rfl

theorem ClosedWith.rows {outcome : SessionOutcome}
    (closed : ClosedWith runId outcome workspace after) :
    ∃ now, after.sessionRuns.rows =
      workspace.sessionRuns.rows.map (closedRow runId outcome now) := by
  obtain ⟨now, same⟩ := closed
  exact ⟨now, by rw [same]; rfl⟩

/-- Closing a run sets its outcome and no other. -/
theorem ClosedWith.outcomeOf_eq {outcome : SessionOutcome}
    (closed : ClosedWith runId outcome workspace after)
    (running : Running workspace runId) (other : RunId) :
    outcomeOf after other =
      if other = runId then some outcome else outcomeOf workspace other := by
  obtain ⟨now, rows⟩ := closed.rows
  have select : ((fun row : SessionRun => row.runId == other) ∘
      closedRow runId outcome now) = fun row => row.runId == other := by
    funext row
    simp [closedRow_runId]
  unfold outcomeOf
  rw [rows, List.find?_map, select]
  cases found : workspace.sessionRuns.rows.find? (·.runId == other) with
  | none =>
      rw [if_neg]
      · rfl
      · rintro rfl
        obtain ⟨row, member, isRunning⟩ := running
        have absent := List.find?_eq_none.mp found row member
        simp_all [SessionRun.isRunning]
  | some row =>
      have member := List.mem_of_find?_eq_some found
      have rowRun : row.runId = other := by
        simpa using List.find?_some found
      by_cases same : other = runId
      · subst same
        obtain ⟨target, present, isRunning⟩ := running
        have targetRun : target.runId = other ∧ target.status = .running := by
          simpa [SessionRun.isRunning] using isRunning
        obtain rfl : row = target := row_eq_of_runId member present
          (rowRun.trans targetRun.1.symm)
        simp [closedRow, isRunning, SessionRun.close, SessionRun.outcome]
      · have untouched : row.isRunning runId = false := by
          simp [SessionRun.isRunning, rowRun, same]
        simp [closedRow, untouched, same]

theorem ClosedWith.running_of {outcome : SessionOutcome} {other : RunId}
    (closed : ClosedWith runId outcome workspace after)
    (ended : outcome.status ≠ .running) :
    Running after other ↔ other ≠ runId ∧ Running workspace other := by
  obtain ⟨now, rows⟩ := closed.rows
  constructor
  · rintro ⟨row, member, isRunning⟩
    rw [UniqueTable.mem_iff, rows, List.mem_map] at member
    obtain ⟨source, present, rfl⟩ := member
    unfold closedRow at isRunning
    split at isRunning
    · simp [SessionRun.isRunning, SessionRun.close, ended] at isRunning
    next untouched =>
      refine ⟨?_, source, present, isRunning⟩
      rintro rfl
      exact untouched isRunning
  · rintro ⟨different, row, present, isRunning⟩
    have rowRun : row.runId = other := by
      simp only [SessionRun.isRunning, Bool.and_eq_true, beq_iff_eq] at isRunning
      exact isRunning.1
    refine ⟨row, ?_, isRunning⟩
    rw [UniqueTable.mem_iff, rows, List.mem_map]
    refine ⟨row, present, ?_⟩
    simp [closedRow, SessionRun.isRunning, rowRun, different]

/-- The order in which recovery takes the rows. -/
def RunsBefore (first second : SessionRun) : Prop :=
  first.sessionId < second.sessionId ∨
    (first.sessionId = second.sessionId ∧
      first.sessionIndex ≤ second.sessionIndex)

instance : DecidableRel RunsBefore := fun first second =>
  inferInstanceAs (Decidable (first.sessionId < second.sessionId ∨
    (first.sessionId = second.sessionId ∧
      first.sessionIndex ≤ second.sessionIndex)))

instance : Std.Total RunsBefore := by
  refine ⟨fun first second => ?_⟩
  rcases lt_trichotomy first.sessionId second.sessionId with less | same | more
  · exact .inl (.inl less)
  · rcases Int64.le_total first.sessionIndex second.sessionIndex with up | down
    · exact .inl (.inr ⟨same, up⟩)
    · exact .inr (.inr ⟨same.symm, down⟩)
  · exact .inr (.inl more)

instance : IsTrans SessionRun RunsBefore := by
  refine ⟨?_⟩
  rintro first second third (less | ⟨same, up⟩) (less' | ⟨same', up'⟩)
  · exact .inl (lt_trans less less')
  · exact .inl (same' ▸ less)
  · exact .inl (same ▸ less')
  · exact .inr ⟨same.trans same', Int64.le_trans up up'⟩

theorem RunsBefore.antisymm {first second : SessionRun}
    (up : RunsBefore first second) (down : RunsBefore second first) :
    first.sessionId = second.sessionId ∧
      first.sessionIndex = second.sessionIndex := by
  rcases up with less | ⟨same, up⟩
  · rcases down with more | ⟨same, _⟩
    · exact absurd (lt_trans less more) (lt_irrefl _)
    · exact absurd (same ▸ less) (lt_irrefl _)
  · rcases down with more | ⟨_, down⟩
    · exact absurd (same ▸ more) (lt_irrefl _)
    · exact ⟨same, Int64.le_antisymm up down⟩

theorem pairwise_runningRuns (workspace : Workspace) :
    workspace.runningRuns.Pairwise RunsBefore :=
  List.pairwise_insertionSort RunsBefore _

/-- Closing the first of the running rows leaves the others, in their order. -/
theorem ClosedWith.runningRuns_eq {row : SessionRun} {rest : List SessionRun}
    {outcome : SessionOutcome}
    (first : workspace.runningRuns = row :: rest)
    (closed : ClosedWith row.runId outcome workspace after)
    (ended : outcome.status ≠ .running) : after.runningRuns = rest := by
  obtain ⟨now, rows⟩ := closed.rows
  have sorted := pairwise_runningRuns workspace
  have distinct := runningRuns_distinct workspace
  rw [first, List.pairwise_cons] at sorted distinct
  have selected : after.sessionRuns.rows.filter (·.status == .running) =
      (workspace.sessionRuns.rows.filter (·.status == .running)).filter
        (·.runId != row.runId) := by
    rw [rows, List.filter_map, List.filter_filter]
    have kept : (fun other : SessionRun => other.runId != row.runId &&
        other.status == .running) =
        (fun other => other.status == .running) ∘
          closedRow row.runId outcome now := by
      funext other
      by_cases same : other.runId = row.runId <;>
        by_cases running : other.status = .running <;>
          simp [closedRow, SessionRun.isRunning, SessionRun.close, same,
            running, ended]
    rw [← kept]
    refine (List.map_congr_left fun other member => ?_).trans (List.map_id _)
    have different : other.runId ≠ row.runId := by
      have chosen := List.of_mem_filter member
      simp only [Bool.and_eq_true, bne_iff_ne] at chosen
      exact chosen.1
    simp [closedRow, SessionRun.isRunning, different]
  have permuted : after.runningRuns.Perm rest := by
    refine (List.perm_insertionSort _ _).trans ?_
    rw [selected]
    have others : rest.filter (·.runId != row.runId) = rest := by
      rw [List.filter_eq_self]
      intro other member
      simpa using Ne.symm (distinct.1 other member)
    have front : (row :: rest).filter (·.runId != row.runId) = rest := by
      rw [List.filter_cons_of_neg (by simp), others]
    have whole : (workspace.sessionRuns.rows.filter
        (·.status == .running)).Perm (row :: rest) := by
      rw [← first]
      exact (List.perm_insertionSort _ _).symm
    have narrowed := whole.filter (·.runId != row.runId)
    rwa [front] at narrowed
  refine List.Perm.eq_of_pairwise ?_ (pairwise_runningRuns after) sorted.2
    permuted
  intro left right leftMember rightMember up down
  obtain ⟨sameSession, sameIndex⟩ := up.antisymm down
  have leftRow := (mem_runningRuns.mp leftMember).1
  have rightRow := (mem_runningRuns.mp (permuted.symm.subset rightMember)).1
  refine UniqueTable.eq_of_shared_key leftRow rightRow
    (.sessionIndex left.sessionId left.sessionIndex)
    (by simp [SessionRun.keys]) (by simp [SessionRun.keys, sameSession,
      sameIndex])

/-- Recovery of a run reads its own log and rows only. -/
theorem recoveryOutcome_congr
    (files : after.files (runJsonlPath runId) =
      workspace.files (runJsonlPath runId))
    (rows : after.eventRows runId = workspace.eventRows runId) :
    recoveryOutcome env error after runId =
        recoveryOutcome env error workspace runId ∧
      (LogFailed env after runId ↔ LogFailed env workspace runId) ∧
      Appends env runId workspace after [] := by
  have ledger : ledgerRecords env after runId =
      ledgerRecords env workspace runId := by
    rw [ledgerRecords, ledgerRecords, files, readRunRecordsFrom, rows,
      readRunRecordsFrom]
  refine ⟨?_, ?_, .of_same ?_ rows⟩
  · rw [recoveryOutcome, recoveryOutcome, ledger, files]
  · rw [LogFailed, LogFailed, ledger, files]
  · rw [committedLog, committedLog, files]

theorem recoveryOutcome_status {outcome : SessionOutcome}
    (found : recoveryOutcome env error workspace runId = some outcome) :
    outcome.status ≠ .running := by
  obtain ⟨records, state, _, _, recovered⟩ :=
    recoveryOutcome_eq_some_iff.mp found
  rcases recoveredOutcome_eq_some_iff.mp recovered with
    terminal | ⟨_, _, rfl⟩
  · unfold terminalOutcome at terminal
    split at terminal
    · cases answer : finalAnswerFromRecords runId records with
      | error failure => simp [answer, Except.map] at terminal
      | ok text =>
          simp only [answer, Except.map, Option.some.injEq,
            Except.ok.injEq] at terminal
          rw [← terminal]
          simp [finishedOutcome]
    · simp only [Option.some.injEq, Except.ok.injEq] at terminal
      rw [← terminal]
      simp only [storedFailureOutcome, failureStatus]
      split <;> simp
    · cases terminal
  · simp [interruptedOutcome]

section Others

variable {other : RunId} {outcome : SessionOutcome}

theorem runJsonlPath_ne (different : other ≠ runId) :
    runJsonlPath other ≠ runJsonlPath runId := fun same =>
  different (runJsonlPath_injective same)

theorem RecoveredRun.elsewhere (error : String)
    (recovered : RecoveredRun env runId outcome workspace after)
    (different : other ≠ runId) :
    recoveryOutcome env error after other =
        recoveryOutcome env error workspace other ∧
      (LogFailed env after other ↔ LogFailed env workspace other) ∧
      Appends env other workspace after [] :=
  recoveryOutcome_congr (recovered.files _ (runJsonlPath_ne different))
    (recovered.rows other different)

theorem RunCut.elsewhere (cutting : RunCut env error runId workspace cut)
    (different : other ≠ runId) :
    recoveryOutcome env error cut other =
        recoveryOutcome env error workspace other ∧
      (LogFailed env cut other ↔ LogFailed env workspace other) ∧
      Appends env other workspace cut [] :=
  recoveryOutcome_congr (cutting.logOnly.files _ (runJsonlPath_ne different))
    (by simp [Workspace.eventRows, cutting.logOnly.ledgerEvents])

end Others

theorem RunCut.appends_any (cutting : RunCut env error runId workspace cut)
    (other : RunId) : ∃ added, Appends env other workspace cut added := by
  by_cases same : other = runId
  · subst same
    exact cutting.appends
  · exact ⟨[], (cutting.elsewhere same).2.2⟩

theorem RecoveredRun.appends_any {outcome : SessionOutcome}
    (recovered : RecoveredRun env runId outcome workspace after)
    (other : RunId) : ∃ added, Appends env other workspace after added := by
  by_cases same : other = runId
  · subst same
    exact recovered.appends
  · exact ⟨[], (recovered.elsewhere "" same).2.2⟩

theorem RunCut.running_iff (cutting : RunCut env error runId workspace cut)
    {other : RunId} : Running cut other ↔ Running workspace other := by
  rw [Running, Running, cutting.logOnly.sessionRuns]

theorem RunCut.outcomeOf_eq (cutting : RunCut env error runId workspace cut)
    (other : RunId) : outcomeOf cut other = outcomeOf workspace other := by
  rw [outcomeOf, outcomeOf, cutting.logOnly.sessionRuns]

theorem RunCut.runningRuns_eq
    (cutting : RunCut env error runId workspace cut) :
    cut.runningRuns = workspace.runningRuns := by
  rw [Workspace.runningRuns, Workspace.runningRuns,
    cutting.logOnly.sessionRuns]

/-- The next iteration, after a row that was recovered. -/
theorem recoverEach_run_ok {row : SessionRun} {rest : List SessionRun}
    (ran : (recoverSessionRun env error row).run workspace =
      (.ok (), after)) :
    (recoverEach env error (row :: rest)).run workspace =
      (recoverEach env error rest).run after := by
  rw [recoverEach, Program.run_bind_ok ran]

theorem recoverEach_run_error {row : SessionRun} {rest : List SessionRun}
    {failure : AppError}
    (ran : (recoverSessionRun env error row).run workspace =
      (.error failure, after)) :
    (recoverEach env error (row :: rest)).run workspace =
      (.error failure, after) := by
  rw [recoverEach, Program.run_bind_error ran]

/-- What a whole loop, or a part of it, does to any run. -/
structure LoopEffect (env : LedgerEnv) (rows : List SessionRun)
    (workspace after : Workspace) : Prop where
  appends : ∀ runId, ∃ added, Appends env runId workspace after added
  running : ∀ runId, Running after runId → Running workspace runId
  others : ∀ runId, (∀ row ∈ rows, row.runId ≠ runId) →
    outcomeOf after runId = outcomeOf workspace runId

theorem LoopEffect.refl (env : LedgerEnv) (rows : List SessionRun)
    (workspace : Workspace) : LoopEffect env rows workspace workspace :=
  ⟨fun _ => ⟨[], .of_same rfl rfl⟩, fun _ running => running,
    fun _ _ => rfl⟩

theorem LoopEffect.of_cut {row : SessionRun} {rest : List SessionRun}
    (cutting : RunCut env error row.runId workspace cut) :
    LoopEffect env (row :: rest) workspace cut :=
  ⟨cutting.appends_any, fun _ => cutting.running_iff.mp,
    fun runId _ => cutting.outcomeOf_eq runId⟩

theorem LoopEffect.of_recovered {row : SessionRun} {rest : List SessionRun}
    {outcome : SessionOutcome} (ended : outcome.status ≠ .running)
    (running : Running workspace row.runId)
    (recovered : RecoveredRun env row.runId outcome workspace after) :
    LoopEffect env (row :: rest) workspace after := by
  refine ⟨recovered.appends_any, fun runId => ?_, fun runId others => ?_⟩
  · intro still
    exact ((recovered.closed.running_of ended).mp still).2
  · rw [recovered.closed.outcomeOf_eq running,
      if_neg (Ne.symm (others row List.mem_cons_self))]

theorem LoopEffect.cons {middle : Workspace} {row : SessionRun}
    {rest : List SessionRun}
    (first : LoopEffect env (row :: rest) workspace middle)
    (later : LoopEffect env rest middle after) :
    LoopEffect env (row :: rest) workspace after := by
  refine ⟨fun runId => ?_, fun runId still => ?_, fun runId others => ?_⟩
  · obtain ⟨early, firstAppends⟩ := first.appends runId
    obtain ⟨late, laterAppends⟩ := later.appends runId
    exact ⟨early ++ late, firstAppends.trans laterAppends⟩
  · exact first.running runId (later.running runId still)
  · rw [later.others runId fun other member =>
      others other (List.mem_cons_of_mem _ member), first.others runId others]

/-- Every state of the loop is reached by such effects. -/
theorem recoverEach_passes_effect (fits : ClockFits env)
    {rows : List SessionRun}
    (running : ∀ row ∈ rows, Running workspace row.runId)
    (distinct : rows.Pairwise fun first second =>
      first.runId ≠ second.runId)
    (passes : (recoverEach env error rows).Passes workspace cut) :
    LoopEffect env rows workspace cut := by
  induction rows generalizing workspace with
  | nil =>
      obtain rfl : cut = workspace := passes
      exact .refl env [] cut
  | cons row rest ih =>
      rw [List.pairwise_cons] at distinct
      have rowRunning := running row List.mem_cons_self
      rcases recoverSessionRun_run fits rowRunning error with
        ⟨outcome, after, found, ran, recovered⟩ |
          ⟨failure, after, _, ran, cutting⟩
      · have effect := @LoopEffect.of_recovered env workspace after row rest
          outcome (recoveryOutcome_status found) rowRunning recovered
        rw [recoverEach, Program.passes_bind_of_ok ran] at passes
        rcases passes with early | late
        · rcases recoverSessionRun_passes early with cutting | done
          · exact .of_cut cutting
          · rw [ran] at done
            rw [done]
            exact effect
        · refine effect.cons (ih (fun other member => ?_) distinct.2 late)
          exact (recovered.closed.running_of
            (recoveryOutcome_status found)).mpr
              ⟨Ne.symm (distinct.1 other member),
                running other (List.mem_cons_of_mem _ member)⟩
      · rw [recoverEach, Program.passes_bind_of_error ran] at passes
        rcases recoverSessionRun_passes passes with cutAt | done
        · exact .of_cut cutAt
        · rw [ran] at done
          rw [done]
          exact .of_cut cutting

/-- The two workspaces show the same outcomes, and the loop finds the same
ledgers in both. -/
structure SameRecovery (env : LedgerEnv) (error : String)
    (rows : List SessionRun) (first second : Workspace) : Prop where
  outcomes : ∀ runId, outcomeOf first runId = outcomeOf second runId
  recovery : ∀ row ∈ rows, recoveryOutcome env error first row.runId =
    recoveryOutcome env error second row.runId
  firstRunning : ∀ row ∈ rows, Running first row.runId
  secondRunning : ∀ row ∈ rows, Running second row.runId

/-- Closing the same row in both keeps the rest the same. -/
theorem SameRecovery.rest {first second firstAfter secondAfter : Workspace}
    {row : SessionRun} {rest : List SessionRun} {outcome : SessionOutcome}
    (same : SameRecovery env error (row :: rest) first second)
    (distinct : ∀ other ∈ rest, row.runId ≠ other.runId)
    (ended : outcome.status ≠ .running)
    (firstRecovered : RecoveredRun env row.runId outcome first firstAfter)
    (secondRecovered : RecoveredRun env row.runId outcome second
      secondAfter) :
    SameRecovery env error rest firstAfter secondAfter := by
  have firstRow := same.firstRunning row List.mem_cons_self
  have secondRow := same.secondRunning row List.mem_cons_self
  refine ⟨fun runId => ?_, fun other member => ?_, fun other member => ?_,
    fun other member => ?_⟩
  · rw [firstRecovered.closed.outcomeOf_eq firstRow,
      secondRecovered.closed.outcomeOf_eq secondRow, same.outcomes]
  · have different := Ne.symm (distinct other member)
    rw [(firstRecovered.elsewhere error different).1,
      (secondRecovered.elsewhere error different).1]
    exact same.recovery other (List.mem_cons_of_mem _ member)
  · exact (firstRecovered.closed.running_of ended).mpr
      ⟨Ne.symm (distinct other member),
        same.firstRunning other (List.mem_cons_of_mem _ member)⟩
  · exact (secondRecovered.closed.running_of ended).mpr
      ⟨Ne.symm (distinct other member),
        same.secondRunning other (List.mem_cons_of_mem _ member)⟩

/-- The loop gives the same outcomes to the same ledgers. -/
theorem recoverEach_outcomes (fits : ClockFits env) {rows : List SessionRun}
    {first second : Workspace}
    (distinct : rows.Pairwise fun first second =>
      first.runId ≠ second.runId)
    (same : SameRecovery env error rows first second) (runId : RunId) :
    outcomeOf ((recoverEach env error rows).run first).2 runId =
      outcomeOf ((recoverEach env error rows).run second).2 runId := by
  induction rows generalizing first second with
  | nil => exact same.outcomes runId
  | cons row rest ih =>
      rw [List.pairwise_cons] at distinct
      have agree := same.recovery row List.mem_cons_self
      rcases recoverSessionRun_run fits
          (same.firstRunning row List.mem_cons_self) error with
        ⟨outcome, firstAfter, found, firstRan, firstRecovered⟩ |
          ⟨_, firstAfter, missing, firstRan, firstCut⟩
      · rcases recoverSessionRun_run fits
            (same.secondRunning row List.mem_cons_self) error with
          ⟨outcome', secondAfter, found', secondRan, secondRecovered⟩ |
            ⟨_, _, missing', _, _⟩
        · rw [found, found'] at agree
          obtain rfl := Option.some.inj agree
          rw [recoverEach_run_ok firstRan, recoverEach_run_ok secondRan]
          exact ih distinct.2 (same.rest distinct.1
            (recoveryOutcome_status found) firstRecovered secondRecovered)
        · rw [found, missing'] at agree
          cases agree
      · rcases recoverSessionRun_run fits
            (same.secondRunning row List.mem_cons_self) error with
          ⟨outcome', _, found', _, _⟩ |
            ⟨_, secondAfter, _, secondRan, secondCut⟩
        · rw [missing, found'] at agree
          cases agree
        · rw [recoverEach_run_error firstRan, recoverEach_run_error secondRan]
          rw [firstCut.outcomeOf_eq, secondCut.outcomeOf_eq, same.outcomes]

/-- The crash fell between the two durable steps of a run's recovery: its log
got the interruption, and its row is still running. -/
def InterruptionUnsettled (env : LedgerEnv) (workspace crashed : Workspace) :
    Prop :=
  ∃ runId, Running crashed runId ∧ LogFailed env crashed runId ∧
    ¬ LogFailed env workspace runId

/-- The state that a second recovery leaves. -/
def restarted (env : LedgerEnv) (error : String) (crashed : Workspace) :
    Workspace :=
  ((recoverEach env error crashed.runningRuns).run crashed).2

theorem RunCut.sameRecovery {row : SessionRun} {rest : List SessionRun}
    (first : workspace.runningRuns = row :: rest)
    (cutting : RunCut env error row.runId workspace cut)
    (sameFate : recoveryOutcome env error cut row.runId =
      recoveryOutcome env error workspace row.runId) :
    SameRecovery env error (row :: rest) workspace cut := by
  have running : ∀ other ∈ row :: rest, Running workspace other.runId := by
    rw [← first]
    exact fun other => running_of_mem
  refine ⟨fun runId => (cutting.outcomeOf_eq runId).symm,
    fun other member => ?_, running, fun other member =>
      cutting.running_iff.mpr (running other member)⟩
  by_cases same : other.runId = row.runId
  · rw [same, sameFate]
  · exact (cutting.elsewhere same).1.symm

/-- Outside the window, a cut run has no unsettled interruption. -/
theorem RunCut.settled (cutting : RunCut env error runId workspace cut)
    (sameFate : LogFailed env cut runId ↔ LogFailed env workspace runId) :
    ¬ InterruptionUnsettled env workspace cut := by
  rintro ⟨other, _, failed, notBefore⟩
  by_cases same : other = runId
  · subst same
    exact notBefore (sameFate.mp failed)
  · exact notBefore ((cutting.elsewhere same).2.1.mp failed)

/-- A crash inside the recovery of the first running row. -/
theorem RunCut.restart (fits : ClockFits env) {row : SessionRun}
    {rest : List SessionRun}
    (first : workspace.runningRuns = row :: rest)
    (cutting : RunCut env error row.runId workspace cut) :
    (∀ runId, outcomeOf (restarted env error cut) runId =
      outcomeOf ((recoverEach env error (row :: rest)).run workspace).2
        runId) ↔
      ¬ InterruptionUnsettled env workspace cut := by
  have distinct := runningRuns_distinct workspace
  have rowRunning : Running workspace row.runId := running_of_mem (by
    rw [first]
    exact List.mem_cons_self)
  rw [restarted, cutting.runningRuns_eq, first]
  rw [first] at distinct
  rcases cutting.fate with ⟨sameOutcome, sameFailed⟩ |
    ⟨before, later, failed, notBefore⟩
  · have settled := cutting.settled sameFailed
    refine ⟨fun _ => settled, fun _ runId => ?_⟩
    exact (recoverEach_outcomes fits distinct
      (cutting.sameRecovery first sameOutcome) runId).symm
  · -- The first recovery interrupts the run, the second takes it as failed.
    have unsettled : InterruptionUnsettled env workspace cut :=
      ⟨row.runId, cutting.running_iff.mpr rowRunning, failed, notBefore⟩
    refine ⟨fun same => ?_, fun settled => absurd unsettled settled⟩
    have unique : ∀ other ∈ rest, other.runId ≠ row.runId := fun other member =>
      Ne.symm ((List.pairwise_cons.mp distinct).1 other member)
    have closes : ∀ {start outcome}, Running start row.runId →
        recoveryOutcome env error start row.runId = some outcome →
        (∀ other ∈ rest, Running start other.runId) →
        outcomeOf ((recoverEach env error (row :: rest)).run start).2
          row.runId = some outcome := by
      intro start outcome running found restRunning
      rcases recoverSessionRun_run fits running error with
        ⟨stored, after, found', ran, recovered⟩ | ⟨_, _, missing, _, _⟩
      · rw [found] at found'
        obtain rfl := Option.some.inj found'
        have ended := recoveryOutcome_status found
        have effect := recoverEach_passes_effect fits
          (fun other member => (recovered.closed.running_of ended).mpr
            ⟨unique other member, restRunning other member⟩)
          (List.pairwise_cons.mp distinct).2
          ((recoverEach env error rest).passes_end after)
        rw [recoverEach_run_ok ran, effect.others row.runId unique,
          recovered.closed.outcomeOf_eq running, if_pos rfl]
      · rw [found] at missing
        cases missing
    have restRunning : ∀ other ∈ rest, Running workspace other.runId := by
      intro other member
      refine running_of_mem ?_
      rw [first]
      exact List.mem_cons_of_mem _ member
    have firstOutcome := closes rowRunning before restRunning
    have secondOutcome := closes (cutting.running_iff.mpr rowRunning) later
      fun other member => cutting.running_iff.mpr (restRunning other member)
    have clash := same row.runId
    rw [firstOutcome, secondOutcome] at clash
    have statuses := congrArg SessionOutcome.status (Option.some.inj clash)
    simp only [storedFailureOutcome, interruptedOutcome,
      failureStatus] at statuses
    split at statuses <;> cases statuses

/-- A crash anywhere in the loop. -/
theorem recoverEach_restart (fits : ClockFits env) {rows : List SessionRun}
    (first : workspace.runningRuns = rows)
    (passes : (recoverEach env error rows).Passes workspace cut) :
    (∀ runId, outcomeOf (restarted env error cut) runId =
      outcomeOf ((recoverEach env error rows).run workspace).2 runId) ↔
      ¬ InterruptionUnsettled env workspace cut := by
  induction rows generalizing workspace with
  | nil =>
      obtain rfl : cut = workspace := passes
      rw [restarted, first]
      refine ⟨fun _ => ?_, fun _ _ => rfl⟩
      rintro ⟨_, _, failed, notBefore⟩
      exact notBefore failed
  | cons row rest ih =>
      have rowRunning : Running workspace row.runId := running_of_mem (by
        rw [first]
        exact List.mem_cons_self)
      rcases recoverSessionRun_run fits rowRunning error with
        ⟨outcome, after, found, ran, recovered⟩ |
          ⟨failure, after, _, ran, ended⟩
      · have status := recoveryOutcome_status found
        have remaining := recovered.closed.runningRuns_eq first status
        -- Only runs other than this one are still running.
        have unsettled_iff : ∀ {later}, (∀ runId, Running later runId →
            Running after runId) →
            (InterruptionUnsettled env after later ↔
              InterruptionUnsettled env workspace later) := by
          intro later shrinks
          refine exists_congr fun runId => and_congr_right fun running => ?_
          have different := ((recovered.closed.running_of status).mp
            (shrinks runId running)).1
          rw [(recovered.elsewhere error different).2.1]
        rw [recoverEach, Program.passes_bind_of_ok ran] at passes
        rcases passes with early | late
        · rcases recoverSessionRun_passes early with cutting | done
          · exact cutting.restart fits first
          · rw [ran] at done
            rw [done, recoverEach_run_ok ran, restarted, remaining,
              ← unsettled_iff fun _ running => running]
            refine ⟨fun _ => ?_, fun _ _ => rfl⟩
            rintro ⟨_, _, failed, notBefore⟩
            exact notBefore failed
        · have effect := recoverEach_passes_effect fits (fun other member =>
            running_of_mem (by rw [remaining]; exact member))
            (by rw [← remaining]; exact runningRuns_distinct after) late
          rw [recoverEach_run_ok ran, ← unsettled_iff effect.running]
          exact ih remaining late
      · rw [recoverEach, Program.passes_bind_of_error ran] at passes
        rcases recoverSessionRun_passes passes with cutting | done
        · exact cutting.restart fits first
        · rw [ran] at done
          rw [done]
          exact ended.restart fits first

/-- The run is over. -/
def RunPhase.isOver : RunPhase → Bool
  | .finished | .failed _ => true
  | _ => false

/-- Events are accepted until the run is over, and a terminal event ends it. -/
theorem RunState.Transition.isOver_eq {state after : RunState}
    {event : HarnessEvent} (transition : Transition state event after) :
    state.phase.isOver = false ∧ after.phase.isOver = event.isRunEnd := by
  cases transition with
  | contextBuilt _ _ _ between =>
      refine ⟨?_, rfl⟩
      cases phase : state.phase <;>
        simp_all [RunPhase.betweenTurns, RunPhase.isOver]
  | contextCompacted _ _ _ _ _ _ between =>
      have ongoing : state.phase.isOver = false := by
        cases phase : state.phase <;>
          simp_all [RunPhase.betweenTurns, RunPhase.isOver]
      exact ⟨ongoing, ongoing⟩
  | modelResponded _ turnId _ _ _ proposedCalls _ _ phase =>
      refine ⟨by rw [phase]; rfl, ?_⟩
      simp only [phaseAfterResponse, HarnessEvent.isRunEnd]
      split <;> rfl
  | policyEvaluated _ _ decision phase =>
      refine ⟨by rw [phase]; rfl, ?_⟩
      cases decision <;> rfl
  | runFailed _ _ canFail =>
      refine ⟨?_, rfl⟩
      cases phase : state.phase <;>
        simp_all [RunPhase.canFail, RunPhase.isOver]
  | runStarted _ phase | modelRequested _ _ _ _ _ phase
  | modelFailed _ _ _ _ _ phase | toolCallProposed _ _ _ _ phase
  | toolProposalsRejected _ _ _ _ phase | approvalGranted _ _ _ _ phase
  | approvalDenied _ _ _ _ _ phase | toolStarted _ _ phase
  | toolFinished _ _ phase | toolFailed _ _ _ phase | runFinished _ phase =>
      exact ⟨by rw [phase]; rfl, rfl⟩

/-- The terminal events of an accepted ledger, one if the run is over. -/
theorem countP_isRunEnd {records : List RecordedEvent} {state : RunState}
    (replayed : RunState.replay records = .ok state) :
    records.countP (·.event.isRunEnd) = if state.phase.isOver then 1 else 0 := by
  refine HistoryReplay.invariant_of_step (fun history reached =>
    history.countP (·.event.isRunEnd) =
      if reached.phase.isOver then 1 else 0) rfl ?_ replayed
  intro history before record after _ counted stepped
  obtain ⟨_, middle, transition, rfl⟩ := RunState.next_ok_iff.mp stepped
  obtain ⟨ongoing, ended⟩ := transition.isOver_eq
  rw [ongoing] at counted
  simp [List.countP_append, counted, ended]

theorem Appends.countP_le_one {added : List RecordedEvent}
    (appends : Appends env runId workspace after added) :
    added.countP (·.event.isRunEnd) ≤ 1 := by
  by_cases empty : added = []
  · simp [empty]
  · obtain ⟨records, state, _, _, replayed⟩ := appends.replays empty
    have counted := countP_isRunEnd replayed
    rw [List.countP_append] at counted
    split at counted <;> omega

theorem recoverRunningSessionRuns_run :
    ((recoverRunningSessionRuns env error).run workspace).2 =
      ((recoverEach env error workspace.runningRuns).run workspace).2 := by
  have listed : (Program.inspect fun workspace : Workspace =>
      (.ok workspace.runningRuns : Except AppError _)).run workspace =
        (.ok workspace.runningRuns, workspace) := rfl
  rw [recoverRunningSessionRuns, Program.run_bind_ok listed, Program.run_bind]
  rcases (recoverEach env error workspace.runningRuns).run workspace with
    ⟨_ | _, after⟩ <;> rfl

theorem recoverRunningSessionRuns_passes
    (passes : (recoverRunningSessionRuns env error).Passes workspace cut) :
    (recoverEach env error workspace.runningRuns).Passes workspace cut := by
  have listed : (Program.inspect fun workspace : Workspace =>
      (.ok workspace.runningRuns : Except AppError _)).run workspace =
        (.ok workspace.runningRuns, workspace) := rfl
  rw [recoverRunningSessionRuns, Program.passes_bind_of_ok listed,
    Program.passes_inspect, Program.passes_bind] at passes
  rcases passes with rfl | inside | ⟨_, middle, ran, done⟩
  · exact Program.passes_start _ _
  · exact inside
  · obtain rfl : cut = middle := done
    have reached :=
      (recoverEach env error workspace.runningRuns).passes_end workspace
    rwa [ran] at reached

/-- A recovery restarted after a crash ends as the uninterrupted one: the same
outcome in every row, and at most one terminal event more in each ledger. -/
structure RestartContract (env : LedgerEnv) (error : String)
    (workspace crashed : Workspace) : Prop where
  outcomes : ∀ runId,
    outcomeOf ((recoverRunningSessionRuns env error).run crashed).2 runId =
      outcomeOf ((recoverRunningSessionRuns env error).run workspace).2 runId
  terminals : ∀ runId, ∃ added,
    Appends env runId workspace
      ((recoverRunningSessionRuns env error).run crashed).2 added ∧
    added.countP (·.event.isRunEnd) ≤ 1

/-- Recovery can be restarted after a crash at any point, exactly if the crash
left no unsettled interruption. -/
theorem restartContract_iff_settled (env : LedgerEnv) (fits : ClockFits env)
    (error : String) (workspace crashed : Workspace)
    (passes : (recoverRunningSessionRuns env error).Passes workspace
      crashed) :
    RestartContract env error workspace crashed ↔
      ¬ InterruptionUnsettled env workspace crashed := by
  have inside := recoverRunningSessionRuns_passes passes
  have restart := recoverEach_restart fits rfl inside
  have first := recoverEach_passes_effect fits (fun _ => running_of_mem)
    (runningRuns_distinct workspace) inside
  have second := recoverEach_passes_effect fits (fun _ => running_of_mem)
    (runningRuns_distinct crashed)
    ((recoverEach env error crashed.runningRuns).passes_end crashed)
  constructor
  · intro contract
    refine restart.mp fun runId => ?_
    have same := contract.outcomes runId
    rwa [recoverRunningSessionRuns_run, recoverRunningSessionRuns_run] at same
  · intro settled
    refine ⟨fun runId => ?_, fun runId => ?_⟩
    · rw [recoverRunningSessionRuns_run, recoverRunningSessionRuns_run]
      exact restart.mpr settled runId
    · rw [recoverRunningSessionRuns_run]
      obtain ⟨early, beforeCrash⟩ := first.appends runId
      obtain ⟨late, afterCrash⟩ := second.appends runId
      have whole := beforeCrash.trans afterCrash
      exact ⟨early ++ late, whole, whole.countP_le_one⟩

/-- What the recovery of the first running row passes through in its log, the
whole recovery passes through. -/
theorem recover_passes_of_first {row : SessionRun} {rest : List SessionRun}
    (first : workspace.runningRuns = row :: rest)
    (present : (workspace.files (runJsonlPath row.runId)).isSome = true)
    (passes : (recoverJsonlSessionRun env (runJsonlPath row.runId) row.runId
      error).Passes workspace cut) :
    (recoverRunningSessionRuns env error).Passes workspace cut := by
  have logged : (fileExists (runJsonlPath row.runId)).run workspace =
      (.ok true, workspace) := by
    rw [fileExists, Program.run_inspect, present]
  have listed : (Program.inspect fun workspace : Workspace =>
      (.ok workspace.runningRuns : Except AppError _)).run workspace =
        (.ok (row :: rest), workspace) := by
    rw [Program.run_inspect, first]
  rw [recoverRunningSessionRuns, Program.passes_bind_of_ok listed,
    Program.passes_bind]
  refine .inr (.inl ?_)
  rw [recoverEach, Program.passes_bind]
  refine .inl ?_
  rw [recoverSessionRun, Program.passes_bind_of_ok logged, if_pos rfl]
  exact .inr passes

/-- Whenever the first running row belongs to a run that recovery interrupts in
its log, there is a crash that leaves the interruption unsettled. -/
theorem exists_unsettled {row : SessionRun} {rest : List SessionRun}
    {committed : List UInt8} {records : List RecordedEvent}
    {state : RunState} (first : workspace.runningRuns = row :: rest)
    (log : ReadableLog env workspace (runJsonlPath row.runId) committed records
      state)
    (interrupted : recoveredOutcome error row.runId true records state =
      some (interruptedOutcome error)) :
    ∃ crashed,
      (recoverRunningSessionRuns env error).Passes workspace crashed ∧
      InterruptionUnsettled env workspace crashed := by
  obtain ⟨crashed, final, ending, later, passes, logOnly, readable, failed⟩ :=
    log.exists_interrupted (runJsonlPath_ne_empty row.runId) interrupted
  have running : Running workspace row.runId := running_of_mem (by
    rw [first]
    exact List.mem_cons_self)
  refine ⟨crashed, ?_, row.runId, ?_, readable.logFailed_iff.mpr ⟨_, failed⟩,
    fun failedBefore => ?_⟩
  · exact recover_passes_of_first first log.isSome passes
  · rw [Running, logOnly.sessionRuns]
    exact running
  · obtain ⟨reason, phase⟩ := log.logFailed_iff.mp failedBefore
    have ongoing := (ongoing_of_interrupted interrupted).1
    exact not_failed_of_not_terminal ongoing reason phase

/-- Whenever the first running row belongs to a run with an empty log, there is
a crash that leaves its first event in the log and nothing unsettled. -/
theorem exists_started {row : SessionRun} {rest : List SessionRun}
    {committed : List UInt8} (first : workspace.runningRuns = row :: rest)
    (log : ReadableLog env workspace (runJsonlPath row.runId) committed []
      .new) :
    ∃ crashed final record later,
      (recoverRunningSessionRuns env error).Passes workspace crashed ∧
      ReadableLog env crashed (runJsonlPath row.runId) final [record] later ∧
      ¬ InterruptionUnsettled env workspace crashed := by
  obtain ⟨crashed, final, record, later, passes, logOnly, readable, ongoing⟩ :=
    log.exists_started error row.runId (runJsonlPath_ne_empty row.runId)
  refine ⟨crashed, final, record, later,
    recover_passes_of_first first log.isSome passes, readable, ?_⟩
  rintro ⟨runId, _, failed, notBefore⟩
  by_cases same : runId = row.runId
  · subst same
    obtain ⟨reason, phase⟩ := readable.logFailed_iff.mp failed
    exact ongoing reason phase
  · have elsewhere := @recoveryOutcome_congr env error _ _ _
      (logOnly.files _ (runJsonlPath_ne same))
      (by simp [Workspace.eventRows, logOnly.ledgerEvents])
    exact notBefore (elsewhere.2.1.mp failed)

/-- The workspace after the JSONL admission of a first run. -/
def admittedFirst : Workspace :=
  ((beginDefaultJsonlSessionRecorder ledgerEnv (fun _ => .ok ()) "session_1"
    firstRun "question" true).run Workspace.empty).2

/-- The row of the first run. -/
def firstRow : SessionRun :=
  admittedRow "session_1" firstRun "question" 0 1700000000000

theorem runningRuns_admittedFirst : admittedFirst.runningRuns = [firstRow] :=
  rfl

theorem readableLog_admittedFirst :
    ReadableLog ledgerEnv admittedFirst (runJsonlPath firstRow.runId) [] []
      .new :=
  ⟨⟨[], List.not_mem_nil, rfl⟩, committed_nil, rfl, rfl⟩

theorem ledgerEnv_fits : ClockFits ledgerEnv :=
  ledgerEnv_clock

/-- A recovery that dies after it gave the empty log its first event can be
restarted. -/
theorem restartContract_startedFirst :
    ∃ crashed final record later,
      (recoverRunningSessionRuns ledgerEnv "daemon restarted").Passes
        admittedFirst crashed ∧
      ReadableLog ledgerEnv crashed (runJsonlPath firstRun) final [record]
        later ∧
      RestartContract ledgerEnv "daemon restarted" admittedFirst crashed := by
  obtain ⟨crashed, final, record, later, passes, readable, settled⟩ :=
    @exists_started ledgerEnv "daemon restarted" _ _ _ _
      runningRuns_admittedFirst readableLog_admittedFirst
  exact ⟨crashed, final, record, later, passes, readable,
    (restartContract_iff_settled ledgerEnv ledgerEnv_fits "daemon restarted"
      admittedFirst crashed passes).mpr settled⟩

/-- A recovery that dies after the interruption reached the log is not repeated
by the next one: the run ends as failed, not as interrupted. -/
theorem not_restartContract_admittedFirst :
    ∃ crashed,
      (recoverRunningSessionRuns ledgerEnv "daemon restarted").Passes
        admittedFirst crashed ∧
      ¬ RestartContract ledgerEnv "daemon restarted" admittedFirst
        crashed := by
  obtain ⟨crashed, passes, unsettled⟩ := exists_unsettled
    runningRuns_admittedFirst readableLog_admittedFirst rfl
  refine ⟨crashed, passes, fun contract => ?_⟩
  have restart := recoverEach_restart ledgerEnv_fits rfl
    (recoverRunningSessionRuns_passes passes)
  refine restart.mp (fun runId => ?_) unsettled
  have same := contract.outcomes runId
  rwa [recoverRunningSessionRuns_run, recoverRunningSessionRuns_run] at same

end PlatoAgent
