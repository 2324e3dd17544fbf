import PlatoAgent.AtomicProgram
import PlatoAgent.LedgerTypes
import PlatoAgent.RunStateTransition
import PlatoAgent.UniqueTable

/-!
# The workspace ledger

The durable state of one workspace: the session and event tables of its SQLite
ledger and the bytes of its JSONL run logs.  Ledger functions are programs of
atomic steps over it.  A SQLite transaction is one step; a write to a log is
one step for each byte, so that a process can die with any prefix of a line on
disk.
-/

namespace PlatoAgent

open AtomicProgram

/-- A row of `sessions`. -/
structure SessionRow where
  sessionId : String
  createdAtMs : Int64
  updatedAtMs : Int64
  deriving DecidableEq, Repr

/-- A row of `session_runs`. -/
structure SessionRun where
  sessionId : String
  runId : RunId
  sessionIndex : Int64
  question : String
  finalAnswer : Option String
  status : RunStateName
  error : Option String
  createdAtMs : Int64
  updatedAtMs : Int64
  deriving DecidableEq, Repr

/-- A row of `ledger_events`. -/
structure LedgerEventRow where
  runId : RunId
  seq : Int64
  occurredAtMs : Int64
  v : UInt32
  eventJson : String
  deriving DecidableEq, Repr

/-- The unique constraints of `session_runs`: `PRIMARY KEY (run_id)` and
`UNIQUE (session_id, session_index)`. -/
inductive SessionRunKey where
  | runId (runId : RunId)
  | sessionIndex (sessionId : String) (sessionIndex : Int64)
  deriving DecidableEq

def SessionRun.keys (row : SessionRun) : List SessionRunKey :=
  [.runId row.runId, .sessionIndex row.sessionId row.sessionIndex]

/-- `PRIMARY KEY (session_id)` of `sessions`. -/
def SessionRow.keys (row : SessionRow) : List String :=
  [row.sessionId]

/-- `PRIMARY KEY (run_id, seq)` of `ledger_events`. -/
def LedgerEventRow.keys (row : LedgerEventRow) : List (RunId × Int64) :=
  [(row.runId, row.seq)]

/-- The durable state of a workspace ledger, with the number of clock readings
taken so far. -/
structure Workspace where
  sessions : UniqueTable SessionRow String SessionRow.keys
  sessionRuns : UniqueTable SessionRun SessionRunKey SessionRun.keys
  ledgerEvents : UniqueTable LedgerEventRow (RunId × Int64)
    LedgerEventRow.keys
  /-- The files below the ledger directory. -/
  files : String → Option (List UInt8)
  clockReadings : Nat

namespace Workspace

/-- A workspace without sessions, events and run logs. -/
def empty : Workspace where
  sessions := .empty
  sessionRuns := .empty
  ledgerEvents := .empty
  files := fun _ => none
  clockReadings := 0

/-- Apply a change to the bytes of a file, if the file is there. -/
def modifyFile (workspace : Workspace) (path : String)
    (change : List UInt8 → List UInt8) : Workspace :=
  { workspace with
    files := Function.update workspace.files path
      ((workspace.files path).map change) }

end Workspace

/-- Ledger functions. -/
abbrev LedgerM := Program Workspace AppError

/-- The body of a SQLite transaction; an error rolls it back. -/
abbrev Txn := StateT Workspace (Except AppError)

/-- `transaction_with_behavior(Immediate)`, the body, and `commit`. -/
def transaction {Result : Type} (body : Txn Result) : LedgerM Result :=
  Program.transact body.run

namespace Txn

variable {First Second : Type}

/-- A check that rolls back with the error. -/
def require (condition : Bool) (error : AppError) : Txn Unit :=
  if condition then pure () else throw error

/-- The body succeeds on the state before and leaves the state after. -/
def Commits (body : Txn First) (before : Workspace) (result : First)
    (after : Workspace) : Prop :=
  body.run before = .ok (result, after)

variable {before after : Workspace}

theorem commits_bind {body : Txn First} {continuation : First → Txn Second}
    {result : Second} :
    (body >>= continuation).Commits before result after ↔
      ∃ first middle, body.Commits before first middle ∧
        (continuation first).Commits middle result after := by
  unfold Commits
  rw [StateT.run_bind]
  rcases body.run before with error | ⟨first, middle⟩ <;>
    simp [bind, Except.bind]

@[simp]
theorem commits_pure {value result : First} :
    (pure value : Txn First).Commits before result after ↔
      value = result ∧ before = after := by
  have ran : (pure value : Txn First).run before = .ok (value, before) := rfl
  simp [Commits, ran]

@[simp]
theorem commits_get {result : Workspace} :
    (get : Txn Workspace).Commits before result after ↔
      before = result ∧ before = after := by
  have ran : (get : Txn Workspace).run before = .ok (before, before) := rfl
  simp only [Commits, ran, Except.ok.injEq, Prod.mk.injEq]

@[simp]
theorem commits_set {workspace : Workspace} {result : PUnit} :
    (set workspace : Txn PUnit).Commits before result after ↔
      workspace = after := by
  have ran : (set workspace : Txn PUnit).run before = .ok (⟨⟩, workspace) :=
    rfl
  simp only [Commits, ran, Except.ok.injEq, Prod.mk.injEq, true_and]

@[simp]
theorem commits_modify {change : Workspace → Workspace} {result : PUnit} :
    (modify change : Txn PUnit).Commits before result after ↔
      change before = after := by
  have ran : (modify change : Txn PUnit).run before =
      .ok (⟨⟩, change before) := rfl
  simp only [Commits, ran, Except.ok.injEq, Prod.mk.injEq, true_and]

@[simp]
theorem not_commits_throw {error : AppError} {result : First} :
    ¬ (throw error : Txn First).Commits before result after := by
  have ran : (throw error : Txn First).run before = .error error := rfl
  simp only [Commits, ran, reduceCtorEq, not_false_eq_true]

@[simp]
theorem commits_lift {check : Except AppError First} {result : First} :
    (liftM check : Txn First).Commits before result after ↔
      check = .ok result ∧ before = after := by
  cases check with
  | error error =>
      have ran : (liftM (Except.error error : Except AppError First) :
          Txn First).run before = .error error := rfl
      simp only [Commits, ran, reduceCtorEq, false_and]
  | ok value =>
      have ran : (liftM (Except.ok value : Except AppError First) :
          Txn First).run before = .ok (value, before) := rfl
      simp only [Commits, ran, Except.ok.injEq, Prod.mk.injEq]

@[simp]
theorem commits_require {condition : Bool} {error : AppError}
    {result : Unit} :
    (require condition error).Commits before result after ↔
      condition = true ∧ before = after := by
  cases condition <;> simp [require]

end Txn

def throwApp {Result : Type} (error : AppError) : LedgerM Result :=
  Program.ofExcept (.error error)

def requireApp (condition : Bool) (error : AppError) : LedgerM Unit :=
  if condition then pure () else throwApp error

theorem guarantees_requireApp {relation : Workspace → Workspace → Prop}
    (condition : Bool) (error : AppError) :
    (requireApp condition error).Guarantees relation := by
  cases condition <;> trivial

/-- Read the system clock. -/
def nowMs (env : LedgerEnv) : LedgerM UInt64 :=
  .atomic
    (fun workspace =>
      { workspace with clockReadings := workspace.clockReadings + 1 })
    (fun workspace => pure (env.clock workspace.clockReadings))

/-- Read the system clock inside a transaction. -/
def Txn.nowMs (env : LedgerEnv) : Txn UInt64 := fun workspace =>
  .ok (env.clock workspace.clockReadings,
    { workspace with clockReadings := workspace.clockReadings + 1 })

/-- `sqlite_i64(now_ms(), "occurred_at_ms")`. -/
def nowColumn (env : LedgerEnv) : LedgerM Int64 := do
  let now ← nowMs env
  Program.ofExcept (sqliteI64 now "occurred_at_ms")

/-- Number, stamp and apply the next event; the record and the state after
it. -/
def nextRecordAt (now : UInt64) (state : RunState) (event : HarnessEvent) :
    Except AppError (RecordedEvent × RunState) :=
  let record : RecordedEvent :=
    { seq := state.nextSeq, occurredAtMs := now, event := event }
  match state.next record with
  | .error error => .error (.core error)
  | .ok after => .ok (record, after)

def nextRecord (env : LedgerEnv) (state : RunState) (event : HarnessEvent) :
    LedgerM (RecordedEvent × RunState) := do
  let now ← nowMs env
  Program.ofExcept (nextRecordAt now state event)

/-- Replay the records from the initial state. -/
def replayRecords (records : List RecordedEvent) : Except AppError RunState :=
  (RunState.replay records).mapError .core

/-- `runs/{run_id}.jsonl` below the ledger directory. -/
def runJsonlPath (runId : RunId) : String :=
  "runs/" ++ runId.value ++ ".jsonl"

theorem runJsonlPath_injective : Function.Injective runJsonlPath := by
  intro first second same
  obtain ⟨firstText, _⟩ := first
  obtain ⟨secondText, _⟩ := second
  have texts : firstText = secondText := by
    simpa [runJsonlPath, ← String.toList_inj] using same
  simp [texts]

/-- `fs::read`. -/
def readFile (path : String) : LedgerM (List UInt8) :=
  Program.inspect fun workspace =>
    match workspace.files path with
    | none => .error .io
    | some bytes => .ok bytes

def fileExists (path : String) : LedgerM Bool :=
  Program.inspect fun workspace => .ok (workspace.files path).isSome

/-- `OpenOptions::create_new`. -/
def createNewFile (path : String) : LedgerM Unit :=
  Program.transact fun workspace =>
    match workspace.files path with
    | some _ => .error (.ledgerExists path)
    | none =>
        .ok ((), { workspace with
          files := Function.update workspace.files path (some []) })

/-- `write_all` at the end of the file, byte by byte. -/
def appendFile (path : String) : List UInt8 → LedgerM Unit
  | [] => pure ()
  | byte :: rest =>
      .atomic (fun workspace => workspace.modifyFile path (· ++ [byte]))
        fun _ => appendFile path rest

/-- `set_len` to a shorter length. -/
def truncateFile (path : String) (length : Nat) : LedgerM Unit :=
  .atomic (fun workspace => workspace.modifyFile path (·.take length))
    fun _ => pure ()

/-- `fs::remove_file`. -/
def removeFile (path : String) : LedgerM Unit :=
  Program.transact fun workspace =>
    match workspace.files path with
    | none => .error .io
    | some _ =>
        .ok ((), { workspace with
          files := Function.update workspace.files path none })

end PlatoAgent
