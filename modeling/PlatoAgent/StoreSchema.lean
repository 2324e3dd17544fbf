import PlatoAgent.LedgerTypes
import PlatoAgent.UniqueTable

/-!
# The tables of the server store

Profiles, thread authorities, spawn approvals, stops, branch claims, home
reservations, run admissions and the two message tables of the server-wide
database.  Primary keys, `UNIQUE` constraints and partial unique indexes are
the keys of the tables; columns that hold JSON are the values they encode.
-/

namespace PlatoAgent

/-- Durable lifecycle role of one thread authority. -/
inductive ThreadKind where
  | home | child | legacy
  deriving DecidableEq, Repr

inductive ThreadApprovalPolicy where
  | prompt | yolo
  deriving DecidableEq, Repr

/-- Whether this parent policy permits the requested child policy. -/
def ThreadApprovalPolicy.permits : ThreadApprovalPolicy →
    ThreadApprovalPolicy → Bool
  | .yolo, _ => true
  | .prompt, .prompt => true
  | .prompt, .yolo => false

inductive ReasoningEffort where
  | none | minimal | low | medium | high | xhigh
  deriving DecidableEq, Repr

inductive ThreadConfinement where
  | landlock | none
  deriving DecidableEq, Repr

structure ThreadWorktree where
  repo : String
  branch : String
  path : String
  deriving DecidableEq, Repr

structure ThreadGrantedPath where
  path : String
  writable : Bool
  deriving DecidableEq, Repr

/-- Complete authority of one thread, as the store reads it back. -/
structure ThreadAuthorityRecord where
  threadId : String
  parentThreadId : Option String
  spawningActor : String
  cwd : Option String
  agentId : Option AgentId
  profileId : Option ProfileId
  profileRevision : Option UInt64
  threadKind : ThreadKind
  model : String
  reasoningEffort : ReasoningEffort
  approvalPolicy : ThreadApprovalPolicy
  toolset : List String
  worktrees : List ThreadWorktree
  grantedPaths : List ThreadGrantedPath
  network : Bool
  createdAtMs : UInt64
  deriving DecidableEq, Repr

inductive LegacyReason where
  | additionalRoot | missingProfile | crossProfileEdge | missingWorkspace
  | unsupportedAuthority
  deriving DecidableEq, Repr

/-- The classification columns written beside an authority. -/
structure ThreadProfileAuthority where
  workspaceId : Option String
  profileId : Option ProfileId
  profileRevision : Option UInt64
  threadKind : ThreadKind
  legacyReason : Option LegacyReason
  deriving DecidableEq, Repr

/-- A row of `thread_authorities`.  Rows migrated from the first schema can
lack the columns added later. -/
structure ThreadAuthorityRow where
  threadId : String
  parentThreadId : Option String
  spawningActor : String
  cwd : Option String
  agentId : Option AgentId
  workspaceId : Option String
  profileId : Option ProfileId
  profileRevision : Option UInt64
  threadKind : ThreadKind
  legacyReason : Option LegacyReason
  model : String
  reasoningEffort : ReasoningEffort
  approvalPolicy : ThreadApprovalPolicy
  toolset : Option (List String)
  worktrees : Option (List ThreadWorktree)
  grantedPaths : Option (List ThreadGrantedPath)
  network : Option Bool
  createdAtMs : UInt64
  deriving DecidableEq, Repr

/-- `thread_authority_from_row`, with the defaults of missing columns. -/
def ThreadAuthorityRow.record (row : ThreadAuthorityRow) :
    ThreadAuthorityRecord where
  threadId := row.threadId
  parentThreadId := row.parentThreadId
  spawningActor := row.spawningActor
  cwd := row.cwd
  agentId := row.agentId
  profileId := row.profileId
  profileRevision := row.profileRevision
  threadKind := row.threadKind
  model := row.model
  reasoningEffort := row.reasoningEffort
  approvalPolicy := row.approvalPolicy
  toolset := row.toolset.getD []
  worktrees := row.worktrees.getD []
  grantedPaths := row.grantedPaths.getD
    ((row.cwd.map fun path => [⟨path, true⟩]).getD [])
  network := row.network.getD false
  createdAtMs := row.createdAtMs

inductive ThreadSpawnDecisionName where
  | granted | denied | canceled
  deriving DecidableEq, Repr

structure ThreadSpawnApprovalRecord where
  spawnId : String
  threadId : String
  decision : ThreadSpawnDecisionName
  actor : String
  reason : Option String
  occurredAtMs : UInt64
  deriving DecidableEq, Repr

structure ThreadStopRecord where
  threadId : String
  actor : String
  stoppedTurnId : Option String
  occurredAtMs : UInt64
  deriving DecidableEq, Repr

structure ThreadConfinementRow where
  threadId : String
  backend : ThreadConfinement
  recordedAtMs : UInt64
  deriving DecidableEq, Repr

structure BranchClaimRecord where
  workspaceId : String
  repo : String
  branch : String
  threadId : String
  claimedAtMs : UInt64
  deriving DecidableEq, Repr

/-- The columns of `profiles` that the modelled operations read or write. -/
structure ProfileRow where
  id : ProfileId
  workspaceId : String
  displayName : String
  currentRevision : UInt64
  homeThreadId : Option String
  importedAgentId : Option String
  deriving DecidableEq, Repr

/-- The key columns of `profile_revisions`. -/
structure ProfileRevisionRow where
  profileId : ProfileId
  revision : UInt64
  deriving DecidableEq, Repr

/-- The columns of `agents` that classification reads. -/
structure AgentRow where
  id : String
  workspaceId : String
  deriving DecidableEq, Repr

structure ThreadRepositoryRequest where
  repo : String
  branch : Option String
  deriving DecidableEq, Repr

structure ProfileHomeProposal where
  repositories : List ThreadRepositoryRequest
  workingRepository : String
  workingSubdir : String
  deriving DecidableEq, Repr

structure ThreadRepositoryDraft where
  repo : String
  sourcePath : String
  branch : String
  sourceRef : String
  deriving DecidableEq, Repr

structure ThreadAuthorityDraft where
  threadId : String
  parentThreadId : Option String
  cwd : String
  agentId : Option AgentId
  profileId : ProfileId
  profileRevision : UInt64
  threadKind : ThreadKind
  model : String
  reasoningEffort : ReasoningEffort
  approvalPolicy : ThreadApprovalPolicy
  toolset : List String
  worktrees : List ThreadWorktree
  repositories : List ThreadRepositoryDraft
  grantedPaths : List ThreadGrantedPath
  network : Bool
  deriving DecidableEq, Repr

inductive HomeReservationState where
  | pending | granted | denied | canceled
  deriving DecidableEq, Repr

structure HomeReservationRecord where
  id : String
  workspaceId : String
  profileId : ProfileId
  idempotencyKey : String
  proposal : ProfileHomeProposal
  draft : ThreadAuthorityDraft
  state : HomeReservationState
  decidedBy : Option String
  reason : Option String
  createdAtMs : UInt64
  decidedAtMs : Option UInt64
  deriving DecidableEq, Repr

inductive ChildReturnKind where
  | progress | question | result | failed
  deriving DecidableEq, Repr

def ChildReturnKind.isTerminal : ChildReturnKind → Bool
  | .result | .failed => true
  | .progress | .question => false

inductive ParentAnswerKind where
  | answer | followUp
  deriving DecidableEq, Repr

inductive DeliveryState where
  | available | reserved | consumed
  deriving DecidableEq, Repr

/-- The delivery columns shared by the two message tables. -/
structure Delivery where
  state : DeliveryState
  reservedByRunId : Option String
  reservedByTurnId : Option String
  consumedByRunId : Option String
  consumedByTurnId : Option String
  consumedAtMs : Option UInt64
  deriving DecidableEq, Repr

/-- A message as it is inserted: state `available`, all other columns null. -/
def Delivery.inserted : Delivery where
  state := .available
  reservedByRunId := none
  reservedByTurnId := none
  consumedByRunId := none
  consumedByTurnId := none
  consumedAtMs := none

structure ChildReturnRecord where
  messageId : String
  sequence : Nat
  spawnId : String
  profileId : ProfileId
  parentThreadId : String
  childThreadId : String
  sourceRunId : Option String
  sourceTurnId : Option String
  kind : ChildReturnKind
  payload : String
  artifactRefs : List String
  truncated : Bool
  createdAtMs : UInt64
  profileRevision : UInt64
  delivery : Delivery
  deriving DecidableEq, Repr

structure ParentAnswerRecord where
  messageId : String
  sequence : Nat
  spawnId : String
  profileId : ProfileId
  parentThreadId : String
  childThreadId : String
  sourceRunId : String
  sourceTurnId : String
  kind : ParentAnswerKind
  payload : String
  createdAtMs : UInt64
  profileRevision : UInt64
  delivery : Delivery
  deriving DecidableEq, Repr

structure ThreadRunAdmission where
  runId : String
  workspaceId : String
  profileId : ProfileId
  threadId : String
  threadTurnId : String
  profileRevision : UInt64
  createdAtMs : UInt64
  deriving DecidableEq, Repr

/-- `PRIMARY KEY (thread_id)` and the index of home authorities. -/
inductive AuthorityKey where
  | threadId (threadId : String)
  | home (profileId : ProfileId)
  deriving DecidableEq

def ThreadAuthorityRow.keys (row : ThreadAuthorityRow) : List AuthorityKey :=
  .threadId row.threadId ::
    if row.threadKind = .home then (row.profileId.map .home).toList else []

def ThreadSpawnApprovalRecord.keys (row : ThreadSpawnApprovalRecord) :
    List String :=
  [row.spawnId]

def ThreadStopRecord.keys (row : ThreadStopRecord) : List String :=
  [row.threadId]

def ThreadConfinementRow.keys (row : ThreadConfinementRow) : List String :=
  [row.threadId]

/-- `PRIMARY KEY (workspace_id, repo, branch)` and `UNIQUE (thread_id,
repo)`. -/
inductive ClaimKey where
  | branch (workspaceId repo branch : String)
  | thread (threadId repo : String)
  deriving DecidableEq

def BranchClaimRecord.keys (row : BranchClaimRecord) : List ClaimKey :=
  [.branch row.workspaceId row.repo row.branch, .thread row.threadId row.repo]

/-- `PRIMARY KEY (id)` and the three `UNIQUE` constraints of `profiles`. -/
inductive ProfileKey where
  | id (id : ProfileId)
  | name (workspaceId displayName : String)
  | homeThread (threadId : String)
  | importedAgent (agentId : String)
  deriving DecidableEq

def ProfileRow.keys (row : ProfileRow) : List ProfileKey :=
  .id row.id :: .name row.workspaceId row.displayName ::
    ((row.homeThreadId.map .homeThread).toList ++
      (row.importedAgentId.map .importedAgent).toList)

def ProfileRevisionRow.keys (row : ProfileRevisionRow) :
    List (ProfileId × UInt64) :=
  [(row.profileId, row.revision)]

/-- `PRIMARY KEY (id)`, `UNIQUE (profile_id, idempotency_key)` and the index
of pending reservations. -/
inductive ReservationKey where
  | id (id : String)
  | request (profileId : ProfileId) (idempotencyKey : String)
  | pending (profileId : ProfileId)
  deriving DecidableEq

def HomeReservationRecord.keys (row : HomeReservationRecord) :
    List ReservationKey :=
  .id row.id :: .request row.profileId row.idempotencyKey ::
    if row.state = .pending then [.pending row.profileId] else []

def ThreadRunAdmission.keys (row : ThreadRunAdmission) : List String :=
  [row.runId]

/-- `PRIMARY KEY (sequence)`, `UNIQUE (message_id)` and the index of terminal
returns. -/
inductive ReturnKey where
  | sequence (sequence : Nat)
  | messageId (messageId : String)
  | terminal (spawnId : String)
  deriving DecidableEq

def ChildReturnRecord.keys (row : ChildReturnRecord) : List ReturnKey :=
  .sequence row.sequence :: .messageId row.messageId ::
    if row.kind.isTerminal then [.terminal row.spawnId] else []

/-- `PRIMARY KEY (sequence)` and `UNIQUE (message_id)`. -/
inductive AnswerKey where
  | sequence (sequence : Nat)
  | messageId (messageId : String)
  deriving DecidableEq

def ParentAnswerRecord.keys (row : ParentAnswerRecord) : List AnswerKey :=
  [.sequence row.sequence, .messageId row.messageId]

/-- The durable state of the server store.  The two counters are the
`AUTOINCREMENT` rows of the message tables. -/
structure ServerStore where
  workspaces : List String
  agents : UniqueTable AgentRow String fun row => [row.id]
  profiles : UniqueTable ProfileRow ProfileKey ProfileRow.keys
  profileRevisions : UniqueTable ProfileRevisionRow (ProfileId × UInt64)
    ProfileRevisionRow.keys
  threadAuthorities : UniqueTable ThreadAuthorityRow AuthorityKey
    ThreadAuthorityRow.keys
  threadSpawnApprovals : UniqueTable ThreadSpawnApprovalRecord String
    ThreadSpawnApprovalRecord.keys
  threadStops : UniqueTable ThreadStopRecord String ThreadStopRecord.keys
  threadConfinements : UniqueTable ThreadConfinementRow String
    ThreadConfinementRow.keys
  threadBranchClaims : UniqueTable BranchClaimRecord ClaimKey
    BranchClaimRecord.keys
  homeReservations : UniqueTable HomeReservationRecord ReservationKey
    HomeReservationRecord.keys
  threadRunAdmissions : UniqueTable ThreadRunAdmission String
    ThreadRunAdmission.keys
  childReturns : UniqueTable ChildReturnRecord ReturnKey ChildReturnRecord.keys
  parentAnswers : UniqueTable ParentAnswerRecord AnswerKey
    ParentAnswerRecord.keys
  lastReturnSequence : Nat
  lastAnswerSequence : Nat

/-- An unsigned integer that went through `sqlite_i64` into its column. -/
def storedU64 (value : UInt64) (field : String) : Except AppError UInt64 :=
  (sqliteI64 value field).map fun _ => value

theorem storedU64_ok_iff {value stored : UInt64} {field : String} :
    storedU64 value field = .ok stored ↔
      value.toNat < 2 ^ 63 ∧ value = stored := by
  unfold storedU64 sqliteI64
  split <;> simp_all [Except.map]

/-- A check that ends the method with an error. -/
def requireThat (holds : Prop) [Decidable holds] (error : AppError) :
    Except AppError Unit :=
  if holds then .ok () else .error error

/-- A constraint of the schema; a violation is an error of the database. -/
def constraint (holds : Bool) : Except AppError Unit :=
  requireThat (holds = true) .sqlite

/-- `INSERT`: a row that shares a key is an error of the database. -/
def insertRow {Row Key : Type} [DecidableEq Key] {keys : Row → List Key}
    (table : UniqueTable Row Key keys) (row : Row) :
    Except AppError (UniqueTable Row Key keys) :=
  match table.insert? row with
  | some inserted => .ok inserted
  | none => .error .sqlite

theorem insertRow_ok_iff {Row Key : Type} [DecidableEq Key]
    {keys : Row → List Key} {table after : UniqueTable Row Key keys}
    {row : Row} :
    insertRow table row = .ok after ↔ table.insert? row = some after := by
  unfold insertRow
  cases table.insert? row with
  | none => simp
  | some inserted => simp

@[simp]
theorem requireThat_ok_iff {holds : Prop} [Decidable holds] {error : AppError}
    {result : Unit} : requireThat holds error = .ok result ↔ holds := by
  unfold requireThat
  split <;> simp_all

@[simp]
theorem constraint_ok_iff {holds : Bool} {result : Unit} :
    constraint holds = .ok result ↔ holds = true :=
  requireThat_ok_iff

end PlatoAgent
