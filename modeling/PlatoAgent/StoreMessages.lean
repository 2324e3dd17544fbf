import PlatoAgent.StoreThreadSemantics
import PlatoAgent.Utf8Prefixes

/-!
# Child returns, parent answers and run admissions

The methods of `ServerStore` that store a message between a child thread and
its parent, admit a thread run together with the messages it reads, and settle
or discard that admission.  The statements over the two message tables differ
only in the column a message is addressed by.
-/

namespace PlatoAgent

/-- What the delivery statements read and write of a message table. -/
structure DeliveryColumns (Row Key : Type) (keys : Row → List Key) where
  messageId : Row → String
  profileId : Row → ProfileId
  address : Row → String
  delivery : Row → Delivery
  deliver : (Delivery → Delivery) → Row → Row
  messageId_deliver : ∀ change row, messageId (deliver change row) =
    messageId row
  profileId_deliver : ∀ change row, profileId (deliver change row) =
    profileId row
  address_deliver : ∀ change row, address (deliver change row) = address row
  delivery_deliver : ∀ change row, delivery (deliver change row) =
    change (delivery row)
  deliver_deliver : ∀ first second row, deliver second (deliver first row) =
    deliver (second ∘ first) row
  keys_deliver : ∀ change row, keys (deliver change row) = keys row

attribute [simp] DeliveryColumns.messageId_deliver
  DeliveryColumns.profileId_deliver DeliveryColumns.address_deliver
  DeliveryColumns.delivery_deliver DeliveryColumns.deliver_deliver

/-- Child returns are addressed to the parent thread. -/
def childReturnColumns :
    DeliveryColumns ChildReturnRecord ReturnKey ChildReturnRecord.keys where
  messageId := (·.messageId)
  profileId := (·.profileId)
  address := (·.parentThreadId)
  delivery := (·.delivery)
  deliver change row := { row with delivery := change row.delivery }
  messageId_deliver _ _ := rfl
  profileId_deliver _ _ := rfl
  address_deliver _ _ := rfl
  delivery_deliver _ _ := rfl
  deliver_deliver _ _ _ := rfl
  keys_deliver _ _ := rfl

/-- Parent answers are addressed to the child thread. -/
def parentAnswerColumns :
    DeliveryColumns ParentAnswerRecord AnswerKey ParentAnswerRecord.keys where
  messageId := (·.messageId)
  profileId := (·.profileId)
  address := (·.childThreadId)
  delivery := (·.delivery)
  deliver change row := { row with delivery := change row.delivery }
  messageId_deliver _ _ := rfl
  profileId_deliver _ _ := rfl
  address_deliver _ _ := rfl
  delivery_deliver _ _ := rfl
  deliver_deliver _ _ _ := rfl
  keys_deliver _ _ := rfl

namespace Delivery

def reserve (runId turnId : String) (delivery : Delivery) : Delivery :=
  { delivery with
    state := .reserved
    reservedByRunId := some runId
    reservedByTurnId := some turnId }

def release (delivery : Delivery) : Delivery :=
  { delivery with
    state := .available
    reservedByRunId := none
    reservedByTurnId := none }

def consume (atMs : UInt64) (delivery : Delivery) : Delivery :=
  { delivery with
    state := .consumed
    consumedByRunId := delivery.reservedByRunId
    consumedByTurnId := delivery.reservedByTurnId
    consumedAtMs := some atMs }

/-- Reserved by this turn of this run. -/
def isReservedBy (runId turnId : String) (delivery : Delivery) : Bool :=
  delivery.state == .reserved && delivery.reservedByRunId == some runId &&
    delivery.reservedByTurnId == some turnId

/-- Consumed by this turn of this run. -/
def isConsumedBy (runId turnId : String) (delivery : Delivery) : Bool :=
  delivery.state == .consumed && delivery.consumedByRunId == some runId &&
    delivery.consumedByTurnId == some turnId

end Delivery

namespace DeliveryColumns

variable {Row Key : Type} {keys : Row → List Key}

/-- The message is the named one and addressed to the admitted thread. -/
def isAddressed (columns : DeliveryColumns Row Key keys) (messageId : String)
    (admission : ThreadRunAdmission) (row : Row) : Bool :=
  columns.messageId row == messageId &&
    columns.profileId row == admission.profileId &&
    columns.address row == admission.threadId

/-- The row that the `UPDATE` of `reserve_delivery` selects. -/
def isReservable (columns : DeliveryColumns Row Key keys) (messageId : String)
    (admission : ThreadRunAdmission) (row : Row) : Bool :=
  columns.isAddressed messageId admission row &&
    (columns.delivery row).state == .available

/-- The row that the `SELECT` of `reserve_delivery` looks for. -/
def isHeld (columns : DeliveryColumns Row Key keys) (messageId : String)
    (admission : ThreadRunAdmission) (row : Row) : Bool :=
  columns.isAddressed messageId admission row &&
    ((columns.delivery row).isReservedBy admission.runId
        admission.threadTurnId ||
      (columns.delivery row).isConsumedBy admission.runId
        admission.threadTurnId)

def updateDeliveries (columns : DeliveryColumns Row Key keys)
    (table : UniqueTable Row Key keys) (selected : Row → Bool)
    (change : Delivery → Delivery) : UniqueTable Row Key keys :=
  table.update selected (columns.deliver change) (columns.keys_deliver change)

/-- `reserve_delivery`: only a new admission takes available messages; any
other message must already be held by the run. -/
def reserveDelivery (columns : DeliveryColumns Row Key keys)
    (table : UniqueTable Row Key keys) (messageId : String)
    (admission : ThreadRunAdmission) (newAdmission : Bool) :
    Except AppError (UniqueTable Row Key keys) :=
  let selected row := newAdmission && columns.isReservable messageId admission row
  let after := columns.updateDeliveries table selected
    (Delivery.reserve admission.runId admission.threadTurnId)
  if table.rows.countP selected = 1 then
    .ok after
  else if after.rows.any (columns.isHeld messageId admission) then
    .ok after
  else
    .error (.config
      s!"delivery reservation CAS failed for message {messageId}")

/-- The loop over the named messages of one table. -/
def reserveAll (columns : DeliveryColumns Row Key keys)
    (admission : ThreadRunAdmission) (newAdmission : Bool)
    (table : UniqueTable Row Key keys) :
    List String → Except AppError (UniqueTable Row Key keys)
  | [] => .ok table
  | messageId :: rest => do
      let after ← columns.reserveDelivery table messageId admission newAdmission
      columns.reserveAll admission newAdmission after rest

/-- The `UPDATE` over the messages that one turn of a run has reserved. -/
def settleReserved (columns : DeliveryColumns Row Key keys)
    (table : UniqueTable Row Key keys) (runId turnId : String)
    (change : Delivery → Delivery) : UniqueTable Row Key keys :=
  columns.updateDeliveries table
    (fun row => (columns.delivery row).isReservedBy runId turnId) change

end DeliveryColumns

structure ChildReturnDraft where
  messageId : String
  workspaceId : String
  childThreadId : String
  sourceRunId : Option String
  sourceTurnId : Option String
  kind : ChildReturnKind
  payload : String
  artifactRefs : List String
  createdAtMs : UInt64
  deriving DecidableEq, Repr

structure ParentAnswerDraft where
  messageId : String
  workspaceId : String
  parentThreadId : String
  childThreadId : String
  sourceRunId : String
  sourceTurnId : String
  kind : ParentAnswerKind
  payload : String
  createdAtMs : UInt64
  deriving DecidableEq, Repr

inductive PersistChildReturnResult where
  | stored (record : ChildReturnRecord)
  | replayed (record : ChildReturnRecord)
  | rejected (code reason : String)
  deriving DecidableEq, Repr

inductive PersistParentAnswerResult where
  | stored (record : ParentAnswerRecord)
  | replayed (record : ParentAnswerRecord)
  | rejected (code reason : String)
  deriving DecidableEq, Repr

/-- `MAX_CHILD_RETURN_PAYLOAD_BYTES`. -/
def maxChildReturnPayloadBytes : Nat := 65536

/-- `MAX_UNCONSUMED_NONTERMINAL_RETURNS`. -/
def maxUnconsumedNonterminalReturns : Nat := 128

/-- `truncate_utf8_bytes`: the end of the cut is lowered from `maxBytes` to a
character boundary.  The kept text, and whether something was cut. -/
def truncateUtf8Bytes (value : String) (maxBytes : Nat) : String × Bool :=
  if value.utf8ByteSize ≤ maxBytes then
    (value, false)
  else
    (String.ofList (Utf8.takeBytes value.toList
      (Utf8.boundaryBelow value.toList maxBytes)), true)

structure SpawnEdge where
  spawnId : String
  profileId : ProfileId
  profileRevision : UInt64
  parentThreadId : String
  deriving DecidableEq, Repr

def childReturnMatches (record : ChildReturnRecord) (draft : ChildReturnDraft)
    (edge : SpawnEdge) (profileRevision : UInt64) (payload : String)
    (truncated : Bool) : Bool :=
  record.spawnId == edge.spawnId &&
    record.profileId == edge.profileId &&
    record.parentThreadId == edge.parentThreadId &&
    record.childThreadId == draft.childThreadId &&
    record.sourceRunId == draft.sourceRunId &&
    record.sourceTurnId == draft.sourceTurnId &&
    record.kind == draft.kind &&
    record.payload == payload &&
    record.artifactRefs == draft.artifactRefs &&
    record.truncated == truncated &&
    record.profileRevision == profileRevision

def parentAnswerMatches (record : ParentAnswerRecord)
    (draft : ParentAnswerDraft) (edge : SpawnEdge)
    (profileRevision : UInt64) : Bool :=
  record.spawnId == edge.spawnId &&
    record.profileId == edge.profileId &&
    record.parentThreadId == draft.parentThreadId &&
    record.childThreadId == draft.childThreadId &&
    record.sourceRunId == draft.sourceRunId &&
    record.sourceTurnId == draft.sourceTurnId &&
    record.kind == draft.kind &&
    record.payload == draft.payload &&
    record.profileRevision == profileRevision

namespace ServerStore

/-- The first granted approval of a thread, by time and then by identifier. -/
def grantedSpawn (store : ServerStore) (threadId : String) :
    Option ThreadSpawnApprovalRecord :=
  (store.threadSpawnApprovals.rows.filter fun row =>
    row.threadId == threadId && row.decision == .granted).argmin
      fun row => toLex (row.occurredAtMs.toNat, row.spawnId)

/-- The edge above a child row.  A null in one of its columns is an error. -/
def edgeOf (spawn : ThreadSpawnApprovalRecord) (profile : ThreadAuthorityRow)
    (parentThreadId : Option String) : Except AppError SpawnEdge :=
  match profile.profileId, profile.profileRevision, parentThreadId with
  | some profileId, some profileRevision, some parentThreadId =>
      .ok { spawnId := spawn.spawnId
            profileId := profileId
            profileRevision := profileRevision
            parentThreadId := parentThreadId }
  | _, _, _ => .error .sqlite

def childEdgeFrom (store : ServerStore) (workspaceId childThreadId : String) :
    Except AppError (Option SpawnEdge) :=
  match store.threadAuthorityRow childThreadId,
      store.grantedSpawn childThreadId with
  | some child, some spawn =>
      if child.workspaceId = some workspaceId ∧ child.threadKind = .child then
        (edgeOf spawn child child.parentThreadId).map some
      else
        .ok none
  | _, _ => .ok none

def parentAnswerEdgeFrom (store : ServerStore)
    (workspaceId parentThreadId childThreadId : String) :
    Except AppError (Option SpawnEdge) :=
  match store.threadAuthorityRow parentThreadId,
      store.threadAuthorityRow childThreadId,
      store.grantedSpawn childThreadId with
  | some parent, some child, some spawn =>
      if child.parentThreadId = some parent.threadId ∧
          child.workspaceId = parent.workspaceId ∧
          child.profileId = parent.profileId ∧ child.profileId.isSome ∧
          parent.workspaceId = some workspaceId ∧
          parent.threadKind ≠ .legacy ∧ child.threadKind = .child then
        (edgeOf spawn parent child.parentThreadId).map some
      else
        .ok none
  | _, _, _ => .ok none

def threadRunAdmissionById (store : ServerStore) (runId : String) :
    Option ThreadRunAdmission :=
  store.threadRunAdmissions.rows.find? (·.runId == runId)

def matchingThreadRun (store : ServerStore) (runId workspaceId : String)
    (profileId : ProfileId) (threadId : String) (turnId : Option String) :
    Option ThreadRunAdmission :=
  (store.threadRunAdmissionById runId).filter fun admission =>
    admission.workspaceId == workspaceId && admission.profileId == profileId &&
      admission.threadId == threadId &&
      turnId.all (admission.threadTurnId == ·)

def childReturnById (store : ServerStore) (messageId : String) :
    Option ChildReturnRecord :=
  store.childReturns.rows.find? (·.messageId == messageId)

def terminalChildReturn (store : ServerStore) (spawnId : String) :
    Option ChildReturnRecord :=
  store.childReturns.rows.find? fun row =>
    row.spawnId == spawnId && row.kind.isTerminal

def parentAnswerById (store : ServerStore) (messageId : String) :
    Option ParentAnswerRecord :=
  store.parentAnswers.rows.find? (·.messageId == messageId)

/-- The unconsumed progress and question returns of a parent. -/
def pendingNonterminal (store : ServerStore) (parentThreadId : String) : Nat :=
  store.childReturns.rows.countP fun row =>
    row.parentThreadId == parentThreadId && !row.kind.isTerminal &&
      row.delivery.state != .consumed

/-- The foreign keys of a message row. -/
def messageReferences (store : ServerStore) (edge : SpawnEdge)
    (childThreadId : String) : Bool :=
  (store.threadSpawnApproval edge.spawnId).isSome &&
    (store.profile edge.profileId).isSome &&
    (store.threadAuthorityRow edge.parentThreadId).isSome &&
    (store.threadAuthorityRow childThreadId).isSome

/-- The payload that a draft stores, and whether it was cut. -/
def returnPayload (draft : ChildReturnDraft) : String × Bool :=
  if draft.kind.isTerminal then
    truncateUtf8Bytes draft.payload maxChildReturnPayloadBytes
  else
    (draft.payload, false)

/-- The row that `persist_child_return` inserts. -/
def returnRow (store : ServerStore) (draft : ChildReturnDraft)
    (edge : SpawnEdge) (profileRevision : UInt64) : ChildReturnRecord where
  messageId := draft.messageId
  sequence := store.lastReturnSequence + 1
  spawnId := edge.spawnId
  profileId := edge.profileId
  parentThreadId := edge.parentThreadId
  childThreadId := draft.childThreadId
  sourceRunId := draft.sourceRunId
  sourceTurnId := draft.sourceTurnId
  kind := draft.kind
  payload := (returnPayload draft).1
  artifactRefs := draft.artifactRefs
  truncated := (returnPayload draft).2
  createdAtMs := draft.createdAtMs
  profileRevision := profileRevision
  delivery := .inserted

def insertChildReturn (store : ServerStore) (draft : ChildReturnDraft)
    (edge : SpawnEdge) (profileRevision : UInt64) :
    Except AppError (PersistChildReturnResult × ServerStore) := do
  let row := store.returnRow draft edge profileRevision
  let _ ← storedU64 draft.createdAtMs "child return created_at_ms"
  let _ ← storedU64 profileRevision "child return profile_revision"
  constraint (decide (0 < profileRevision) &&
    store.messageReferences edge draft.childThreadId)
  let childReturns ← insertRow store.childReturns row
  pure (.stored row,
    { store with
      childReturns := childReturns
      lastReturnSequence := row.sequence })

/-- The checks behind the source of a draft: a terminal return replaces any
later one, a known message must match, and a nonterminal return needs an open
edge and room at the parent. -/
def storeChildReturn (store : ServerStore) (draft : ChildReturnDraft)
    (edge : SpawnEdge) (profileRevision : UInt64) :
    Except AppError (PersistChildReturnResult × ServerStore) :=
  match (if draft.kind.isTerminal then store.terminalChildReturn edge.spawnId
      else none) with
  | some existing => .ok (.replayed existing, store)
  | none =>
      match store.childReturnById draft.messageId with
      | some existing =>
          if childReturnMatches existing draft edge profileRevision
              (returnPayload draft).1 (returnPayload draft).2 then
            .ok (.replayed existing, store)
          else
            .ok (.rejected "idempotency_conflict"
              "child return message id was already used for different content",
              store)
      | none =>
          if (store.terminalChildReturn edge.spawnId).isSome then
            .ok (.rejected "child_terminal"
              "child already has a terminal return", store)
          else if !draft.kind.isTerminal &&
              maxUnconsumedNonterminalReturns ≤
                store.pendingNonterminal edge.parentThreadId then
            .ok (.rejected "rate_limited"
              s!"parent has {maxUnconsumedNonterminalReturns} unconsumed nonterminal returns",
              store)
          else
            store.insertChildReturn draft edge profileRevision

/-- The revision of the admitted source run, or of the edge without one. -/
def returnRevision (store : ServerStore) (draft : ChildReturnDraft)
    (edge : SpawnEdge) : Option UInt64 :=
  match draft.sourceRunId with
  | none => some edge.profileRevision
  | some runId =>
      (store.matchingThreadRun runId draft.workspaceId edge.profileId
        draft.childThreadId draft.sourceTurnId).map (·.profileRevision)

def persistChildReturn (store : ServerStore) (draft : ChildReturnDraft) :
    Except AppError (PersistChildReturnResult × ServerStore) :=
  if draft.messageId = "" then
    .ok (.rejected "invalid_message_id"
      "child return message id must not be empty", store)
  else if !draft.kind.isTerminal &&
      maxChildReturnPayloadBytes < draft.payload.utf8ByteSize then
    .ok (.rejected "payload_too_large"
      s!"child return payload exceeds {maxChildReturnPayloadBytes} bytes",
      store)
  else match store.childEdgeFrom draft.workspaceId draft.childThreadId with
  | .error error => .error error
  | .ok none =>
      .ok (.rejected "source_denied"
        "child return source is not an admitted child thread", store)
  | .ok (some edge) =>
      match store.returnRevision draft edge with
      | none =>
          .ok (.rejected "source_denied"
            "child return source run is not admitted for this child", store)
      | some profileRevision =>
          store.storeChildReturn draft edge profileRevision

/-- The row that `persist_parent_answer` inserts. -/
def answerRow (store : ServerStore) (draft : ParentAnswerDraft)
    (edge : SpawnEdge) (profileRevision : UInt64) : ParentAnswerRecord where
  messageId := draft.messageId
  sequence := store.lastAnswerSequence + 1
  spawnId := edge.spawnId
  profileId := edge.profileId
  parentThreadId := draft.parentThreadId
  childThreadId := draft.childThreadId
  sourceRunId := draft.sourceRunId
  sourceTurnId := draft.sourceTurnId
  kind := draft.kind
  payload := draft.payload
  createdAtMs := draft.createdAtMs
  profileRevision := profileRevision
  delivery := .inserted

def insertParentAnswer (store : ServerStore) (draft : ParentAnswerDraft)
    (edge : SpawnEdge) (profileRevision : UInt64) :
    Except AppError (PersistParentAnswerResult × ServerStore) := do
  let row := store.answerRow draft edge profileRevision
  let _ ← storedU64 draft.createdAtMs "parent answer created_at_ms"
  let _ ← storedU64 profileRevision "parent answer profile_revision"
  constraint (decide (0 < profileRevision) &&
    store.messageReferences edge draft.childThreadId)
  let parentAnswers ← insertRow store.parentAnswers row
  pure (.stored row,
    { store with
      parentAnswers := parentAnswers
      lastAnswerSequence := row.sequence })

/-- A known message must match; a new one needs a child that is neither
stopped nor terminal. -/
def storeParentAnswer (store : ServerStore) (draft : ParentAnswerDraft)
    (edge : SpawnEdge) (profileRevision : UInt64) :
    Except AppError (PersistParentAnswerResult × ServerStore) :=
  match store.parentAnswerById draft.messageId with
  | some existing =>
      if parentAnswerMatches existing draft edge profileRevision then
        .ok (.replayed existing, store)
      else
        .ok (.rejected "idempotency_conflict"
          "parent answer message id was already used for different content",
          store)
  | none =>
      if (store.threadStop draft.childThreadId).isSome then
        .ok (.rejected "child_stopped" "immediate child is stopped", store)
      else if (store.terminalChildReturn edge.spawnId).isSome then
        .ok (.rejected "child_terminal"
          "immediate child already has a terminal return", store)
      else
        store.insertParentAnswer draft edge profileRevision

def persistParentAnswer (store : ServerStore) (draft : ParentAnswerDraft) :
    Except AppError (PersistParentAnswerResult × ServerStore) :=
  if maxChildReturnPayloadBytes < draft.payload.utf8ByteSize then
    .ok (.rejected "payload_too_large"
      s!"parent answer payload exceeds {maxChildReturnPayloadBytes} bytes",
      store)
  else match store.parentAnswerEdgeFrom draft.workspaceId draft.parentThreadId
      draft.childThreadId with
  | .error error => .error error
  | .ok none =>
      .ok (.rejected "target_denied"
        "target is not an immediate same-profile child", store)
  | .ok (some edge) =>
      match store.matchingThreadRun draft.sourceRunId draft.workspaceId
          edge.profileId draft.parentThreadId (some draft.sourceTurnId) with
      | none =>
          .ok (.rejected "source_denied"
            "parent answer source run is not admitted for this parent", store)
      | some admission =>
          store.storeParentAnswer draft edge admission.profileRevision

/-- The admission names a home or child thread of its workspace and profile,
and a revision that the profile has reached. -/
def authorityMatches (store : ServerStore) (admission : ThreadRunAdmission) :
    Bool :=
  (store.threadAuthorities.rows.any fun authority =>
    authority.threadId == admission.threadId &&
      authority.workspaceId == some admission.workspaceId &&
      authority.profileId == some admission.profileId &&
      authority.threadKind != .legacy) &&
  (store.profiles.rows.any fun profile =>
    profile.id == admission.profileId &&
      admission.profileRevision ≤ profile.currentRevision) &&
  store.hasRevision admission.profileId admission.profileRevision

/-- The durable admission is the requested one; their times may differ. -/
def sameAdmission (stored admission : ThreadRunAdmission) : Bool :=
  stored.runId == admission.runId &&
    stored.workspaceId == admission.workspaceId &&
    stored.profileId == admission.profileId &&
    stored.threadId == admission.threadId &&
    stored.threadTurnId == admission.threadTurnId &&
    stored.profileRevision == admission.profileRevision

/-- `INSERT … ON CONFLICT(run_id) DO NOTHING`, and whether it inserted. -/
def insertAdmission (store : ServerStore) (admission : ThreadRunAdmission) :
    Except AppError (Bool × ServerStore) := do
  let _ ← storedU64 admission.profileRevision "thread run profile_revision"
  let _ ← storedU64 admission.createdAtMs "thread run created_at_ms"
  constraint (0 < admission.profileRevision)
  match store.threadRunAdmissions.insert? admission with
  | some admissions =>
      pure (true, { store with threadRunAdmissions := admissions })
  | none => pure (false, store)

/-- The two loops over the named messages. -/
def reserveMessages (store : ServerStore) (admission : ThreadRunAdmission)
    (newAdmission : Bool) (childReturnIds parentAnswerIds : List String) :
    Except AppError ServerStore := do
  let childReturns ← childReturnColumns.reserveAll admission newAdmission
    store.childReturns childReturnIds
  let parentAnswers ← parentAnswerColumns.reserveAll admission newAdmission
    store.parentAnswers parentAnswerIds
  pure { store with
    childReturns := childReturns
    parentAnswers := parentAnswers }

def admitThreadRunAndReserve (store : ServerStore)
    (admission : ThreadRunAdmission)
    (childReturnIds parentAnswerIds : List String) :
    Except AppError (Unit × ServerStore) := do
  let _ ← storedU64 admission.profileRevision "thread run profile_revision"
  requireThat (store.authorityMatches admission)
    (.config "thread run admission does not match durable authority")
  let (inserted, store) ← store.insertAdmission admission
  requireThat ((store.threadRunAdmissionById admission.runId).any
      (sameAdmission · admission)) (.config
    s!"thread run admission conflicts with durable run {admission.runId}")
  let store ← store.reserveMessages admission inserted childReturnIds
    parentAnswerIds
  pure ((), store)

/-- The same statement over both message tables. -/
def settleBoth (store : ServerStore) (runId turnId : String)
    (change : Delivery → Delivery) : ServerStore :=
  { store with
    childReturns := childReturnColumns.settleReserved store.childReturns runId
      turnId change
    parentAnswers := parentAnswerColumns.settleReserved store.parentAnswers
      runId turnId change }

def settleThreadRunDeliveries (store : ServerStore) (runId : String)
    (consumed : Bool) (atMs : UInt64) :
    Except AppError (Unit × ServerStore) :=
  match store.threadRunAdmissionById runId with
  | none => .ok ((), store)
  | some admission =>
      if consumed then do
        let atMs ← storedU64 atMs "delivery consumed_at_ms"
        pure ((), store.settleBoth runId admission.threadTurnId
          (Delivery.consume atMs))
      else
        .ok ((), store.settleBoth runId admission.threadTurnId
          Delivery.release)

def discardThreadRunAdmission (store : ServerStore) (runId : String) :
    Except AppError (Unit × ServerStore) :=
  match store.threadRunAdmissionById runId with
  | none => .ok ((), store)
  | some admission =>
      let released := store.settleBoth runId admission.threadTurnId
        Delivery.release
      .ok ((),
        { released with
          threadRunAdmissions := released.threadRunAdmissions.delete
            (·.runId == runId) })

end ServerStore

end PlatoAgent
