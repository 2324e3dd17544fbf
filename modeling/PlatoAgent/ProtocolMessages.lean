import PlatoAgent.ProtocolMethods
import PlatoAgent.SerdeStructs

/-!
# Protocol messages

The request and response sets, each method with its own payload, and the tables
that choose the method, the decoder and the serializer of a variant.  The types
of the payloads and their derived codecs are parameters; the pages of stream
events are not, since the codec of a stream event is written by hand.
-/

namespace PlatoAgent

namespace Protocol

/-- The payload types whose codecs are derived. -/
inductive PayloadType where
  | helloParams | runStartParams | messageAppendParams | issuePrepStartParams
  | eventsStreamParams | voiceEventsCommitParams | voiceEventsReadParams
  | approvalDecideParams | runCancelParams | transcriptReadParams
  | daemonStatusParams | sessionApprovalProfileSetParams | threadSpawnParams
  | threadStatusParams | threadAuthorityParams | threadSendParams
  | threadEventsParams | threadStopParams | profileOpenParams
  | workspaceCreateParams | workspaceListParams | workspaceStatusParams
  | profileCreateParams | profileListParams | profileStatusParams
  | profileUpdateParams | helloResult | runStartResult | issuePrepStartResult
  | voiceEventsResult | commandAcceptedResult | sessionsListResult
  | transcriptReadResult | daemonStatusResult
  | sessionApprovalProfileSetResult | shutdownIfIdleResult | threadSpawnResult
  | threadListResult | threadStatusResult | threadAuthorityResult
  | threadSendResult | threadStopResult | profileOpenResult
  | workspaceCreateResult | workspaceListResult | workspaceStatusResult
  | profileCreateResult | profileListResult | profileStatusResult
  | profileUpdateResult | recordedEvent | effectClass | completionClaim
  deriving DecidableEq, Repr

variable {Payload : PayloadType → Type}

/-- Event carried by `events.stream`. -/
inductive StreamEvent (Payload : PayloadType → Type) where
  | ledger (record : Payload .recordedEvent)
  | assistantDelta (runId turnId : String) (step : UInt32) (deltaIndex : UInt64)
      (text : String)
  | approvalRequested (runId toolCallId toolName : String)
      (effect : Payload .effectClass) (reason : String)
      (diffPreview approvalPreview : Option String) (yoloEligible : Bool)
  | canceled (runId : String)
  | completionClaimed (runId : String) (claim : Payload .completionClaim)
  | unknown (value : Value)

/-- The events with a derived codec. -/
inductive KnownStreamEvent (Payload : PayloadType → Type) where
  | ledger (record : Payload .recordedEvent)
  | assistantDelta (runId turnId : String) (step : UInt32) (deltaIndex : UInt64)
      (text : String)
  | approvalRequested (runId toolCallId toolName : String)
      (effect : Payload .effectClass) (reason : String)
      (diffPreview approvalPreview : Option String) (yoloEligible : Bool)
  | canceled (runId : String)
  | completionClaimed (runId : String) (claim : Payload .completionClaim)

structure BufferedStreamEvent (Payload : PayloadType → Type) where
  offset : UInt64
  event : StreamEvent Payload

structure EventsStreamResult (Payload : PayloadType → Type) where
  runId : String
  fromOffset : UInt64
  nextOffset : UInt64
  status : RunStateName
  events : List (BufferedStreamEvent Payload)

structure BufferedThreadEvent (Payload : PayloadType → Type) where
  offset : UInt64
  turnId : String
  event : StreamEvent Payload

inductive ThreadEventsResetReason where
  | epochChanged | lagged
  deriving DecidableEq, Repr

structure ThreadEventsResult (Payload : PayloadType → Type) where
  threadId : String
  liveEpochId : String
  reset : Option ThreadEventsResetReason
  fromOffset : UInt64
  nextOffset : UInt64
  currentTurnId : Option String
  events : List (BufferedThreadEvent Payload)

/-- The tag of the derived codec. -/
def KnownStreamEvent.kind : KnownStreamEvent Payload → String
  | .ledger .. => "ledger"
  | .assistantDelta .. => "assistant_delta"
  | .approvalRequested .. => "approval_requested"
  | .canceled .. => "canceled"
  | .completionClaimed .. => "completion_claimed"

/-- `From<KnownStreamEvent>`. -/
def StreamEvent.fromKnown : KnownStreamEvent Payload → StreamEvent Payload
  | .ledger record => .ledger record
  | .assistantDelta runId turnId step deltaIndex text =>
      .assistantDelta runId turnId step deltaIndex text
  | .approvalRequested runId toolCallId toolName effect reason diffPreview
      approvalPreview yoloEligible =>
      .approvalRequested runId toolCallId toolName effect reason diffPreview
        approvalPreview yoloEligible
  | .canceled runId => .canceled runId
  | .completionClaimed runId claim => .completionClaimed runId claim

/-- The derived codecs.  A known stream event is an object with its tag. -/
structure PayloadCodecs (Payload : PayloadType → Type) where
  payload : ∀ type, DerivedCodec (Payload type)
  knownStreamEvent : DerivedCodec (KnownStreamEvent Payload)
  kind_knownStreamEvent : ∀ event, (knownStreamEvent.toValue event).entry
    "kind" = some (.string event.kind)

/-- Closed protocol v2 request set with method-specific parameters. -/
inductive ProtocolRequest (Payload : PayloadType → Type) where
  | hello (params : Payload .helloParams)
  | runStart (params : Payload .runStartParams)
  | messageAppend (params : Payload .messageAppendParams)
  | issuePrepStart (params : Payload .issuePrepStartParams)
  | eventsStream (params : Payload .eventsStreamParams)
  | voiceEventsCommit (params : Payload .voiceEventsCommitParams)
  | voiceEventsRead (params : Payload .voiceEventsReadParams)
  | approvalDecide (params : Payload .approvalDecideParams)
  | runCancel (params : Payload .runCancelParams)
  | sessionsList
  | transcriptRead (params : Payload .transcriptReadParams)
  | daemonStatus (params : Payload .daemonStatusParams)
  | sessionApprovalProfileSet (params : Payload .sessionApprovalProfileSetParams)
  | daemonShutdownIfIdle
  | threadSpawn (params : Payload .threadSpawnParams)
  | threadList
  | threadStatus (params : Payload .threadStatusParams)
  | threadAuthority (params : Payload .threadAuthorityParams)
  | threadSend (params : Payload .threadSendParams)
  | threadEvents (params : Payload .threadEventsParams)
  | threadStop (params : Payload .threadStopParams)
  | profileOpen (params : Payload .profileOpenParams)
  | workspaceCreate (params : Payload .workspaceCreateParams)
  | workspaceList (params : Payload .workspaceListParams)
  | workspaceStatus (params : Payload .workspaceStatusParams)
  | profileCreate (params : Payload .profileCreateParams)
  | profileList (params : Payload .profileListParams)
  | profileStatus (params : Payload .profileStatusParams)
  | profileUpdate (params : Payload .profileUpdateParams)

/-- Closed protocol v2 response set with method-specific results. -/
inductive ProtocolResponse (Payload : PayloadType → Type) where
  | hello (result : Payload .helloResult)
  | runStart (result : Payload .runStartResult)
  | messageAppend (result : Payload .runStartResult)
  | issuePrepStart (result : Payload .issuePrepStartResult)
  | eventsStream (result : EventsStreamResult Payload)
  | voiceEventsCommit (result : Payload .voiceEventsResult)
  | voiceEventsRead (result : Payload .voiceEventsResult)
  | approvalDecide (result : Payload .commandAcceptedResult)
  | runCancel (result : Payload .commandAcceptedResult)
  | sessionsList (result : Payload .sessionsListResult)
  | transcriptRead (result : Payload .transcriptReadResult)
  | daemonStatus (result : Payload .daemonStatusResult)
  | sessionApprovalProfileSet (result : Payload .sessionApprovalProfileSetResult)
  | daemonShutdownIfIdle (result : Payload .shutdownIfIdleResult)
  | threadSpawn (result : Payload .threadSpawnResult)
  | threadList (result : Payload .threadListResult)
  | threadStatus (result : Payload .threadStatusResult)
  | threadAuthority (result : Payload .threadAuthorityResult)
  | threadSend (result : Payload .threadSendResult)
  | threadEvents (result : ThreadEventsResult Payload)
  | threadStop (result : Payload .threadStopResult)
  | profileOpen (result : Payload .profileOpenResult)
  | workspaceCreate (result : Payload .workspaceCreateResult)
  | workspaceList (result : Payload .workspaceListResult)
  | workspaceStatus (result : Payload .workspaceStatusResult)
  | profileCreate (result : Payload .profileCreateResult)
  | profileList (result : Payload .profileListResult)
  | profileStatus (result : Payload .profileStatusResult)
  | profileUpdate (result : Payload .profileUpdateResult)

namespace ProtocolRequest

/-- The tags of the derived codec of requests. -/
def serdeTag : ProtocolRequest Payload → String
  | .hello _ => "hello"
  | .runStart _ => "run.start"
  | .messageAppend _ => "message.append"
  | .issuePrepStart _ => "issue-prep.start"
  | .eventsStream _ => "events.stream"
  | .voiceEventsCommit _ => "voice.events.commit"
  | .voiceEventsRead _ => "voice.events.read"
  | .approvalDecide _ => "approval.decide"
  | .runCancel _ => "run.cancel"
  | .sessionsList => "sessions.list"
  | .transcriptRead _ => "transcript.read"
  | .daemonStatus _ => "daemon.status"
  | .sessionApprovalProfileSet _ => "session.approval_profile.set"
  | .daemonShutdownIfIdle => "daemon.shutdown_if_idle"
  | .threadSpawn _ => "thread.spawn"
  | .threadList => "thread.list"
  | .threadStatus _ => "thread.status"
  | .threadAuthority _ => "thread.authority"
  | .threadSend _ => "thread.send"
  | .threadEvents _ => "thread.events"
  | .threadStop _ => "thread.stop"
  | .profileOpen _ => "profile.open"
  | .workspaceCreate _ => "workspace.create"
  | .workspaceList _ => "workspace.list"
  | .workspaceStatus _ => "workspace.status"
  | .profileCreate _ => "profile.create"
  | .profileList _ => "profile.list"
  | .profileStatus _ => "profile.status"
  | .profileUpdate _ => "profile.update"

def method : ProtocolRequest Payload → ProtocolMethod
  | .hello _ => .hello
  | .runStart _ => .runStart
  | .messageAppend _ => .messageAppend
  | .issuePrepStart _ => .issuePrepStart
  | .eventsStream _ => .eventsStream
  | .voiceEventsCommit _ => .voiceEventsCommit
  | .voiceEventsRead _ => .voiceEventsRead
  | .approvalDecide _ => .approvalDecide
  | .runCancel _ => .runCancel
  | .sessionsList => .sessionsList
  | .transcriptRead _ => .transcriptRead
  | .daemonStatus _ => .daemonStatus
  | .sessionApprovalProfileSet _ => .sessionApprovalProfileSet
  | .daemonShutdownIfIdle => .daemonShutdownIfIdle
  | .threadSpawn _ => .threadSpawn
  | .threadList => .threadList
  | .threadStatus _ => .threadStatus
  | .threadAuthority _ => .threadAuthority
  | .threadSend _ => .threadSend
  | .threadEvents _ => .threadEvents
  | .threadStop _ => .threadStop
  | .profileOpen _ => .profileOpen
  | .workspaceCreate _ => .workspaceCreate
  | .workspaceList _ => .workspaceList
  | .workspaceStatus _ => .workspaceStatus
  | .profileCreate _ => .profileCreate
  | .profileList _ => .profileList
  | .profileStatus _ => .profileStatus
  | .profileUpdate _ => .profileUpdate

end ProtocolRequest

namespace ProtocolResponse

/-- The tags of the derived codec of responses. -/
def serdeTag : ProtocolResponse Payload → String
  | .hello _ => "hello"
  | .runStart _ => "run.start"
  | .messageAppend _ => "message.append"
  | .issuePrepStart _ => "issue-prep.start"
  | .eventsStream _ => "events.stream"
  | .voiceEventsCommit _ => "voice.events.commit"
  | .voiceEventsRead _ => "voice.events.read"
  | .approvalDecide _ => "approval.decide"
  | .runCancel _ => "run.cancel"
  | .sessionsList _ => "sessions.list"
  | .transcriptRead _ => "transcript.read"
  | .daemonStatus _ => "daemon.status"
  | .sessionApprovalProfileSet _ => "session.approval_profile.set"
  | .daemonShutdownIfIdle _ => "daemon.shutdown_if_idle"
  | .threadSpawn _ => "thread.spawn"
  | .threadList _ => "thread.list"
  | .threadStatus _ => "thread.status"
  | .threadAuthority _ => "thread.authority"
  | .threadSend _ => "thread.send"
  | .threadEvents _ => "thread.events"
  | .threadStop _ => "thread.stop"
  | .profileOpen _ => "profile.open"
  | .workspaceCreate _ => "workspace.create"
  | .workspaceList _ => "workspace.list"
  | .workspaceStatus _ => "workspace.status"
  | .profileCreate _ => "profile.create"
  | .profileList _ => "profile.list"
  | .profileStatus _ => "profile.status"
  | .profileUpdate _ => "profile.update"

def method : ProtocolResponse Payload → ProtocolMethod
  | .hello _ => .hello
  | .runStart _ => .runStart
  | .messageAppend _ => .messageAppend
  | .issuePrepStart _ => .issuePrepStart
  | .eventsStream _ => .eventsStream
  | .voiceEventsCommit _ => .voiceEventsCommit
  | .voiceEventsRead _ => .voiceEventsRead
  | .approvalDecide _ => .approvalDecide
  | .runCancel _ => .runCancel
  | .sessionsList _ => .sessionsList
  | .transcriptRead _ => .transcriptRead
  | .daemonStatus _ => .daemonStatus
  | .sessionApprovalProfileSet _ => .sessionApprovalProfileSet
  | .daemonShutdownIfIdle _ => .daemonShutdownIfIdle
  | .threadSpawn _ => .threadSpawn
  | .threadList _ => .threadList
  | .threadStatus _ => .threadStatus
  | .threadAuthority _ => .threadAuthority
  | .threadSend _ => .threadSend
  | .threadEvents _ => .threadEvents
  | .threadStop _ => .threadStop
  | .profileOpen _ => .profileOpen
  | .workspaceCreate _ => .workspaceCreate
  | .workspaceList _ => .workspaceList
  | .workspaceStatus _ => .workspaceStatus
  | .profileCreate _ => .profileCreate
  | .profileList _ => .profileList
  | .profileStatus _ => .profileStatus
  | .profileUpdate _ => .profileUpdate

end ProtocolResponse

variable (codecs : PayloadCodecs Payload)

section Payloads

variable {codecs}

def decodeParams (type : PayloadType) (codecs : PayloadCodecs Payload)
    (params : Option Value) (method : ProtocolMethod) :
    Except String (Payload type) :=
  match params with
  | none => .error s!"{method.asStr} params are required"
  | some params => (codecs.payload type).fromValue params

def decodeEmptyParams (params : Option Value) (method : ProtocolMethod) :
    Except String Unit :=
  match params with
  | none | some .null | some (.object []) => .ok ()
  | some _ => .error s!"{method.asStr} params must be empty"

def decodeResult {Result : Type} (fromValue : Value → Except String Result)
    (result : Option Value) (method : ProtocolMethod) : Except String Result :=
  match result with
  | none => .error s!"{method.asStr} result is required"
  | some result => fromValue result

/-- The value of a field goes through `to_value`, which sorts its objects. -/
def serializeSortedField (name : String) (value : Value) :
    List (String × Value) :=
  [(name, value)]

end Payloads

namespace StreamEvent

def toValue : StreamEvent Payload → Value
  | .ledger record => codecs.knownStreamEvent.toValue (.ledger record)
  | .assistantDelta runId turnId step deltaIndex text =>
      codecs.knownStreamEvent.toValue
        (.assistantDelta runId turnId step deltaIndex text)
  | .approvalRequested runId toolCallId toolName effect reason diffPreview
      approvalPreview yoloEligible =>
      codecs.knownStreamEvent.toValue
        (.approvalRequested runId toolCallId toolName effect reason diffPreview
          approvalPreview yoloEligible)
  | .canceled runId => codecs.knownStreamEvent.toValue (.canceled runId)
  | .completionClaimed runId claim =>
      codecs.knownStreamEvent.toValue (.completionClaimed runId claim)
  | .unknown value => value

def knownKinds : List String :=
  ["ledger", "assistant_delta", "approval_requested", "canceled",
    "completion_claimed"]

def fromValue (value : Value) : Except String (StreamEvent Payload) :=
  match value.entry "kind" with
  | some (.string kind) =>
      if kind ∈ knownKinds then
        (codecs.knownStreamEvent.fromValue value).map fromKnown
      else .ok (.unknown value)
  | _ => .error "stream event kind must be a string"

/-- An unknown event holds a value with a kind that is not known. -/
def Faithful : StreamEvent Payload → Prop
  | .unknown value => ∃ kind, value.entry "kind" = some (.string kind) ∧
      kind ∉ knownKinds
  | _ => True

theorem fromValue_known (event : KnownStreamEvent Payload) :
    fromValue codecs (codecs.knownStreamEvent.toValue event) =
      .ok (fromKnown event) := by
  have known : event.kind ∈ knownKinds := by
    cases event <;> simp [KnownStreamEvent.kind, knownKinds]
  unfold fromValue
  rw [codecs.kind_knownStreamEvent]
  dsimp only
  rw [if_pos known, codecs.knownStreamEvent.fromValue_toValue]
  rfl

theorem fromValue_toValue {event : StreamEvent Payload}
    (faithful : event.Faithful) :
    fromValue codecs (event.toValue codecs) = .ok event := by
  cases event with
  | unknown value =>
      obtain ⟨kind, isKind, notKnown⟩ := faithful
      unfold fromValue toValue
      rw [isKind]
      exact if_neg notKnown
  | ledger record => exact fromValue_known codecs (.ledger record)
  | assistantDelta runId turnId step deltaIndex text =>
      exact fromValue_known codecs
        (.assistantDelta runId turnId step deltaIndex text)
  | approvalRequested runId toolCallId toolName effect reason diffPreview
      approvalPreview yoloEligible =>
      exact fromValue_known codecs
        (.approvalRequested runId toolCallId toolName effect reason diffPreview
          approvalPreview yoloEligible)
  | canceled runId => exact fromValue_known codecs (.canceled runId)
  | completionClaimed runId claim =>
      exact fromValue_known codecs (.completionClaimed runId claim)

theorem faithful_of_fromValue {value : Value} {event : StreamEvent Payload}
    (isEvent : fromValue codecs value = .ok event) : event.Faithful := by
  unfold fromValue at isEvent
  split at isEvent
  next kind isKind =>
    split at isEvent
    · cases known : codecs.knownStreamEvent.fromValue value with
      | error text =>
          rw [known] at isEvent
          cases isEvent
      | ok knownEvent =>
          rw [known] at isEvent
          cases isEvent
          cases knownEvent <;> exact True.intro
    next notKnown =>
      cases isEvent
      exact ⟨kind, isKind, notKnown⟩
  next => cases isEvent

end StreamEvent

def readString : Value → Except String String :=
  expecting "a string" LedgerText.readText

def readU32 : Value → Except String UInt32 :=
  expecting "a 32-bit unsigned integer" LedgerText.readU32

def readU64 : Value → Except String UInt64 :=
  expecting "a 64-bit unsigned integer" LedgerText.readU64

theorem readU32_u32 (value : UInt32) :
    readU32 (LedgerText.u32 value) = .ok value := by
  unfold readU32 expecting
  rw [LedgerText.restores_u32]

theorem readU64_u64 (value : UInt64) :
    readU64 (LedgerText.u64 value) = .ok value :=
  rfl

namespace BufferedStreamEvent

def toValue (buffered : BufferedStreamEvent Payload) : Value :=
  .object [("offset", LedgerText.u64 buffered.offset),
    ("event", buffered.event.toValue codecs)]

def fromValue (value : Value) :
    Except String (BufferedStreamEvent Payload) := do
  let input ← readStruct ["offset", "event"] false false value
  let offset ← input.required "offset" readU64
  let event ← input.required "event" (StreamEvent.fromValue codecs)
  return ⟨offset, event⟩

theorem fromValue_toValue {buffered : BufferedStreamEvent Payload}
    (faithful : buffered.event.Faithful) :
    fromValue codecs (buffered.toValue codecs) = .ok buffered := by
  unfold fromValue toValue
  rw [readStruct_object (by simp) (by simp)]
  have event := StreamEvent.fromValue_toValue codecs faithful
  show (StreamEvent.fromValue codecs (buffered.event.toValue codecs) >>=
    fun event => .ok ⟨buffered.offset, event⟩) = .ok buffered
  rw [event]
  rfl

theorem faithful_of_fromValue {value : Value}
    {buffered : BufferedStreamEvent Payload}
    (isBuffered : fromValue codecs value = .ok buffered) :
    buffered.event.Faithful := by
  unfold fromValue at isBuffered
  obtain ⟨input, _, isBuffered⟩ := except_bind_ok_iff.mp isBuffered
  obtain ⟨offset, _, isBuffered⟩ := except_bind_ok_iff.mp isBuffered
  obtain ⟨event, isEvent, isBuffered⟩ := except_bind_ok_iff.mp isBuffered
  cases isBuffered
  obtain ⟨_, isRead⟩ := StructInput.required_eq_ok isEvent
  exact StreamEvent.faithful_of_fromValue codecs isRead

end BufferedStreamEvent

/-- The names of `RunStateName`. -/
def runStateVariants : List RunStateName :=
  [.running, .finished, .failed, .canceled, .cancelRequested, .interrupted]

def runStateName : RunStateName → String
  | .running => "running"
  | .finished => "finished"
  | .failed => "failed"
  | .canceled => "canceled"
  | .cancelRequested => "cancel_requested"
  | .interrupted => "interrupted"

def readRunState : Value → Except String RunStateName :=
  expecting "a run state" (readUnitEnum runStateVariants runStateName)

namespace EventsStreamResult

def toValue (result : EventsStreamResult Payload) : Value :=
  .object [("run_id", .string result.runId),
    ("from_offset", LedgerText.u64 result.fromOffset),
    ("next_offset", LedgerText.u64 result.nextOffset),
    ("status", .string (runStateName result.status)),
    ("events", .array (result.events.map (·.toValue codecs)))]

def fromValue (value : Value) : Except String (EventsStreamResult Payload) := do
  let input ← readStruct
    ["run_id", "from_offset", "next_offset", "status", "events"] false false
    value
  let runId ← input.required "run_id" readString
  let fromOffset ← input.required "from_offset" readU64
  let nextOffset ← input.required "next_offset" readU64
  let status ← input.required "status" readRunState
  let events ← input.required "events"
    (readSequenceOf (BufferedStreamEvent.fromValue codecs))
  return ⟨runId, fromOffset, nextOffset, status, events⟩

def Faithful (result : EventsStreamResult Payload) : Prop :=
  ∀ buffered ∈ result.events, buffered.event.Faithful

theorem fromValue_toValue {result : EventsStreamResult Payload}
    (faithful : result.Faithful) :
    fromValue codecs (result.toValue codecs) = .ok result := by
  have status : readRunState (.string (runStateName result.status)) =
      .ok result.status := by
    cases result.status <;> rfl
  have events := @readSequenceOf_map _ (BufferedStreamEvent.fromValue codecs)
    (·.toValue codecs) result.events fun buffered member =>
      BufferedStreamEvent.fromValue_toValue codecs (faithful buffered member)
  unfold fromValue toValue
  rw [readStruct_object (by simp) (by simp)]
  show (readRunState (.string (runStateName result.status)) >>= fun status =>
    readSequenceOf (BufferedStreamEvent.fromValue codecs)
      (.array (result.events.map (·.toValue codecs))) >>= fun events =>
    .ok ⟨result.runId, result.fromOffset, result.nextOffset, status, events⟩) =
      .ok result
  rw [status, events]
  rfl

theorem faithful_of_fromValue {value : Value}
    {result : EventsStreamResult Payload}
    (isResult : fromValue codecs value = .ok result) : result.Faithful := by
  unfold fromValue at isResult
  obtain ⟨input, _, isResult⟩ := except_bind_ok_iff.mp isResult
  obtain ⟨runId, _, isResult⟩ := except_bind_ok_iff.mp isResult
  obtain ⟨fromOffset, _, isResult⟩ := except_bind_ok_iff.mp isResult
  obtain ⟨nextOffset, _, isResult⟩ := except_bind_ok_iff.mp isResult
  obtain ⟨status, _, isResult⟩ := except_bind_ok_iff.mp isResult
  obtain ⟨events, isEvents, isResult⟩ := except_bind_ok_iff.mp isResult
  cases isResult
  obtain ⟨items, isItems⟩ := StructInput.required_eq_ok isEvents
  exact forall_of_readSequenceOf
    (fun _ _ => BufferedStreamEvent.faithful_of_fromValue codecs) isItems

end EventsStreamResult

namespace BufferedThreadEvent

def toValue (buffered : BufferedThreadEvent Payload) : Value :=
  .object [("offset", LedgerText.u64 buffered.offset),
    ("turn_id", .string buffered.turnId),
    ("event", buffered.event.toValue codecs)]

def fromValue (value : Value) :
    Except String (BufferedThreadEvent Payload) := do
  let input ← readStruct ["offset", "turn_id", "event"] true false value
  let offset ← input.required "offset" readU64
  let turnId ← input.required "turn_id" readString
  let event ← input.required "event" (StreamEvent.fromValue codecs)
  return ⟨offset, turnId, event⟩

theorem fromValue_toValue {buffered : BufferedThreadEvent Payload}
    (faithful : buffered.event.Faithful) :
    fromValue codecs (buffered.toValue codecs) = .ok buffered := by
  unfold fromValue toValue
  rw [readStruct_object (by simp) (by simp)]
  have event := StreamEvent.fromValue_toValue codecs faithful
  show (StreamEvent.fromValue codecs (buffered.event.toValue codecs) >>=
    fun event => .ok ⟨buffered.offset, buffered.turnId, event⟩) = .ok buffered
  rw [event]
  rfl

theorem faithful_of_fromValue {value : Value}
    {buffered : BufferedThreadEvent Payload}
    (isBuffered : fromValue codecs value = .ok buffered) :
    buffered.event.Faithful := by
  unfold fromValue at isBuffered
  obtain ⟨input, _, isBuffered⟩ := except_bind_ok_iff.mp isBuffered
  obtain ⟨offset, _, isBuffered⟩ := except_bind_ok_iff.mp isBuffered
  obtain ⟨turnId, _, isBuffered⟩ := except_bind_ok_iff.mp isBuffered
  obtain ⟨event, isEvent, isBuffered⟩ := except_bind_ok_iff.mp isBuffered
  cases isBuffered
  obtain ⟨_, isRead⟩ := StructInput.required_eq_ok isEvent
  exact StreamEvent.faithful_of_fromValue codecs isRead

end BufferedThreadEvent

namespace ThreadEventsResetReason

def serdeName : ThreadEventsResetReason → String
  | .epochChanged => "epoch_changed"
  | .lagged => "lagged"

def deserialize : Value → Except String ThreadEventsResetReason :=
  expecting "a reset reason"
    (readUnitEnum [.epochChanged, .lagged] serdeName)

end ThreadEventsResetReason

namespace ThreadEventsResult

def toValue (result : ThreadEventsResult Payload) : Value :=
  .object (("thread_id", .string result.threadId) ::
    ((if result.liveEpochId = "" then []
      else [("live_epoch_id", .string result.liveEpochId)]) ++
    (result.reset.elim [] fun reset => [("reset", .string reset.serdeName)]) ++
    [("from_offset", LedgerText.u64 result.fromOffset),
      ("next_offset", LedgerText.u64 result.nextOffset),
      ("current_turn_id", LedgerText.nullable .string result.currentTurnId),
      ("events", .array (result.events.map (·.toValue codecs)))]))

def fromValue (value : Value) : Except String (ThreadEventsResult Payload) := do
  let input ← readStruct
    ["thread_id", "live_epoch_id", "reset", "from_offset", "next_offset",
      "current_turn_id", "events"] true false value
  let threadId ← input.required "thread_id" readString
  let liveEpochId ← input.defaulted "live_epoch_id" "" readString
  let reset ← input.defaulted "reset" none
    (StructInput.readOption ThreadEventsResetReason.deserialize)
  let fromOffset ← input.required "from_offset" readU64
  let nextOffset ← input.required "next_offset" readU64
  let currentTurnId ← input.optional "current_turn_id" readString
  let events ← input.required "events"
    (readSequenceOf (BufferedThreadEvent.fromValue codecs))
  return ⟨threadId, liveEpochId, reset, fromOffset, nextOffset, currentTurnId,
    events⟩

def Faithful (result : ThreadEventsResult Payload) : Prop :=
  ∀ buffered ∈ result.events, buffered.event.Faithful

theorem fromValue_toValue {result : ThreadEventsResult Payload}
    (faithful : result.Faithful) :
    fromValue codecs (result.toValue codecs) = .ok result := by
  obtain ⟨threadId, liveEpochId, reset, fromOffset, nextOffset, currentTurnId,
    events⟩ := result
  have isEvents := @readSequenceOf_map _ (BufferedThreadEvent.fromValue codecs)
    (·.toValue codecs) events fun buffered member =>
      BufferedThreadEvent.fromValue_toValue codecs (faithful buffered member)
  have turn : StructInput.readOption readString
      (LedgerText.nullable .string currentTurnId) = .ok currentTurnId := by
    cases currentTurnId <;> rfl
  -- An empty epoch and an absent reset are not written.
  have read : fromValue codecs (toValue codecs ⟨threadId, liveEpochId, reset,
      fromOffset, nextOffset, currentTurnId, events⟩) =
      (StructInput.readOption readString
        (LedgerText.nullable .string currentTurnId) >>= fun currentTurnId =>
      readSequenceOf (BufferedThreadEvent.fromValue codecs)
        (.array (events.map (·.toValue codecs))) >>= fun events =>
      .ok ⟨threadId, liveEpochId, reset, fromOffset, nextOffset, currentTurnId,
        events⟩) := by
    unfold fromValue toValue
    by_cases noEpoch : liveEpochId = ""
    · subst noEpoch
      cases reset with
      | none =>
          rw [readStruct_object (by simp) (by simp)]
          rfl
      | some reset =>
          rw [readStruct_object (by simp) (by simp)]
          cases reset <;> rfl
    · simp only [if_neg noEpoch]
      cases reset with
      | none =>
          rw [readStruct_object (by simp) (by simp)]
          rfl
      | some reset =>
          rw [readStruct_object (by simp) (by simp)]
          cases reset <;> rfl
  rw [read, turn, isEvents]
  rfl

theorem faithful_of_fromValue {value : Value}
    {result : ThreadEventsResult Payload}
    (isResult : fromValue codecs value = .ok result) : result.Faithful := by
  unfold fromValue at isResult
  obtain ⟨input, _, isResult⟩ := except_bind_ok_iff.mp isResult
  obtain ⟨threadId, _, isResult⟩ := except_bind_ok_iff.mp isResult
  obtain ⟨liveEpochId, _, isResult⟩ := except_bind_ok_iff.mp isResult
  obtain ⟨reset, _, isResult⟩ := except_bind_ok_iff.mp isResult
  obtain ⟨fromOffset, _, isResult⟩ := except_bind_ok_iff.mp isResult
  obtain ⟨nextOffset, _, isResult⟩ := except_bind_ok_iff.mp isResult
  obtain ⟨turnId, _, isResult⟩ := except_bind_ok_iff.mp isResult
  obtain ⟨events, isEvents, isResult⟩ := except_bind_ok_iff.mp isResult
  cases isResult
  obtain ⟨items, isItems⟩ := StructInput.required_eq_ok isEvents
  exact forall_of_readSequenceOf
    (fun _ _ => BufferedThreadEvent.faithful_of_fromValue codecs) isItems

end ThreadEventsResult

namespace ProtocolRequest

def decode (method : ProtocolMethod) (params : Option Value) :
    Except String (ProtocolRequest Payload) :=
  match method with
  | .hello => (decodeParams .helloParams codecs params method).map .hello
  | .runStart =>
      (decodeParams .runStartParams codecs params method).map .runStart
  | .messageAppend =>
      (decodeParams .messageAppendParams codecs params method).map
        .messageAppend
  | .issuePrepStart =>
      (decodeParams .issuePrepStartParams codecs params method).map
        .issuePrepStart
  | .eventsStream =>
      (decodeParams .eventsStreamParams codecs params method).map .eventsStream
  | .voiceEventsCommit =>
      (decodeParams .voiceEventsCommitParams codecs params method).map
        .voiceEventsCommit
  | .voiceEventsRead =>
      (decodeParams .voiceEventsReadParams codecs params method).map
        .voiceEventsRead
  | .approvalDecide =>
      (decodeParams .approvalDecideParams codecs params method).map
        .approvalDecide
  | .runCancel =>
      (decodeParams .runCancelParams codecs params method).map .runCancel
  | .sessionsList =>
      (decodeEmptyParams params method).map fun _ => .sessionsList
  | .transcriptRead =>
      (decodeParams .transcriptReadParams codecs params method).map
        .transcriptRead
  | .daemonStatus =>
      (decodeParams .daemonStatusParams codecs params method).map .daemonStatus
  | .sessionApprovalProfileSet =>
      (decodeParams .sessionApprovalProfileSetParams codecs params method).map
        .sessionApprovalProfileSet
  | .daemonShutdownIfIdle =>
      (decodeEmptyParams params method).map fun _ => .daemonShutdownIfIdle
  | .threadSpawn =>
      (decodeParams .threadSpawnParams codecs params method).map .threadSpawn
  | .threadList =>
      (decodeEmptyParams params method).map fun _ => .threadList
  | .threadStatus =>
      (decodeParams .threadStatusParams codecs params method).map .threadStatus
  | .threadAuthority =>
      (decodeParams .threadAuthorityParams codecs params method).map
        .threadAuthority
  | .threadSend =>
      (decodeParams .threadSendParams codecs params method).map .threadSend
  | .threadEvents =>
      (decodeParams .threadEventsParams codecs params method).map .threadEvents
  | .threadStop =>
      (decodeParams .threadStopParams codecs params method).map .threadStop
  | .profileOpen =>
      (decodeParams .profileOpenParams codecs params method).map .profileOpen
  | .workspaceCreate =>
      (decodeParams .workspaceCreateParams codecs params method).map
        .workspaceCreate
  | .workspaceList =>
      (decodeParams .workspaceListParams codecs params method).map
        .workspaceList
  | .workspaceStatus =>
      (decodeParams .workspaceStatusParams codecs params method).map
        .workspaceStatus
  | .profileCreate =>
      (decodeParams .profileCreateParams codecs params method).map
        .profileCreate
  | .profileList =>
      (decodeParams .profileListParams codecs params method).map .profileList
  | .profileStatus =>
      (decodeParams .profileStatusParams codecs params method).map
        .profileStatus
  | .profileUpdate =>
      (decodeParams .profileUpdateParams codecs params method).map
        .profileUpdate

def serializeParams : ProtocolRequest Payload → List (String × Value)
  | .hello params =>
      serializeSortedField "params" ((codecs.payload _).toValue params)
  | .runStart params =>
      serializeSortedField "params" ((codecs.payload _).toValue params)
  | .messageAppend params =>
      serializeSortedField "params" ((codecs.payload _).toValue params)
  | .issuePrepStart params =>
      serializeSortedField "params" ((codecs.payload _).toValue params)
  | .eventsStream params =>
      serializeSortedField "params" ((codecs.payload _).toValue params)
  | .voiceEventsCommit params =>
      serializeSortedField "params" ((codecs.payload _).toValue params)
  | .voiceEventsRead params =>
      serializeSortedField "params" ((codecs.payload _).toValue params)
  | .approvalDecide params =>
      serializeSortedField "params" ((codecs.payload _).toValue params)
  | .runCancel params =>
      serializeSortedField "params" ((codecs.payload _).toValue params)
  | .sessionsList => []
  | .transcriptRead params =>
      serializeSortedField "params" ((codecs.payload _).toValue params)
  | .daemonStatus params =>
      serializeSortedField "params" ((codecs.payload _).toValue params)
  | .sessionApprovalProfileSet params =>
      serializeSortedField "params" ((codecs.payload _).toValue params)
  | .daemonShutdownIfIdle => []
  | .threadSpawn params =>
      serializeSortedField "params" ((codecs.payload _).toValue params)
  | .threadList => []
  | .threadStatus params =>
      serializeSortedField "params" ((codecs.payload _).toValue params)
  | .threadAuthority params =>
      serializeSortedField "params" ((codecs.payload _).toValue params)
  | .threadSend params =>
      serializeSortedField "params" ((codecs.payload _).toValue params)
  | .threadEvents params =>
      serializeSortedField "params" ((codecs.payload _).toValue params)
  | .threadStop params =>
      serializeSortedField "params" ((codecs.payload _).toValue params)
  | .profileOpen params =>
      serializeSortedField "params" ((codecs.payload _).toValue params)
  | .workspaceCreate params =>
      serializeSortedField "params" ((codecs.payload _).toValue params)
  | .workspaceList params =>
      serializeSortedField "params" ((codecs.payload _).toValue params)
  | .workspaceStatus params =>
      serializeSortedField "params" ((codecs.payload _).toValue params)
  | .profileCreate params =>
      serializeSortedField "params" ((codecs.payload _).toValue params)
  | .profileList params =>
      serializeSortedField "params" ((codecs.payload _).toValue params)
  | .profileStatus params =>
      serializeSortedField "params" ((codecs.payload _).toValue params)
  | .profileUpdate params =>
      serializeSortedField "params" ((codecs.payload _).toValue params)

end ProtocolRequest

namespace ProtocolResponse

def decode (method : ProtocolMethod) (result : Option Value) :
    Except String (ProtocolResponse Payload) :=
  match method with
  | .hello =>
      (decodeResult (codecs.payload .helloResult).fromValue result method).map
        .hello
  | .runStart =>
      (decodeResult (codecs.payload .runStartResult).fromValue result method).map
        .runStart
  | .messageAppend =>
      (decodeResult (codecs.payload .runStartResult).fromValue result method).map
        .messageAppend
  | .issuePrepStart =>
      (decodeResult (codecs.payload .issuePrepStartResult).fromValue result method).map
        .issuePrepStart
  | .eventsStream =>
      (decodeResult (EventsStreamResult.fromValue codecs) result method).map
        .eventsStream
  | .voiceEventsCommit =>
      (decodeResult (codecs.payload .voiceEventsResult).fromValue result method).map
        .voiceEventsCommit
  | .voiceEventsRead =>
      (decodeResult (codecs.payload .voiceEventsResult).fromValue result method).map
        .voiceEventsRead
  | .approvalDecide =>
      (decodeResult (codecs.payload .commandAcceptedResult).fromValue result method).map
        .approvalDecide
  | .runCancel =>
      (decodeResult (codecs.payload .commandAcceptedResult).fromValue result method).map
        .runCancel
  | .sessionsList =>
      (decodeResult (codecs.payload .sessionsListResult).fromValue result method).map
        .sessionsList
  | .transcriptRead =>
      (decodeResult (codecs.payload .transcriptReadResult).fromValue result method).map
        .transcriptRead
  | .daemonStatus =>
      (decodeResult (codecs.payload .daemonStatusResult).fromValue result method).map
        .daemonStatus
  | .sessionApprovalProfileSet =>
      (decodeResult (codecs.payload .sessionApprovalProfileSetResult).fromValue result method).map
        .sessionApprovalProfileSet
  | .daemonShutdownIfIdle =>
      (decodeResult (codecs.payload .shutdownIfIdleResult).fromValue result method).map
        .daemonShutdownIfIdle
  | .threadSpawn =>
      (decodeResult (codecs.payload .threadSpawnResult).fromValue result method).map
        .threadSpawn
  | .threadList =>
      (decodeResult (codecs.payload .threadListResult).fromValue result method).map
        .threadList
  | .threadStatus =>
      (decodeResult (codecs.payload .threadStatusResult).fromValue result method).map
        .threadStatus
  | .threadAuthority =>
      (decodeResult (codecs.payload .threadAuthorityResult).fromValue result method).map
        .threadAuthority
  | .threadSend =>
      (decodeResult (codecs.payload .threadSendResult).fromValue result method).map
        .threadSend
  | .threadEvents =>
      (decodeResult (ThreadEventsResult.fromValue codecs) result method).map
        .threadEvents
  | .threadStop =>
      (decodeResult (codecs.payload .threadStopResult).fromValue result method).map
        .threadStop
  | .profileOpen =>
      (decodeResult (codecs.payload .profileOpenResult).fromValue result method).map
        .profileOpen
  | .workspaceCreate =>
      (decodeResult (codecs.payload .workspaceCreateResult).fromValue result method).map
        .workspaceCreate
  | .workspaceList =>
      (decodeResult (codecs.payload .workspaceListResult).fromValue result method).map
        .workspaceList
  | .workspaceStatus =>
      (decodeResult (codecs.payload .workspaceStatusResult).fromValue result method).map
        .workspaceStatus
  | .profileCreate =>
      (decodeResult (codecs.payload .profileCreateResult).fromValue result method).map
        .profileCreate
  | .profileList =>
      (decodeResult (codecs.payload .profileListResult).fromValue result method).map
        .profileList
  | .profileStatus =>
      (decodeResult (codecs.payload .profileStatusResult).fromValue result method).map
        .profileStatus
  | .profileUpdate =>
      (decodeResult (codecs.payload .profileUpdateResult).fromValue result method).map
        .profileUpdate

def serializeResult : ProtocolResponse Payload → List (String × Value)
  | .hello result =>
      serializeSortedField "result" ((codecs.payload _).toValue result)
  | .runStart result =>
      serializeSortedField "result" ((codecs.payload _).toValue result)
  | .messageAppend result =>
      serializeSortedField "result" ((codecs.payload _).toValue result)
  | .issuePrepStart result =>
      serializeSortedField "result" ((codecs.payload _).toValue result)
  | .eventsStream result =>
      serializeSortedField "result" (result.toValue codecs)
  | .voiceEventsCommit result =>
      serializeSortedField "result" ((codecs.payload _).toValue result)
  | .voiceEventsRead result =>
      serializeSortedField "result" ((codecs.payload _).toValue result)
  | .approvalDecide result =>
      serializeSortedField "result" ((codecs.payload _).toValue result)
  | .runCancel result =>
      serializeSortedField "result" ((codecs.payload _).toValue result)
  | .sessionsList result =>
      serializeSortedField "result" ((codecs.payload _).toValue result)
  | .transcriptRead result =>
      serializeSortedField "result" ((codecs.payload _).toValue result)
  | .daemonStatus result =>
      serializeSortedField "result" ((codecs.payload _).toValue result)
  | .sessionApprovalProfileSet result =>
      serializeSortedField "result" ((codecs.payload _).toValue result)
  | .daemonShutdownIfIdle result =>
      serializeSortedField "result" ((codecs.payload _).toValue result)
  | .threadSpawn result =>
      serializeSortedField "result" ((codecs.payload _).toValue result)
  | .threadList result =>
      serializeSortedField "result" ((codecs.payload _).toValue result)
  | .threadStatus result =>
      serializeSortedField "result" ((codecs.payload _).toValue result)
  | .threadAuthority result =>
      serializeSortedField "result" ((codecs.payload _).toValue result)
  | .threadSend result =>
      serializeSortedField "result" ((codecs.payload _).toValue result)
  | .threadEvents result =>
      serializeSortedField "result" (result.toValue codecs)
  | .threadStop result =>
      serializeSortedField "result" ((codecs.payload _).toValue result)
  | .profileOpen result =>
      serializeSortedField "result" ((codecs.payload _).toValue result)
  | .workspaceCreate result =>
      serializeSortedField "result" ((codecs.payload _).toValue result)
  | .workspaceList result =>
      serializeSortedField "result" ((codecs.payload _).toValue result)
  | .workspaceStatus result =>
      serializeSortedField "result" ((codecs.payload _).toValue result)
  | .profileCreate result =>
      serializeSortedField "result" ((codecs.payload _).toValue result)
  | .profileList result =>
      serializeSortedField "result" ((codecs.payload _).toValue result)
  | .profileStatus result =>
      serializeSortedField "result" ((codecs.payload _).toValue result)
  | .profileUpdate result =>
      serializeSortedField "result" ((codecs.payload _).toValue result)

end ProtocolResponse

theorem decodeParams_toValue {Request : Type} {type : PayloadType}
    (params : Payload type) (method : ProtocolMethod)
    (variant : Payload type → Request) :
    (decodeParams type codecs (some ((codecs.payload type).toValue params))
      method).map variant = .ok (variant params) := by
  unfold decodeParams
  dsimp only
  rw [(codecs.payload type).fromValue_toValue]
  rfl

theorem decodeResult_toValue {Result Response : Type}
    {fromValue : Value → Except String Result} {value : Value}
    {result : Result} (restores : fromValue value = .ok result)
    (method : ProtocolMethod) (variant : Result → Response) :
    (decodeResult fromValue (some value) method).map variant =
      .ok (variant result) := by
  unfold decodeResult
  dsimp only
  rw [restores]
  rfl

namespace ProtocolRequest

theorem serdeTag_eq (request : ProtocolRequest Payload) :
    request.serdeTag = request.method.asStr := by
  cases request <;> rfl

/-- The serializer of a request writes what the decoder of its method reads. -/
theorem decode_serializeParams (request : ProtocolRequest Payload) :
    ∃ params : Option Value, (∀ value ∈ params, value ≠ .null) ∧
      request.serializeParams codecs =
        params.elim [] (fun value => [("params", value)]) ∧
      decode codecs request.method params = .ok request := by
  have payload : ∀ (type : PayloadType) (params : Payload type),
      ∀ value ∈ some ((codecs.payload type).toValue params), value ≠ .null := by
    intro type params value isValue
    cases isValue
    exact (codecs.payload type).toValue_ne_null params
  have empty : ∀ value ∈ (none : Option Value), value ≠ .null := by
    intro value isValue
    cases isValue
  cases request with
  | sessionsList => exact ⟨none, empty, rfl, rfl⟩
  | daemonShutdownIfIdle => exact ⟨none, empty, rfl, rfl⟩
  | threadList => exact ⟨none, empty, rfl, rfl⟩
  | _ params =>
      exact ⟨some _, payload _ params, rfl,
        decodeParams_toValue codecs params _ _⟩

/-- The decoder of a method gives a request of that method. -/
theorem method_of_decode {method : ProtocolMethod} {params : Option Value}
    {request : ProtocolRequest Payload}
    (decoded : decode codecs method params = .ok request) :
    request.method = method := by
  have mapped : ∀ {First : Type} {first : Except String First}
      {variant : First → ProtocolRequest Payload},
      first.map variant = .ok request → ∃ value, request = variant value := by
    intro First first variant isMapped
    cases first with
    | error text => cases isMapped
    | ok value =>
        cases isMapped
        exact ⟨value, rfl⟩
  unfold decode at decoded
  cases method <;>
    · obtain ⟨value, rfl⟩ := mapped decoded
      rfl

end ProtocolRequest

namespace ProtocolResponse

theorem serdeTag_eq (response : ProtocolResponse Payload) :
    response.serdeTag = response.method.asStr := by
  cases response <;> rfl

/-- The stream events of a page are faithful. -/
def Faithful : ProtocolResponse Payload → Prop
  | .eventsStream result => result.Faithful
  | .threadEvents result => result.Faithful
  | _ => True

/-- The serializer of a response writes what the decoder of its method reads. -/
theorem decode_serializeResult {response : ProtocolResponse Payload}
    (faithful : response.Faithful) :
    ∃ value : Value, value ≠ .null ∧
      response.serializeResult codecs = [("result", value)] ∧
      decode codecs response.method (some value) = .ok response := by
  cases response with
  | eventsStream result =>
      exact ⟨_, Value.noConfusion, rfl, decodeResult_toValue
        (EventsStreamResult.fromValue_toValue codecs faithful) _ _⟩
  | threadEvents result =>
      exact ⟨_, Value.noConfusion, rfl, decodeResult_toValue
        (ThreadEventsResult.fromValue_toValue codecs faithful) _ _⟩
  | _ result =>
      exact ⟨_, (codecs.payload _).toValue_ne_null result, rfl,
        decodeResult_toValue ((codecs.payload _).fromValue_toValue result) _ _⟩

/-- The decoder of a method gives a faithful response of that method. -/
theorem of_decode {method : ProtocolMethod} {result : Option Value}
    {response : ProtocolResponse Payload}
    (decoded : decode codecs method result = .ok response) :
    response.method = method ∧ response.Faithful := by
  have mapped : ∀ {Result : Type} {fromValue : Value → Except String Result}
      {variant : Result → ProtocolResponse Payload},
      (decodeResult fromValue result method).map variant = .ok response →
      ∃ value payload, response = variant payload ∧
        fromValue value = .ok payload := by
    intro Result fromValue variant isMapped
    unfold decodeResult at isMapped
    cases result with
    | none => cases isMapped
    | some value =>
        dsimp only at isMapped
        cases read : fromValue value with
        | error text =>
            rw [read] at isMapped
            cases isMapped
        | ok payload =>
            rw [read] at isMapped
            cases isMapped
            exact ⟨value, payload, rfl, read⟩
  unfold decode at decoded
  cases method with
  | eventsStream =>
      obtain ⟨value, payload, rfl, read⟩ := mapped decoded
      exact ⟨rfl, EventsStreamResult.faithful_of_fromValue codecs read⟩
  | threadEvents =>
      obtain ⟨value, payload, rfl, read⟩ := mapped decoded
      exact ⟨rfl, ThreadEventsResult.faithful_of_fromValue codecs read⟩
  | _ =>
      obtain ⟨value, payload, rfl, _⟩ := mapped decoded
      exact ⟨rfl, True.intro⟩

end ProtocolResponse

end Protocol

end PlatoAgent
