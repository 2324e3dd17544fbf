import PlatoAgent.LedgerText

/-!
# Names of the protocol

The closed sets of methods, envelope kinds and error codes, with each of the
tables that writes or reads their names.
-/

namespace PlatoAgent

namespace Protocol

/-- `rename_all = "snake_case"` of a variant name. -/
def snakeCase (variant : String) : String :=
  match variant.toList with
  | [] => ""
  | first :: rest =>
      String.ofList (first.toLower :: rest.flatMap fun letter =>
        if letter.isUpper then ['_', letter.toLower] else [letter])

/-- A fieldless enumeration is read from the name of a variant, or from an
object of the name and null. -/
def readUnitEnum {Variant : Type} (variants : List Variant)
    (name : Variant → String) : Value → Option Variant
  | .object [(text, .null)] => variants.find? fun variant => name variant == text
  | .string text => variants.find? fun variant => name variant == text
  | _ => none

theorem readUnitEnum_name {Variant : Type} {variants : List Variant}
    {name : Variant → String} (injective : Function.Injective name)
    (complete : ∀ variant, variant ∈ variants) (variant : Variant) :
    readUnitEnum variants name (.string (name variant)) = some variant :=
  LedgerText.restores_variant injective complete variant

/-- Closed protocol v2 method set shared by requests and responses. -/
inductive ProtocolMethod where
  | hello | runStart | messageAppend | issuePrepStart | eventsStream
  | voiceEventsCommit | voiceEventsRead | approvalDecide | runCancel
  | sessionsList | transcriptRead | daemonStatus | sessionApprovalProfileSet
  | daemonShutdownIfIdle | threadSpawn | threadList | threadStatus
  | threadAuthority | threadSend | threadEvents | threadStop | profileOpen
  | workspaceCreate | workspaceList | workspaceStatus | profileCreate
  | profileList | profileStatus | profileUpdate
  deriving DecidableEq, Repr

namespace ProtocolMethod

/-- The names of the derived codec. -/
def serdeName : ProtocolMethod → String
  | .hello => "hello"
  | .runStart => "run.start"
  | .messageAppend => "message.append"
  | .issuePrepStart => "issue-prep.start"
  | .eventsStream => "events.stream"
  | .voiceEventsCommit => "voice.events.commit"
  | .voiceEventsRead => "voice.events.read"
  | .approvalDecide => "approval.decide"
  | .runCancel => "run.cancel"
  | .sessionsList => "sessions.list"
  | .transcriptRead => "transcript.read"
  | .daemonStatus => "daemon.status"
  | .sessionApprovalProfileSet => "session.approval_profile.set"
  | .daemonShutdownIfIdle => "daemon.shutdown_if_idle"
  | .threadSpawn => "thread.spawn"
  | .threadList => "thread.list"
  | .threadStatus => "thread.status"
  | .threadAuthority => "thread.authority"
  | .threadSend => "thread.send"
  | .threadEvents => "thread.events"
  | .threadStop => "thread.stop"
  | .profileOpen => "profile.open"
  | .workspaceCreate => "workspace.create"
  | .workspaceList => "workspace.list"
  | .workspaceStatus => "workspace.status"
  | .profileCreate => "profile.create"
  | .profileList => "profile.list"
  | .profileStatus => "profile.status"
  | .profileUpdate => "profile.update"

def asStr : ProtocolMethod → String
  | .hello => "hello"
  | .runStart => "run.start"
  | .messageAppend => "message.append"
  | .issuePrepStart => "issue-prep.start"
  | .eventsStream => "events.stream"
  | .voiceEventsCommit => "voice.events.commit"
  | .voiceEventsRead => "voice.events.read"
  | .approvalDecide => "approval.decide"
  | .runCancel => "run.cancel"
  | .sessionsList => "sessions.list"
  | .transcriptRead => "transcript.read"
  | .daemonStatus => "daemon.status"
  | .sessionApprovalProfileSet => "session.approval_profile.set"
  | .daemonShutdownIfIdle => "daemon.shutdown_if_idle"
  | .threadSpawn => "thread.spawn"
  | .threadList => "thread.list"
  | .threadStatus => "thread.status"
  | .threadAuthority => "thread.authority"
  | .threadSend => "thread.send"
  | .threadEvents => "thread.events"
  | .threadStop => "thread.stop"
  | .profileOpen => "profile.open"
  | .workspaceCreate => "workspace.create"
  | .workspaceList => "workspace.list"
  | .workspaceStatus => "workspace.status"
  | .profileCreate => "profile.create"
  | .profileList => "profile.list"
  | .profileStatus => "profile.status"
  | .profileUpdate => "profile.update"

def parse : String → Option ProtocolMethod
  | "hello" => some .hello
  | "run.start" => some .runStart
  | "message.append" => some .messageAppend
  | "issue-prep.start" => some .issuePrepStart
  | "events.stream" => some .eventsStream
  | "voice.events.commit" => some .voiceEventsCommit
  | "voice.events.read" => some .voiceEventsRead
  | "approval.decide" => some .approvalDecide
  | "run.cancel" => some .runCancel
  | "sessions.list" => some .sessionsList
  | "transcript.read" => some .transcriptRead
  | "daemon.status" => some .daemonStatus
  | "session.approval_profile.set" => some .sessionApprovalProfileSet
  | "daemon.shutdown_if_idle" => some .daemonShutdownIfIdle
  | "thread.spawn" => some .threadSpawn
  | "thread.list" => some .threadList
  | "thread.status" => some .threadStatus
  | "thread.authority" => some .threadAuthority
  | "thread.send" => some .threadSend
  | "thread.events" => some .threadEvents
  | "thread.stop" => some .threadStop
  | "profile.open" => some .profileOpen
  | "workspace.create" => some .workspaceCreate
  | "workspace.list" => some .workspaceList
  | "workspace.status" => some .workspaceStatus
  | "profile.create" => some .profileCreate
  | "profile.list" => some .profileList
  | "profile.status" => some .profileStatus
  | "profile.update" => some .profileUpdate
  | _ => none

def variants : List ProtocolMethod :=
  [.hello, .runStart, .messageAppend, .issuePrepStart, .eventsStream,
    .voiceEventsCommit, .voiceEventsRead, .approvalDecide, .runCancel,
    .sessionsList, .transcriptRead, .daemonStatus, .sessionApprovalProfileSet,
    .daemonShutdownIfIdle, .threadSpawn, .threadList, .threadStatus,
    .threadAuthority, .threadSend, .threadEvents, .threadStop, .profileOpen,
    .workspaceCreate, .workspaceList, .workspaceStatus, .profileCreate,
    .profileList, .profileStatus, .profileUpdate]

theorem mem_variants (method : ProtocolMethod) : method ∈ variants := by
  cases method <;> decide

/-- The derived name and the name of the table agree. -/
theorem serdeName_eq (method : ProtocolMethod) :
    method.serdeName = method.asStr := by
  cases method <;> rfl

theorem parse_asStr (method : ProtocolMethod) :
    parse method.asStr = some method := by
  cases method <;> rfl

theorem asStr_injective : Function.Injective asStr := by
  intro first second same
  have parsed := parse_asStr first
  rw [same, parse_asStr] at parsed
  exact (Option.some.inj parsed).symm

def serialize (method : ProtocolMethod) : Value :=
  .string method.serdeName

def deserialize : Value → Option ProtocolMethod :=
  readUnitEnum variants serdeName

theorem deserialize_serialize (method : ProtocolMethod) :
    deserialize method.serialize = some method := by
  refine readUnitEnum_name ?_ mem_variants method
  intro first second same
  rw [serdeName_eq, serdeName_eq] at same
  exact asStr_injective same

end ProtocolMethod

inductive EnvelopeKind where
  | request | response | event | error
  deriving DecidableEq, Repr

namespace EnvelopeKind

/-- The name of the variant, which `Debug` prints. -/
def variantName : EnvelopeKind → String
  | .request => "Request"
  | .response => "Response"
  | .event => "Event"
  | .error => "Error"

def serdeName (kind : EnvelopeKind) : String :=
  snakeCase kind.variantName

def variants : List EnvelopeKind :=
  [.request, .response, .event, .error]

def serialize (kind : EnvelopeKind) : Value :=
  .string kind.serdeName

def deserialize : Value → Option EnvelopeKind :=
  readUnitEnum variants serdeName

theorem deserialize_serialize (kind : EnvelopeKind) :
    deserialize kind.serialize = some kind := by
  cases kind <;> decide +kernel

end EnvelopeKind

/-- Stable machine-readable protocol error code. -/
inductive ProtocolErrorCode where
  | daemonShuttingDown | malformedRequest | lagged | internalError
  | issuePrepFailed | notFound | overload | runFailed | voiceEventsConflict
  | sessionsListFailed | threadAuthorityExceeded | threadBranchClaimConflict
  | threadConfinementUnavailable | threadAuthorityFailed | threadEventsFailed
  | threadListFailed | threadSpawnFailed | threadSendFailed
  | threadStatusFailed | threadStopFailed | profileOpenConflict
  | profileOpenFailed | unsupportedMethod | unsupportedVersion
  | workspaceMismatch | workspaceUnregistered | workspaceBroken
  deriving DecidableEq, Repr

namespace ProtocolErrorCode

def variantName : ProtocolErrorCode → String
  | .daemonShuttingDown => "DaemonShuttingDown"
  | .malformedRequest => "MalformedRequest"
  | .lagged => "Lagged"
  | .internalError => "InternalError"
  | .issuePrepFailed => "IssuePrepFailed"
  | .notFound => "NotFound"
  | .overload => "Overload"
  | .runFailed => "RunFailed"
  | .voiceEventsConflict => "VoiceEventsConflict"
  | .sessionsListFailed => "SessionsListFailed"
  | .threadAuthorityExceeded => "ThreadAuthorityExceeded"
  | .threadBranchClaimConflict => "ThreadBranchClaimConflict"
  | .threadConfinementUnavailable => "ThreadConfinementUnavailable"
  | .threadAuthorityFailed => "ThreadAuthorityFailed"
  | .threadEventsFailed => "ThreadEventsFailed"
  | .threadListFailed => "ThreadListFailed"
  | .threadSpawnFailed => "ThreadSpawnFailed"
  | .threadSendFailed => "ThreadSendFailed"
  | .threadStatusFailed => "ThreadStatusFailed"
  | .threadStopFailed => "ThreadStopFailed"
  | .profileOpenConflict => "ProfileOpenConflict"
  | .profileOpenFailed => "ProfileOpenFailed"
  | .unsupportedMethod => "UnsupportedMethod"
  | .unsupportedVersion => "UnsupportedVersion"
  | .workspaceMismatch => "WorkspaceMismatch"
  | .workspaceUnregistered => "WorkspaceUnregistered"
  | .workspaceBroken => "WorkspaceBroken"

/-- The names of the derived codec. -/
def serdeName (code : ProtocolErrorCode) : String :=
  snakeCase code.variantName

def asStr : ProtocolErrorCode → String
  | .daemonShuttingDown => "daemon_shutting_down"
  | .malformedRequest => "malformed_request"
  | .lagged => "lagged"
  | .internalError => "internal_error"
  | .issuePrepFailed => "issue_prep_failed"
  | .notFound => "not_found"
  | .overload => "overload"
  | .runFailed => "run_failed"
  | .voiceEventsConflict => "voice_events_conflict"
  | .sessionsListFailed => "sessions_list_failed"
  | .threadAuthorityExceeded => "thread_authority_exceeded"
  | .threadBranchClaimConflict => "thread_branch_claim_conflict"
  | .threadConfinementUnavailable => "thread_confinement_unavailable"
  | .threadAuthorityFailed => "thread_authority_failed"
  | .threadEventsFailed => "thread_events_failed"
  | .threadListFailed => "thread_list_failed"
  | .threadSpawnFailed => "thread_spawn_failed"
  | .threadSendFailed => "thread_send_failed"
  | .threadStatusFailed => "thread_status_failed"
  | .threadStopFailed => "thread_stop_failed"
  | .profileOpenConflict => "profile_open_conflict"
  | .profileOpenFailed => "profile_open_failed"
  | .unsupportedMethod => "unsupported_method"
  | .unsupportedVersion => "unsupported_version"
  | .workspaceMismatch => "workspace_mismatch"
  | .workspaceUnregistered => "workspace_unregistered"
  | .workspaceBroken => "workspace_broken"

def variants : List ProtocolErrorCode :=
  [.daemonShuttingDown, .malformedRequest, .lagged, .internalError,
    .issuePrepFailed, .notFound, .overload, .runFailed, .voiceEventsConflict,
    .sessionsListFailed, .threadAuthorityExceeded, .threadBranchClaimConflict,
    .threadConfinementUnavailable, .threadAuthorityFailed,
    .threadEventsFailed, .threadListFailed, .threadSpawnFailed,
    .threadSendFailed, .threadStatusFailed, .threadStopFailed,
    .profileOpenConflict, .profileOpenFailed, .unsupportedMethod,
    .unsupportedVersion, .workspaceMismatch, .workspaceUnregistered,
    .workspaceBroken]

/-- The derived name and the name of the table agree. -/
theorem serdeName_eq (code : ProtocolErrorCode) :
    code.serdeName = code.asStr := by
  cases code <;> decide +kernel

theorem asStr_injective : Function.Injective asStr := by
  intro first second same
  have distinct : ∀ one ∈ variants, ∀ two ∈ variants,
      one.asStr = two.asStr → one = two := by
    decide +kernel
  exact distinct first (by cases first <;> decide) second
    (by cases second <;> decide) same

def serialize (code : ProtocolErrorCode) : Value :=
  .string code.serdeName

def deserialize : Value → Option ProtocolErrorCode :=
  readUnitEnum variants serdeName

theorem deserialize_serialize (code : ProtocolErrorCode) :
    deserialize code.serialize = some code := by
  refine readUnitEnum_name ?_ (fun code => by cases code <;> decide) code
  intro first second same
  rw [serdeName_eq, serdeName_eq] at same
  exact asStr_injective same

end ProtocolErrorCode

end Protocol

end PlatoAgent
