import Mathlib

/-!
# Harness events

The data model of `platonic-core`: identifiers, tool calls, context packs,
policy decisions and the sixteen durable ledger events.  Identifiers carry the
proof that their text is not blank, so the state machine never has to check it
again.
-/

namespace PlatoAgent

/-- Unicode `White_Space`, the character class that `str::trim` strips. -/
def isWhitespace (character : Char) : Bool :=
  let code := character.toNat
  (0x09 ≤ code && code ≤ 0x0D) || code == 0x20 || code == 0x85 ||
    code == 0xA0 || code == 0x1680 || (0x2000 ≤ code && code ≤ 0x200A) ||
    code == 0x2028 || code == 0x2029 || code == 0x202F || code == 0x205F ||
    code == 0x3000

/-- `text.trim().is_empty()`. -/
def trimIsEmpty (text : String) : Bool :=
  text.toList.all isWhitespace

/-- Core error type; the text fields hold the displayed identifiers. -/
inductive Error where
  | emptyIdentifier (kind : String)
  | contextBudgetExceeded (used budget : UInt32)
  | invalidCompactionRange (start endExclusive : UInt64)
  | sequenceMismatch (expected actual : UInt64)
  | runIdMismatch (expected actual : String)
  | invalidTransition (phase event : String)
  | stepMismatch (expected actual : UInt32)
  | turnMismatch (expected actual : String)
  | turnReused (turnId : String)
  | emptyToolProposalsRejectionReason
  | toolCallMismatch (expected actual : String)
  | toolCallReused (callId : String)
  | unproposedToolCall
  deriving DecidableEq, Repr

/-- The identifier types declared through `id_type!`. -/
inductive IdKind where
  | runId | turnId | agentId | profileId | toolCallId | artifactId
  | toolName | modelName | actorId
  deriving DecidableEq, Repr

/-- `stringify!` of the identifier type. -/
def IdKind.name : IdKind → String
  | .runId => "RunId"
  | .turnId => "TurnId"
  | .agentId => "AgentId"
  | .profileId => "ProfileId"
  | .toolCallId => "ToolCallId"
  | .artifactId => "ArtifactId"
  | .toolName => "ToolName"
  | .modelName => "ModelName"
  | .actorId => "ActorId"

/-- A string-backed identifier newtype.  Its text is stored verbatim and is
never empty or all whitespace. -/
structure Identifier (kind : IdKind) where
  value : String
  nonblank : trimIsEmpty value = false
  deriving DecidableEq, Repr

abbrev RunId := Identifier .runId
abbrev TurnId := Identifier .turnId
abbrev AgentId := Identifier .agentId
abbrev ProfileId := Identifier .profileId
abbrev ToolCallId := Identifier .toolCallId
abbrev ArtifactId := Identifier .artifactId
abbrev ToolName := Identifier .toolName
abbrev ModelName := Identifier .modelName
abbrev ActorId := Identifier .actorId

/-- The checked constructor of every identifier type. -/
def Identifier.new (kind : IdKind) (value : String) :
    Except Error (Identifier kind) :=
  if blank : trimIsEmpty value = true then
    .error (.emptyIdentifier kind.name)
  else
    .ok ⟨value, Bool.eq_false_iff.mpr blank⟩

@[simp]
theorem Identifier.new_value {kind : IdKind} (identifier : Identifier kind) :
    Identifier.new kind identifier.value = .ok identifier := by
  have nonblank : ¬ trimIsEmpty identifier.value = true := by
    simp [identifier.nonblank]
  simp [Identifier.new, nonblank]

/-- The number variants of `serde_json`: an unsigned, a negative, or a finite
floating-point number given by its bit pattern. -/
inductive Number where
  | posInt (value : UInt64)
  | negInt (value : Int64)
  | float (bits : UInt64)
  deriving DecidableEq, Repr

/-- `PartialEq` of the number variants.  Floating-point comparison identifies
the two zeros and nothing else among finite bit patterns. -/
def Number.eq : Number → Number → Bool
  | .posInt first, .posInt second => first == second
  | .negInt first, .negInt second => first == second
  | .float first, .float second =>
      first == second || (first <<< 1 == 0 && second <<< 1 == 0)
  | _, _ => false

/-- `serde_json::Value`; an object is its entries in key order. -/
inductive Value where
  | null
  | bool (value : Bool)
  | number (value : Number)
  | string (value : String)
  | array (items : List Value)
  | object (entries : List (String × Value))
  deriving Repr

/- `PartialEq` of JSON values, following the structure. -/
mutual
def Value.eq : Value → Value → Bool
  | .null, .null => true
  | .bool first, .bool second => first == second
  | .number first, .number second => first.eq second
  | .string first, .string second => first == second
  | .array first, .array second => Value.eqItems first second
  | .object first, .object second => Value.eqEntries first second
  | _, _ => false

def Value.eqItems : List Value → List Value → Bool
  | [], [] => true
  | first :: firsts, second :: seconds =>
      first.eq second && Value.eqItems firsts seconds
  | _, _ => false

def Value.eqEntries : List (String × Value) → List (String × Value) → Bool
  | [], [] => true
  | (firstKey, first) :: firsts, (secondKey, second) :: seconds =>
      firstKey == secondKey && first.eq second && Value.eqEntries firsts seconds
  | _, _ => false
end

instance : BEq Value := ⟨Value.eq⟩

inductive MessageRole where
  | system | user | assistant | tool
  deriving DecidableEq, Repr

structure Message where
  role : MessageRole
  content : String
  deriving DecidableEq, Repr

inductive EffectClass where
  | readOnly | workspaceWrite | network | externalSideEffect | secretAccess
  deriving DecidableEq, Repr

inductive PolicyDecision where
  | allow
  | requireApproval (reason : String)
  | deny (reason : String)
  deriving DecidableEq, Repr

/-- A model-authored tool proposal before host validation. -/
structure ToolProposal where
  tool : ToolName
  input : Value
  deriving Repr

/-- A host-validated tool invocation evaluated by policy. -/
structure ToolCall where
  id : ToolCallId
  tool : ToolName
  effect : EffectClass
  input : Value
  deriving Repr

inductive ResultVisibility where
  | model | user | both
  deriving DecidableEq, Repr

structure ToolResult where
  callId : ToolCallId
  summary : String
  data : Value
  artifacts : List ArtifactId
  visibility : ResultVisibility
  deriving Repr

inductive ContextLane where
  | systemContract | currentTask | toolSchemas | recentTurns
  | retrievedContext | artifactSummary | policy
  deriving DecidableEq, Repr

structure ContextFragment where
  lane : ContextLane
  source : String
  content : String
  estimatedTokens : UInt32
  deriving DecidableEq, Repr

/-- A bounded prompt bundle. -/
structure ContextPack where
  tokenBudget : UInt32
  fragments : List ContextFragment
  deriving DecidableEq, Repr

namespace ContextPack

/-- The fragment estimates summed as `u64`. -/
def estimatedTokensU64 (context : ContextPack) : UInt64 :=
  (context.fragments.map fun fragment => fragment.estimatedTokens.toUInt64).sum

/-- Rejects a fragment sum that exceeds the declared token budget; the error
reports the sum saturated at `u32::MAX`. -/
def validateBudget (context : ContextPack) : Except Error Unit :=
  let used := context.estimatedTokensU64
  if used > context.tokenBudget.toUInt64 then
    .error (.contextBudgetExceeded (min used 0xFFFFFFFF).toUInt32
      context.tokenBudget)
  else
    .ok ()

end ContextPack

structure ModelUsage where
  inputTokens : UInt32
  outputTokens : UInt32
  deriving DecidableEq, Repr

/-- Durable identity recorded when a run starts. -/
inductive RunIdentity where
  | legacyAgent (agentId : AgentId)
  | profile (profileId : ProfileId) (profileRevision : UInt64)
  deriving DecidableEq, Repr

structure RunStartedEvent where
  runId : RunId
  identity : RunIdentity
  deriving DecidableEq, Repr

/-- Durable event log entries. -/
inductive HarnessEvent where
  | runStarted (started : RunStartedEvent)
  | contextBuilt (runId : RunId) (turnId : TurnId) (context : ContextPack)
  | contextCompacted (runId : RunId) (turnId : TurnId)
      (estimatedTokensBefore estimatedTokensAfter : UInt32)
      (droppedTurnStart droppedTurnEndExclusive : UInt64)
  | modelRequested (runId : RunId) (turnId : TurnId) (step : UInt32)
      (model : ModelName)
  | modelFailed (runId : RunId) (turnId : TurnId) (step : UInt32)
      (reason : String)
  | modelResponded (runId : RunId) (turnId : TurnId) (step : UInt32)
      (output : Message) (proposedCalls : List ToolProposal)
      (servedModel : Option ModelName) (usage : Option ModelUsage)
  | toolProposalsRejected (runId : RunId) (turnId : TurnId) (reason : String)
  | toolCallProposed (runId : RunId) (turnId : TurnId) (call : ToolCall)
  | policyEvaluated (runId : RunId) (callId : ToolCallId)
      (decision : PolicyDecision)
  | approvalGranted (runId : RunId) (callId : ToolCallId) (actorId : ActorId)
  | approvalDenied (runId : RunId) (callId : ToolCallId) (actorId : ActorId)
      (reason : String)
  | toolStarted (runId : RunId) (callId : ToolCallId)
  | toolFinished (runId : RunId) (result : ToolResult)
  | toolFailed (runId : RunId) (callId : ToolCallId) (reason : String)
  | runFinished (runId : RunId)
  | runFailed (runId : RunId) (reason : String)
  deriving Repr

namespace HarnessEvent

/-- The owning run id, read without validating event order or phase. -/
def runId : HarnessEvent → RunId
  | .runStarted started => started.runId
  | .contextBuilt runId _ _
  | .contextCompacted runId _ _ _ _ _
  | .modelRequested runId _ _ _
  | .modelFailed runId _ _ _
  | .modelResponded runId _ _ _ _ _ _
  | .toolProposalsRejected runId _ _
  | .toolCallProposed runId _ _
  | .policyEvaluated runId _ _
  | .approvalGranted runId _ _
  | .approvalDenied runId _ _ _
  | .toolStarted runId _
  | .toolFinished runId _
  | .toolFailed runId _ _
  | .runFinished runId
  | .runFailed runId _ => runId

/-- The stable snake-case event name used in transition diagnostics. -/
def name : HarnessEvent → String
  | .runStarted .. => "run_started"
  | .contextBuilt .. => "context_built"
  | .contextCompacted .. => "context_compacted"
  | .modelRequested .. => "model_requested"
  | .modelFailed .. => "model_failed"
  | .modelResponded .. => "model_responded"
  | .toolProposalsRejected .. => "tool_proposals_rejected"
  | .toolCallProposed .. => "tool_call_proposed"
  | .policyEvaluated .. => "policy_evaluated"
  | .approvalGranted .. => "approval_granted"
  | .approvalDenied .. => "approval_denied"
  | .toolStarted .. => "tool_started"
  | .toolFinished .. => "tool_finished"
  | .toolFailed .. => "tool_failed"
  | .runFinished .. => "run_finished"
  | .runFailed .. => "run_failed"

end HarnessEvent

/-- One durable event with host-supplied ordering metadata. -/
structure RecordedEvent where
  seq : UInt64
  occurredAtMs : UInt64
  event : HarnessEvent
  deriving Repr

end PlatoAgent
