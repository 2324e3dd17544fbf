import PlatoAgent.JsonText

/-!
# The text of events

The JSON objects that the derived serializers of `platonic-core` write, field
by field in declaration order, and readers for them.  The depth of an event is
the depth of its object: the parser does not read what nests too deep.
-/

namespace PlatoAgent

namespace LedgerText

abbrev Fields := List (String × Value)

/-- Take fields off an object, in order. -/
abbrev FieldReader := StateT Fields Option

/-- The next field, under this name. -/
def field {Result : Type} (name : String) (read : Value → Option Result) :
    FieldReader Result := fun fields =>
  match fields with
  | [] => none
  | (key, value) :: rest =>
      if key = name then (read value).map fun result => (result, rest)
      else none

/-- An object without further fields. -/
def readObject {Result : Type} (reader : FieldReader Result) :
    Value → Option Result
  | .object fields =>
      match reader.run fields with
      | some (result, []) => some result
      | _ => none
  | _ => none

/-- The value of a field is read back. -/
def Restores {Result : Type} (read : Value → Option Result)
    (write : Result → Value) : Prop :=
  ∀ result, read (write result) = some result

section Fields

variable {Result : Type} {read : Value → Option Result}
  {write : Result → Value}

theorem run_field (restores : Restores read write) (name : String)
    (result : Result) (rest : Fields) :
    (field name read).run ((name, write result) :: rest) =
      some (result, rest) := by
  have same : (field name read).run ((name, write result) :: rest) =
      (read (write result)).map fun result => (result, rest) := if_pos rfl
  rw [same, restores result]
  rfl

end Fields

def u32 (value : UInt32) : Value :=
  .number (.posInt value.toUInt64)

def readU32 : Value → Option UInt32
  | .number (.posInt value) =>
      if value.toNat < 2 ^ 32 then some value.toUInt32 else none
  | _ => none

theorem restores_u32 : Restores readU32 u32 := by
  intro value
  have bound : value.toUInt64.toNat < 2 ^ 32 := by
    simpa using value.toNat_lt
  rw [u32, readU32, if_pos bound]
  simp

def u64 (value : UInt64) : Value :=
  .number (.posInt value)

def readU64 : Value → Option UInt64
  | .number (.posInt value) => some value
  | _ => none

theorem restores_u64 : Restores readU64 u64 := fun _ => rfl

def readText : Value → Option String
  | .string text => some text
  | _ => none

theorem restores_text : Restores readText Value.string := fun _ => rfl

def identifier {kind : IdKind} (id : Identifier kind) : Value :=
  .string id.value

def readIdentifier (kind : IdKind) : Value → Option (Identifier kind)
  | .string text => (Identifier.new kind text).toOption
  | _ => none

theorem restores_identifier (kind : IdKind) :
    Restores (readIdentifier kind) identifier := by
  intro id
  rw [identifier, readIdentifier, Identifier.new_value]
  rfl

/-- A fieldless enumeration is written by the name of its variant. -/
def readVariant {Variant : Type} (variants : List Variant)
    (name : Variant → String) : Value → Option Variant
  | .string text => variants.find? fun variant => name variant == text
  | _ => none

theorem restores_variant {Variant : Type} {variants : List Variant}
    {name : Variant → String} (injective : Function.Injective name)
    (complete : ∀ variant, variant ∈ variants) :
    Restores (readVariant variants name) fun variant =>
      .string (name variant) := by
  intro variant
  have found : (variants.find? fun other => name other == name variant).isSome =
      true := List.find?_isSome.mpr ⟨variant, complete variant, by simp⟩
  obtain ⟨other, same⟩ := Option.isSome_iff_exists.mp found
  have named : name other = name variant := by
    simpa using List.find?_some same
  rw [injective named] at same
  exact same

def list {Item : Type} (write : Item → Value) (items : List Item) : Value :=
  .array (items.map write)

def readList {Item : Type} (read : Value → Option Item) :
    Value → Option (List Item)
  | .array items => items.mapM read
  | _ => none

theorem restores_list {Item : Type} {read : Value → Option Item}
    {write : Item → Value} (restores : Restores read write) :
    Restores (readList read) (list write) := by
  intro items
  rw [list, readList]
  induction items with
  | nil => rfl
  | cons item rest ih =>
      rw [List.map_cons, List.mapM_cons, restores item, ih]
      rfl

/-- `None` is written as `null`. -/
def nullable {Item : Type} (write : Item → Value) : Option Item → Value
  | none => .null
  | some item => write item

def readNullable {Item : Type} (read : Value → Option Item) :
    Value → Option (Option Item)
  | .null => some none
  | value => (read value).map some

theorem restores_nullable {Item : Type} {read : Value → Option Item}
    {write : Item → Value} (restores : Restores read write)
    (present : ∀ item, write item ≠ .null) :
    Restores (readNullable read) (nullable write) := by
  rintro (_ | item)
  · rfl
  · have read_eq : readNullable read (write item) =
        (read (write item)).map some := by
      unfold readNullable
      split
      next null => exact absurd null (present item)
      · rfl
    rw [nullable, read_eq, restores item]
    rfl

/-- A field that is left out for `None`. -/
def optionalField {Result : Type} (name : String)
    (read : Value → Option Result) : FieldReader (Option Result) :=
  fun fields =>
    match fields with
    | [] => some (none, [])
    | (key, value) :: rest =>
        if key = name then (read value).map fun result => (some result, rest)
        else some (none, (key, value) :: rest)

/-- An object is read back if its fields are. -/
theorem readObject_of_run {Result : Type} {reader : FieldReader Result}
    {fields : Fields} {result : Result}
    (ran : reader.run fields = some (result, [])) :
    readObject reader (.object fields) = some result := by
  rw [readObject, ran]

section Run

variable (rest : Fields) (name : String)

@[simp]
theorem run_field_u32 (value : UInt32) :
    (field name readU32).run ((name, u32 value) :: rest) =
      some (value, rest) :=
  run_field restores_u32 name value rest

@[simp]
theorem run_field_u64 (value : UInt64) :
    (field name readU64).run ((name, u64 value) :: rest) =
      some (value, rest) :=
  run_field restores_u64 name value rest

@[simp]
theorem run_field_text (text : String) :
    (field name readText).run ((name, .string text) :: rest) =
      some (text, rest) :=
  run_field restores_text name text rest

@[simp]
theorem run_field_identifier {kind : IdKind} (id : Identifier kind) :
    (field name (readIdentifier kind)).run ((name, identifier id) :: rest) =
      some (id, rest) :=
  run_field (restores_identifier kind) name id rest

@[simp]
theorem run_field_value (value : Value) :
    (field name some).run ((name, value) :: rest) = some (value, rest) :=
  if_pos rfl

end Run

def roleName : MessageRole → String
  | .system => "system"
  | .user => "user"
  | .assistant => "assistant"
  | .tool => "tool"

def effectName : EffectClass → String
  | .readOnly => "read_only"
  | .workspaceWrite => "workspace_write"
  | .network => "network"
  | .externalSideEffect => "external_side_effect"
  | .secretAccess => "secret_access"

def visibilityName : ResultVisibility → String
  | .model => "model"
  | .user => "user"
  | .both => "both"

def laneName : ContextLane → String
  | .systemContract => "system_contract"
  | .currentTask => "current_task"
  | .toolSchemas => "tool_schemas"
  | .recentTurns => "recent_turns"
  | .retrievedContext => "retrieved_context"
  | .artifactSummary => "artifact_summary"
  | .policy => "policy"

def readRole : Value → Option MessageRole :=
  readVariant [.system, .user, .assistant, .tool] roleName

def readEffect : Value → Option EffectClass :=
  readVariant [.readOnly, .workspaceWrite, .network, .externalSideEffect,
    .secretAccess] effectName

def readVisibility : Value → Option ResultVisibility :=
  readVariant [.model, .user, .both] visibilityName

def readLane : Value → Option ContextLane :=
  readVariant [.systemContract, .currentTask, .toolSchemas, .recentTurns,
    .retrievedContext, .artifactSummary, .policy] laneName

theorem restores_role : Restores readRole fun role =>
    .string (roleName role) := by
  refine restores_variant ?_ fun role => by cases role <;> simp
  intro first second same
  cases first <;> cases second <;> first | rfl | simp [roleName] at same

theorem restores_effect : Restores readEffect fun effect =>
    .string (effectName effect) := by
  refine restores_variant ?_ fun effect => by cases effect <;> simp
  intro first second same
  cases first <;> cases second <;> first | rfl | simp [effectName] at same

theorem restores_visibility : Restores readVisibility fun visibility =>
    .string (visibilityName visibility) := by
  refine restores_variant ?_ fun visibility => by cases visibility <;> simp
  intro first second same
  cases first <;> cases second <;> first | rfl | simp [visibilityName] at same

theorem restores_lane : Restores readLane fun lane =>
    .string (laneName lane) := by
  refine restores_variant ?_ fun lane => by cases lane <;> simp
  intro first second same
  cases first <;> cases second <;> first | rfl | simp [laneName] at same

def message (message : Message) : Value :=
  .object [("role", .string (roleName message.role)),
    ("content", .string message.content)]

def readMessage : Value → Option Message :=
  readObject do
    let role ← field "role" readRole
    let content ← field "content" readText
    pure { role := role, content := content }

theorem restores_message : Restores readMessage message := by
  intro value
  refine readObject_of_run ?_
  simp [run_field restores_role]

def fragment (fragment : ContextFragment) : Value :=
  .object [("lane", .string (laneName fragment.lane)),
    ("source", .string fragment.source),
    ("content", .string fragment.content),
    ("estimated_tokens", u32 fragment.estimatedTokens)]

def readFragment : Value → Option ContextFragment :=
  readObject do
    let lane ← field "lane" readLane
    let source ← field "source" readText
    let content ← field "content" readText
    let estimatedTokens ← field "estimated_tokens" readU32
    pure { lane := lane, source := source, content := content,
           estimatedTokens := estimatedTokens }

theorem restores_fragment : Restores readFragment fragment := by
  intro value
  refine readObject_of_run ?_
  simp [run_field restores_lane]

def context (context : ContextPack) : Value :=
  .object [("token_budget", u32 context.tokenBudget),
    ("fragments", list fragment context.fragments)]

def readContext : Value → Option ContextPack :=
  readObject do
    let tokenBudget ← field "token_budget" readU32
    let fragments ← field "fragments" (readList readFragment)
    pure { tokenBudget := tokenBudget, fragments := fragments }

theorem restores_context : Restores readContext context := by
  intro value
  refine readObject_of_run ?_
  simp [run_field (restores_list restores_fragment)]

def proposal (proposal : ToolProposal) : Value :=
  .object [("tool", identifier proposal.tool), ("input", proposal.input)]

def readProposal : Value → Option ToolProposal :=
  readObject do
    let tool ← field "tool" (readIdentifier .toolName)
    let input ← field "input" some
    pure { tool := tool, input := input }

theorem restores_proposal : Restores readProposal proposal := by
  intro value
  refine readObject_of_run ?_
  simp

def call (call : ToolCall) : Value :=
  .object [("id", identifier call.id), ("tool", identifier call.tool),
    ("effect", .string (effectName call.effect)), ("input", call.input)]

def readCall : Value → Option ToolCall :=
  readObject do
    let id ← field "id" (readIdentifier .toolCallId)
    let tool ← field "tool" (readIdentifier .toolName)
    let effect ← field "effect" readEffect
    let input ← field "input" some
    pure { id := id, tool := tool, effect := effect, input := input }

theorem restores_call : Restores readCall call := by
  intro value
  refine readObject_of_run ?_
  simp [run_field restores_effect]

def toolResult (result : ToolResult) : Value :=
  .object [("call_id", identifier result.callId),
    ("summary", .string result.summary), ("data", result.data),
    ("artifacts", list identifier result.artifacts),
    ("visibility", .string (visibilityName result.visibility))]

def readToolResult : Value → Option ToolResult :=
  readObject do
    let callId ← field "call_id" (readIdentifier .toolCallId)
    let summary ← field "summary" readText
    let data ← field "data" some
    let artifacts ← field "artifacts" (readList (readIdentifier .artifactId))
    let visibility ← field "visibility" readVisibility
    pure { callId := callId, summary := summary, data := data,
           artifacts := artifacts, visibility := visibility }

theorem restores_toolResult : Restores readToolResult toolResult := by
  intro value
  refine readObject_of_run ?_
  simp [run_field (restores_list (restores_identifier .artifactId)),
    run_field restores_visibility]

def decision : PolicyDecision → Value
  | .allow => .object [("decision", .string "allow")]
  | .requireApproval reason => .object
      [("decision", .string "require_approval"), ("reason", .string reason)]
  | .deny reason => .object
      [("decision", .string "deny"), ("reason", .string reason)]

def readDecision : Value → Option PolicyDecision :=
  readObject do
    let variant ← field "decision" readText
    if variant = "allow" then
      pure .allow
    else if variant = "require_approval" then
      let reason ← field "reason" readText
      pure (.requireApproval reason)
    else if variant = "deny" then
      let reason ← field "reason" readText
      pure (.deny reason)
    else
      failure

theorem restores_decision : Restores readDecision decision := by
  intro value
  cases value with
  | allow => exact readObject_of_run (by simp)
  | requireApproval reason => exact readObject_of_run (by simp)
  | deny reason => exact readObject_of_run (by simp)

def usage (usage : ModelUsage) : Value :=
  .object [("input_tokens", u32 usage.inputTokens),
    ("output_tokens", u32 usage.outputTokens)]

def readUsage : Value → Option ModelUsage :=
  readObject do
    let inputTokens ← field "input_tokens" readU32
    let outputTokens ← field "output_tokens" readU32
    pure { inputTokens := inputTokens, outputTokens := outputTokens }

theorem restores_usage : Restores readUsage usage := by
  intro value
  refine readObject_of_run ?_
  simp

theorem restores_nullableUsage :
    Restores (readNullable readUsage) (nullable usage) :=
  restores_nullable restores_usage fun _ => by simp [usage]

/-- The untagged identity, among the fields of its event. -/
def identityFields : RunIdentity → Fields
  | .legacyAgent agentId => [("agent_id", identifier agentId)]
  | .profile profileId profileRevision =>
      [("profile_id", identifier profileId),
        ("profile_revision", u64 profileRevision)]

/-- The first variant whose fields are there. -/
def readIdentity : FieldReader RunIdentity := do
  match ← optionalField "agent_id" (readIdentifier .agentId) with
  | some agentId => pure (.legacyAgent agentId)
  | none =>
      let profileId ← field "profile_id" (readIdentifier .profileId)
      let profileRevision ← field "profile_revision" readU64
      pure (.profile profileId profileRevision)

theorem run_optionalField {Result : Type} {read : Value → Option Result}
    {write : Result → Value} (restores : Restores read write) (name : String)
    (result : Result) (rest : Fields) :
    (optionalField name read).run ((name, write result) :: rest) =
      some (some result, rest) := by
  have same : (optionalField name read).run ((name, write result) :: rest) =
      (read (write result)).map fun result => (some result, rest) :=
    if_pos rfl
  rw [same, restores result]
  rfl

theorem run_optionalField_other {Result : Type} {read : Value → Option Result}
    {name key : String} (different : key ≠ name) (value : Value)
    (rest : Fields) :
    (optionalField name read).run ((key, value) :: rest) =
      some (none, (key, value) :: rest) :=
  if_neg different

theorem run_identity (identity : RunIdentity) :
    readIdentity.run (identityFields identity) = some (identity, []) := by
  cases identity with
  | legacyAgent agentId =>
      simp [readIdentity, identityFields,
        run_optionalField (restores_identifier .agentId)]
  | profile profileId profileRevision =>
      have absent : "profile_id" ≠ "agent_id" := by decide
      simp [readIdentity, identityFields, run_optionalField_other absent]

/-- The field of a served model, if there is one. -/
def servedModelFields : Option ModelName → Fields
  | none => []
  | some model => [("served_model", identifier model)]

/-- The fields of an event after its tag. -/
def eventFields : HarnessEvent → Fields
  | .runStarted started =>
      ("run_id", identifier started.runId) :: identityFields started.identity
  | .contextBuilt runId turnId pack =>
      [("run_id", identifier runId), ("turn_id", identifier turnId),
        ("context", context pack)]
  | .contextCompacted runId turnId estimatedTokensBefore estimatedTokensAfter
      droppedTurnStart droppedTurnEndExclusive =>
      [("run_id", identifier runId), ("turn_id", identifier turnId),
        ("estimated_tokens_before", u32 estimatedTokensBefore),
        ("estimated_tokens_after", u32 estimatedTokensAfter),
        ("dropped_turn_start", u64 droppedTurnStart),
        ("dropped_turn_end_exclusive", u64 droppedTurnEndExclusive)]
  | .modelRequested runId turnId step model =>
      [("run_id", identifier runId), ("turn_id", identifier turnId),
        ("step", u32 step), ("model", identifier model)]
  | .modelFailed runId turnId step reason =>
      [("run_id", identifier runId), ("turn_id", identifier turnId),
        ("step", u32 step), ("reason", .string reason)]
  | .modelResponded runId turnId step output proposedCalls servedModel
      reported =>
      [("run_id", identifier runId), ("turn_id", identifier turnId),
        ("step", u32 step), ("output", message output),
        ("proposed_calls", list proposal proposedCalls)] ++
        servedModelFields servedModel ++
        [("usage", nullable usage reported)]
  | .toolProposalsRejected runId turnId reason =>
      [("run_id", identifier runId), ("turn_id", identifier turnId),
        ("reason", .string reason)]
  | .toolCallProposed runId turnId proposed =>
      [("run_id", identifier runId), ("turn_id", identifier turnId),
        ("call", call proposed)]
  | .policyEvaluated runId callId verdict =>
      [("run_id", identifier runId), ("call_id", identifier callId),
        ("decision", decision verdict)]
  | .approvalGranted runId callId actorId =>
      [("run_id", identifier runId), ("call_id", identifier callId),
        ("actor_id", identifier actorId)]
  | .approvalDenied runId callId actorId reason =>
      [("run_id", identifier runId), ("call_id", identifier callId),
        ("actor_id", identifier actorId), ("reason", .string reason)]
  | .toolStarted runId callId =>
      [("run_id", identifier runId), ("call_id", identifier callId)]
  | .toolFinished runId result =>
      [("run_id", identifier runId), ("result", toolResult result)]
  | .toolFailed runId callId reason =>
      [("run_id", identifier runId), ("call_id", identifier callId),
        ("reason", .string reason)]
  | .runFinished runId => [("run_id", identifier runId)]
  | .runFailed runId reason =>
      [("run_id", identifier runId), ("reason", .string reason)]

def event (event : HarnessEvent) : Value :=
  .object (("event", .string event.name) :: eventFields event)

/-- The fields that most events share. -/
def readRunId : FieldReader RunId :=
  field "run_id" (readIdentifier .runId)

def readTurnId : FieldReader TurnId :=
  field "turn_id" (readIdentifier .turnId)

def readCallId : FieldReader ToolCallId :=
  field "call_id" (readIdentifier .toolCallId)

def readReason : FieldReader String :=
  field "reason" readText

/-- The events of a tool call. -/
def readToolEvent (tag : String) : FieldReader HarnessEvent :=
  if tag = "tool_call_proposed" then do
    pure (.toolCallProposed (← readRunId) (← readTurnId)
      (← field "call" readCall))
  else if tag = "policy_evaluated" then do
    pure (.policyEvaluated (← readRunId) (← readCallId)
      (← field "decision" readDecision))
  else if tag = "approval_granted" then do
    pure (.approvalGranted (← readRunId) (← readCallId)
      (← field "actor_id" (readIdentifier .actorId)))
  else if tag = "approval_denied" then do
    pure (.approvalDenied (← readRunId) (← readCallId)
      (← field "actor_id" (readIdentifier .actorId)) (← readReason))
  else if tag = "tool_started" then do
    pure (.toolStarted (← readRunId) (← readCallId))
  else if tag = "tool_finished" then do
    pure (.toolFinished (← readRunId) (← field "result" readToolResult))
  else if tag = "tool_failed" then do
    pure (.toolFailed (← readRunId) (← readCallId) (← readReason))
  else
    failure

/-- The events of a model turn, and those of a tool call. -/
def readModelEvent (tag : String) : FieldReader HarnessEvent :=
  if tag = "context_built" then do
    pure (.contextBuilt (← readRunId) (← readTurnId)
      (← field "context" readContext))
  else if tag = "context_compacted" then do
    pure (.contextCompacted (← readRunId) (← readTurnId)
      (← field "estimated_tokens_before" readU32)
      (← field "estimated_tokens_after" readU32)
      (← field "dropped_turn_start" readU64)
      (← field "dropped_turn_end_exclusive" readU64))
  else if tag = "model_requested" then do
    pure (.modelRequested (← readRunId) (← readTurnId)
      (← field "step" readU32) (← field "model" (readIdentifier .modelName)))
  else if tag = "model_failed" then do
    pure (.modelFailed (← readRunId) (← readTurnId) (← field "step" readU32)
      (← readReason))
  else if tag = "model_responded" then do
    pure (.modelResponded (← readRunId) (← readTurnId)
      (← field "step" readU32) (← field "output" readMessage)
      (← field "proposed_calls" (readList readProposal))
      (← optionalField "served_model" (readIdentifier .modelName))
      (← field "usage" (readNullable readUsage)))
  else if tag = "tool_proposals_rejected" then do
    pure (.toolProposalsRejected (← readRunId) (← readTurnId) (← readReason))
  else
    readToolEvent tag

/-- The events of a run, and those of its parts. -/
def readEventFields (tag : String) : FieldReader HarnessEvent :=
  if tag = "run_started" then do
    pure (.runStarted { runId := ← readRunId, identity := ← readIdentity })
  else if tag = "run_finished" then do
    pure (.runFinished (← readRunId))
  else if tag = "run_failed" then do
    pure (.runFailed (← readRunId) (← readReason))
  else
    readModelEvent tag

def readEvent : Value → Option HarnessEvent :=
  readObject do
    let tag ← field "event" readText
    readEventFields tag

theorem run_eventFields (value : HarnessEvent) :
    (readEventFields value.name).run (eventFields value) =
      some (value, []) := by
  cases value with
  | runStarted started =>
      simp [readEventFields, HarnessEvent.name, eventFields, readRunId,
        run_identity]
  | runFinished runId =>
      simp [readEventFields, HarnessEvent.name, eventFields, readRunId]
  | runFailed runId reason =>
      simp [readEventFields, HarnessEvent.name, eventFields, readRunId,
        readReason]
  | contextBuilt runId turnId pack =>
      simp [readEventFields, readModelEvent, HarnessEvent.name, eventFields,
        readRunId, readTurnId, run_field restores_context]
  | contextCompacted =>
      simp [readEventFields, readModelEvent, HarnessEvent.name, eventFields,
        readRunId, readTurnId]
  | modelRequested =>
      simp [readEventFields, readModelEvent, HarnessEvent.name, eventFields,
        readRunId, readTurnId]
  | modelFailed =>
      simp [readEventFields, readModelEvent, HarnessEvent.name, eventFields,
        readRunId, readTurnId, readReason]
  | modelResponded runId turnId step output proposedCalls servedModel
      reported =>
      have absent : "usage" ≠ "served_model" := by decide
      cases servedModel <;>
        simp [readEventFields, readModelEvent, HarnessEvent.name, eventFields,
          readRunId, readTurnId, servedModelFields, run_field restores_message,
          run_field (restores_list restores_proposal),
          run_field restores_nullableUsage, run_optionalField_other absent,
          run_optionalField (restores_identifier .modelName)]
  | toolProposalsRejected =>
      simp [readEventFields, readModelEvent, HarnessEvent.name, eventFields,
        readRunId, readTurnId, readReason]
  | toolCallProposed =>
      simp [readEventFields, readModelEvent, readToolEvent, HarnessEvent.name,
        eventFields, readRunId, readTurnId, run_field restores_call]
  | policyEvaluated =>
      simp [readEventFields, readModelEvent, readToolEvent, HarnessEvent.name,
        eventFields, readRunId, readCallId, run_field restores_decision]
  | approvalGranted =>
      simp [readEventFields, readModelEvent, readToolEvent, HarnessEvent.name,
        eventFields, readRunId, readCallId]
  | approvalDenied =>
      simp [readEventFields, readModelEvent, readToolEvent, HarnessEvent.name,
        eventFields, readRunId, readCallId, readReason]
  | toolStarted =>
      simp [readEventFields, readModelEvent, readToolEvent, HarnessEvent.name,
        eventFields, readRunId, readCallId]
  | toolFinished =>
      simp [readEventFields, readModelEvent, readToolEvent, HarnessEvent.name,
        eventFields, readRunId, run_field restores_toolResult]
  | toolFailed =>
      simp [readEventFields, readModelEvent, readToolEvent, HarnessEvent.name,
        eventFields, readRunId, readCallId, readReason]

theorem restores_event : Restores readEvent event := by
  intro value
  refine readObject_of_run ?_
  simp [run_eventFields]

end LedgerText

/-- How many containers of the object of the event are inside one another. -/
def HarnessEvent.depth (event : HarnessEvent) : Nat :=
  (LedgerText.event event).depth

end PlatoAgent
