import PlatoAgent.LedgerText
import PlatoAgent.SerdeStructs

/-!
# Responses of the model provider

The response of a chat completion as one body: the choice that is read, its
limits, and the blocks that it becomes.  A derived reader is given in two parts,
the shape with the types of its fields and the fields that have to be there.
-/

namespace PlatoAgent

structure ToolDefinition where
  internalName : String
  providerName : String
  effect : EffectClass

def bootstrapTools : List ToolDefinition :=
  [⟨"file.read", "file_read", .readOnly⟩,
    ⟨"file.list", "file_list", .readOnly⟩,
    ⟨"file.write", "file_write", .workspaceWrite⟩,
    ⟨"file.edit", "file_edit", .workspaceWrite⟩,
    ⟨"shell.exec", "shell_exec", .externalSideEffect⟩,
    ⟨"web.fetch", "web_fetch", .network⟩,
    ⟨"profile.read", "profile_read", .readOnly⟩,
    ⟨"thread.tree", "thread_tree", .readOnly⟩,
    ⟨"thread.events", "thread_events", .readOnly⟩,
    ⟨"thread.transcript", "thread_transcript", .readOnly⟩,
    ⟨"thread.spawn", "thread_spawn", .workspaceWrite⟩,
    ⟨"thread.return", "thread_return", .workspaceWrite⟩,
    ⟨"thread.answer", "thread_answer", .workspaceWrite⟩,
    ⟨"computer.windows", "computer_windows", .secretAccess⟩,
    ⟨"computer.observe", "computer_observe", .secretAccess⟩]

def internalNameForProvider (name : String) : Option String :=
  (bootstrapTools.find? fun tool =>
    tool.providerName == name || tool.internalName == name).map
      (·.internalName)

inductive ModelBlock where
  | text (text : String)
  | toolUse (id name : String) (input : Value)
  | toolResult (toolCallId content : String) (isError : Bool)
  deriving Repr

inductive ModelStop where
  | endTurn | toolUse | maxOutput | contentFilter
  deriving DecidableEq, Repr

structure ModelResponse where
  content : List ModelBlock
  stop : ModelStop
  servedModel : Option ModelName
  usage : Option ModelUsage
  deriving Repr

def ModelBlock.text? : ModelBlock → Option String
  | .text content => some content
  | .toolUse .. | .toolResult .. => none

/-- The text blocks, one line each. -/
def ModelResponse.text (response : ModelResponse) : String :=
  "\n".intercalate (response.content.filterMap ModelBlock.text?)

/-- Why a response is refused. -/
inductive ProviderError where
  | provider (message : String)
  | io
  deriving DecidableEq, Repr

/-- The calls into `serde_json` that parse a text or bytes. -/
structure JsonParser where
  fromStr : String → Except String Value
  fromSlice : List UInt8 → Except String Value
  fromStr_empty : ∃ error, fromStr "" = .error error

def maxAssistantTextBytes : Nat :=
  4 * 1024 * 1024

def maxToolCalls : Nat :=
  64

def maxToolCallIndex : Nat :=
  maxToolCalls - 1

def maxToolNameBytes : Nat :=
  256

def maxToolArgumentBytes : Nat :=
  1024 * 1024

def maxToolArgumentsBytes : Nat :=
  4 * 1024 * 1024

def assistantTextLimitError : ProviderError :=
  .provider "provider response exceeded the 4 MiB assistant text limit"

def toolCallLimitError : ProviderError :=
  .provider "provider response exceeded the 64 tool call limit"

def toolNameLimitError : ProviderError :=
  .provider "provider response exceeded the 256-byte tool name limit"

def toolArgumentLimitError : ProviderError :=
  .provider "provider response exceeded the 1 MiB per-call tool arguments limit"

def toolArgumentsLimitError : ProviderError :=
  .provider
    "provider response exceeded the 4 MiB aggregate tool arguments limit"

inductive ChatFinishReason where
  | stop | length | toolCalls | contentFilter | functionCall
  deriving DecidableEq, Repr

structure ChatUsage where
  promptTokens : Option UInt32
  completionTokens : Option UInt32
  deriving DecidableEq, Repr

structure ChatFunctionCall where
  name : String
  arguments : String
  deriving DecidableEq, Repr

/-- A tool call; its type has one value. -/
structure ChatToolCall where
  id : String
  function : ChatFunctionCall
  deriving DecidableEq, Repr

def validateToolCall (name arguments : String) : Except ProviderError Unit :=
  if maxToolNameBytes < name.utf8ByteSize then .error toolNameLimitError
  else if maxToolArgumentBytes < arguments.utf8ByteSize then
    .error toolArgumentLimitError
  else .ok ()

def toolUseFromProvider (json : JsonParser) (id name arguments : String) :
    Except ProviderError ModelBlock :=
  if trimIsEmpty id then
    .error (.provider "provider returned tool call without id")
  else match validateToolCall name arguments with
  | .error error => .error error
  | .ok _ =>
      match internalNameForProvider name with
      | none => .error (.provider s!"provider returned unknown tool {name}")
      | some toolName =>
          match json.fromStr arguments with
          | .error error => .error
              (.provider s!"provider returned invalid JSON for {name}: {error}")
          | .ok input => .ok (.toolUse id toolName input)

def stopFromFinish : ChatFinishReason → ModelStop
  | .stop => .endTurn
  | .toolCalls | .functionCall => .toolUse
  | .length => .maxOutput
  | .contentFilter => .contentFilter

def usageFrom (usage : Option ChatUsage) : Option ModelUsage := do
  let usage ← usage
  return ⟨← usage.promptTokens, ← usage.completionTokens⟩

def modelResponse (content : List ModelBlock) (finishReason : ChatFinishReason)
    (servedModel : Option ModelName) (usage : Option ChatUsage) :
    ModelResponse :=
  ⟨content, stopFromFinish finishReason, servedModel, usageFrom usage⟩

def readTextValue : Value → Except String String :=
  expecting "a string" LedgerText.readText

/-- Any value; an optional one is present unless it is null. -/
def readAny : Value → Except String Value :=
  .ok

/-- A fieldless variant is read from its name, or from an object of the name
and null. -/
def unitVariantName : Value → Option String
  | .string name => some name
  | .object [(name, .null)] => some name
  | _ => none

def readFinishReason (value : Value) : Except String ChatFinishReason :=
  match unitVariantName value with
  | some "stop" => .ok .stop
  | some "length" => .ok .length
  | some "tool_calls" => .ok .toolCalls
  | some "content_filter" => .ok .contentFilter
  | some "function_call" => .ok .functionCall
  | _ => .error "unknown variant of finish_reason"

def isFunctionType (value : Value) : Bool :=
  unitVariantName value == some "function"

/-- A field that has to be there. -/
def present {Result : Type} (name : String) :
    Option Result → Except String Result
  | some value => .ok value
  | none => .error s!"missing field {name}"

def ChatUsage.read (unique : Bool) (value : Value) :
    Except String ChatUsage := do
  let input ← readStruct ["prompt_tokens", "completion_tokens"] false unique
    value
  let tokens := expecting "a 32-bit unsigned integer" LedgerText.readU32
  return ⟨← input.optional "prompt_tokens" tokens,
    ← input.optional "completion_tokens" tokens⟩

def readModelName : Value → Except String ModelName :=
  expecting "a model name" (LedgerText.readIdentifier .modelName)

/-- The shape of a tool call in a body. -/
structure ToolCallShape where
  id : Option String
  toolType : Option Value
  name : Option String
  arguments : Option String

namespace ToolCallShape

def readFunction (value : Value) :
    Except String (Option String × Option String) := do
  let input ← readStruct ["name", "arguments"] false true value
  return (← input.optional "name" readTextValue,
    ← input.optional "arguments" readTextValue)

def read (value : Value) : Except String ToolCallShape := do
  let input ← readStruct ["id", "type", "function"] false true value
  let id ← input.optional "id" readTextValue
  let toolType ← input.optional "type" readAny
  let function ← input.optional "function" readFunction
  return ⟨id, toolType, function.bind (·.1), function.bind (·.2)⟩

/-- The required fields of a tool call. -/
def check (shape : ToolCallShape) : Except String ChatToolCall := do
  let id ← present "id" shape.id
  let toolType ← present "type" shape.toolType
  if !isFunctionType toolType then throw "unknown variant of type"
  let name ← present "name" shape.name
  let arguments ← present "arguments" shape.arguments
  return ⟨id, ⟨name, arguments⟩⟩

end ToolCallShape

structure ChatChoice where
  finishReason : ChatFinishReason
  content : Option String
  toolCalls : Option (List ChatToolCall)

/-- The shape of a choice in a body, with its message. -/
structure ChoiceShape where
  finishReason : Option Value
  content : Option String
  toolCalls : Option (List ToolCallShape)

namespace ChoiceShape

def readMessage (value : Value) :
    Except String (Option String × Option (List ToolCallShape)) := do
  let input ← readStruct ["content", "tool_calls"] false true value
  return (← input.optional "content" readTextValue,
    ← input.optional "tool_calls" (readSequenceOf ToolCallShape.read))

def read (value : Value) : Except String ChoiceShape := do
  let input ← readStruct ["finish_reason", "message"] false true value
  let finishReason ← input.optional "finish_reason" readAny
  let message ← input.required "message" readMessage
  return ⟨finishReason, message.1, message.2⟩

def calls (shape : ChoiceShape) : List ToolCallShape :=
  shape.toolCalls.getD []

/-- The required fields of a choice. -/
def check (shape : ChoiceShape) : Except String ChatChoice := do
  let finishReason ← present "finish_reason" shape.finishReason
  let finishReason ← readFinishReason finishReason
  let toolCalls ← shape.toolCalls.mapM (·.mapM ToolCallShape.check)
  return ⟨finishReason, shape.content, toolCalls⟩

end ChoiceShape

structure ChatCompletionResponse where
  model : Option ModelName
  choices : List ChatChoice
  usage : Option ChatUsage

/-- The shape of a body. -/
structure ResponseShape where
  model : Option ModelName
  choices : List ChoiceShape
  usage : Option ChatUsage

namespace ResponseShape

def read (value : Value) : Except String ResponseShape := do
  let input ← readStruct ["model", "choices", "usage"] false true value
  let model ← input.optional "model" readModelName
  let choices ← input.required "choices" (readSequenceOf ChoiceShape.read)
  let usage ← input.optional "usage" (ChatUsage.read true)
  return ⟨model, choices, usage⟩

def check (shape : ResponseShape) : Except String ChatCompletionResponse := do
  let choices ← shape.choices.mapM ChoiceShape.check
  return ⟨shape.model, choices, shape.usage⟩

end ResponseShape

def ChatCompletionResponse.read (value : Value) :
    Except String ChatCompletionResponse := do
  let shape ← ResponseShape.read value
  shape.check

/-- The loop over the tool calls of a choice. -/
def checkToolCalls (toolArgumentsBytes : Nat) :
    List ChatToolCall → Except ProviderError Unit
  | [] => .ok ()
  | call :: rest =>
      match validateToolCall call.function.name call.function.arguments with
      | .error error => .error error
      | .ok _ =>
          let toolArgumentsBytes :=
            toolArgumentsBytes + call.function.arguments.utf8ByteSize
          if maxToolArgumentsBytes < toolArgumentsBytes then
            .error toolArgumentsLimitError
          else checkToolCalls toolArgumentsBytes rest

def nonemptyText (text : String) : List ModelBlock :=
  if text.isEmpty then [] else [.text text]

def ChatCompletionResponse.intoModelResponse (json : JsonParser)
    (response : ChatCompletionResponse) :
    Except ProviderError ModelResponse :=
  match response.choices with
  | [] => .error (.provider "provider returned no choices")
  | choice :: _ =>
      let text := choice.content.getD ""
      let toolCalls := choice.toolCalls.getD []
      if maxAssistantTextBytes < text.utf8ByteSize then
        .error assistantTextLimitError
      else if maxToolCalls < toolCalls.length then .error toolCallLimitError
      else match checkToolCalls 0 toolCalls with
      | .error error => .error error
      | .ok _ =>
          match toolCalls.mapM fun call => toolUseFromProvider json call.id
              call.function.name call.function.arguments with
          | .error error => .error error
          | .ok blocks =>
              .ok (modelResponse (nonemptyText text ++ blocks)
                choice.finishReason response.model response.usage)

def maxNonStreamBodyBytes : Nat :=
  1024 * 1024

def parseNonStreamResponse (json : JsonParser) (body : List UInt8) :
    Except ProviderError ModelResponse :=
  if maxNonStreamBodyBytes < body.length then
    .error (.provider
      "provider response exceeded the 1 MiB non-stream body limit")
  else match json.fromSlice body >>= ChatCompletionResponse.read with
  | .error error => .error (.provider error)
  | .ok response => response.intoModelResponse json

end PlatoAgent
