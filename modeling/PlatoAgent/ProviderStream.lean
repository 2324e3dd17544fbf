import PlatoAgent.ProviderResponses

/-!
# Streamed responses of the model provider

The response of a chat completion as server-sent events: the lines of a body
under the limits of the parser, the chunks in their data, and the assembler that
puts the deltas of the first choice together.
-/

namespace PlatoAgent

structure ChatFunctionCallDelta where
  name : Option String
  arguments : Option String
  deriving DecidableEq, Repr

structure ChatToolCallDelta where
  index : Nat
  id : Option String
  function : Option ChatFunctionCallDelta
  deriving DecidableEq, Repr

structure ChatDelta where
  content : Option String
  toolCalls : List ChatToolCallDelta
  deriving DecidableEq, Repr

structure ChatChunkChoice where
  index : Nat
  delta : ChatDelta
  finishReason : Option ChatFinishReason
  deriving DecidableEq, Repr

structure ChatCompletionChunk where
  model : Option ModelName
  choices : List ChatChunkChoice
  usage : Option ChatUsage
  deriving DecidableEq, Repr

/-- The shape of a choice in a chunk. -/
structure ChunkChoiceShape where
  index : Nat
  delta : ChatDelta
  finishReason : Option Value

/-- The shape of a chunk. -/
structure ChunkShape where
  model : Option ModelName
  choices : List ChunkChoiceShape
  usage : Option ChatUsage

def readUsize (value : Value) : Except String Nat :=
  (expecting "an unsigned integer" LedgerText.readU64 value).map (·.toNat)

def ChatFunctionCallDelta.read (value : Value) :
    Except String ChatFunctionCallDelta := do
  let input ← readStruct ["name", "arguments"] false false value
  return ⟨← input.optional "name" readTextValue,
    ← input.optional "arguments" readTextValue⟩

def ChatToolCallDelta.read (value : Value) :
    Except String ChatToolCallDelta := do
  let input ← readStruct ["index", "id", "function"] false false value
  return ⟨← input.required "index" readUsize,
    ← input.optional "id" readTextValue,
    ← input.optional "function" ChatFunctionCallDelta.read⟩

def ChatDelta.read (value : Value) : Except String ChatDelta := do
  let input ← readStruct ["content", "tool_calls"] false false value
  return ⟨← input.optional "content" readTextValue,
    ← input.defaulted "tool_calls" [] (readSequenceOf ChatToolCallDelta.read)⟩

def ChunkChoiceShape.read (value : Value) :
    Except String ChunkChoiceShape := do
  let input ← readStruct ["index", "delta", "finish_reason"] false false value
  return ⟨← input.defaulted "index" 0 readUsize,
    ← input.defaulted "delta" ⟨none, []⟩ ChatDelta.read,
    ← input.optional "finish_reason" readAny⟩

def ChunkChoiceShape.check (shape : ChunkChoiceShape) :
    Except String ChatChunkChoice := do
  let finishReason ← shape.finishReason.mapM readFinishReason
  return ⟨shape.index, shape.delta, finishReason⟩

def ChunkShape.read (value : Value) : Except String ChunkShape := do
  let input ← readStruct ["model", "choices", "usage"] false false value
  return ⟨← input.optional "model" readModelName,
    ← input.defaulted "choices" [] (readSequenceOf ChunkChoiceShape.read),
    ← input.optional "usage" (ChatUsage.read false)⟩

def ChunkShape.check (shape : ChunkShape) :
    Except String ChatCompletionChunk := do
  let choices ← shape.choices.mapM ChunkChoiceShape.check
  return ⟨shape.model, choices, shape.usage⟩

def ChatCompletionChunk.read (value : Value) :
    Except String ChatCompletionChunk := do
  let shape ← ChunkShape.read value
  shape.check

structure StreamingToolCall where
  id : Option String
  name : String
  arguments : String
  deriving DecidableEq, Repr

def StreamingToolCall.default : StreamingToolCall :=
  ⟨none, "", ""⟩

/-- The tool calls by index, in order. -/
abbrev ToolCallMap : Type :=
  List (Nat × StreamingToolCall)

namespace ToolCallMap

def get? (calls : ToolCallMap) (index : Nat) : Option StreamingToolCall :=
  calls.lookup index

/-- `entry(index).or_default()`, and the change of the entry. -/
def modify (calls : ToolCallMap) (index : Nat)
    (change : StreamingToolCall → StreamingToolCall) : ToolCallMap :=
  match calls with
  | [] => [(index, change .default)]
  | (key, call) :: rest =>
      if index < key then (index, change .default) :: (key, call) :: rest
      else if index = key then (key, change call) :: rest
      else (key, call) :: ToolCallMap.modify rest index change

end ToolCallMap

structure StreamingAssembler where
  text : String
  toolCalls : ToolCallMap
  toolArgumentsBytes : Nat
  finishReason : Option ChatFinishReason
  servedModel : Option ModelName
  usage : Option ChatUsage
  deriving DecidableEq, Repr

def StreamingAssembler.default : StreamingAssembler :=
  ⟨"", [], 0, none, none, none⟩

def conflictingServedModelError : ProviderError :=
  .provider "provider stream returned conflicting served model values"

namespace ChatToolCallDelta

/-- The name that a delta adds. -/
def addedName (delta : ChatToolCallDelta) : String :=
  (delta.function.bind (·.name)).getD ""

/-- The arguments that a delta adds. -/
def addedArguments (delta : ChatToolCallDelta) : String :=
  (delta.function.bind (·.arguments)).getD ""

/-- The update of the entry of a delta; an empty id is left out. -/
def update (delta : ChatToolCallDelta) (entry : StreamingToolCall) :
    StreamingToolCall where
  id := (delta.id.filter fun id => !id.isEmpty).or entry.id
  name := entry.name ++ delta.addedName
  arguments := entry.arguments ++ delta.addedArguments

/-- The limits that a delta with a function is checked against. -/
def checkLimits (delta : ChatToolCallDelta) (current : StreamingToolCall)
    (toolArgumentsBytes : Nat) : Except ProviderError Unit :=
  if delta.function.isNone then .ok ()
  else if maxToolNameBytes <
      current.name.utf8ByteSize + delta.addedName.utf8ByteSize then
    .error toolNameLimitError
  else if maxToolArgumentBytes <
      current.arguments.utf8ByteSize + delta.addedArguments.utf8ByteSize then
    .error toolArgumentLimitError
  else if maxToolArgumentsBytes <
      toolArgumentsBytes + delta.addedArguments.utf8ByteSize then
    .error toolArgumentsLimitError
  else .ok ()

end ChatToolCallDelta

/-- The assembler, with the texts that were passed to `on_delta`. -/
structure StreamRun where
  assembler : StreamingAssembler
  deltas : List String
  deriving DecidableEq, Repr

namespace StreamingAssembler

def applyToolCall (assembler : StreamingAssembler)
    (delta : ChatToolCallDelta) : Except ProviderError StreamingAssembler :=
  if maxToolCallIndex < delta.index then .error toolCallLimitError
  else if (assembler.toolCalls.get? delta.index).isNone &&
      assembler.toolCalls.length == maxToolCalls then
    .error toolCallLimitError
  else match delta.checkLimits
      ((assembler.toolCalls.get? delta.index).getD .default)
      assembler.toolArgumentsBytes with
  | .error error => .error error
  | .ok _ => .ok { assembler with
      toolCalls := assembler.toolCalls.modify delta.index delta.update
      toolArgumentsBytes := assembler.toolArgumentsBytes +
        delta.addedArguments.utf8ByteSize }

def applyToolCalls (assembler : StreamingAssembler)
    (deltas : List ChatToolCallDelta) :
    Except ProviderError StreamingAssembler :=
  deltas.foldlM applyToolCall assembler

end StreamingAssembler

namespace StreamRun

/-- The text of a delta is passed on and appended. -/
def applyText (run : StreamRun) (content : Option String) :
    Except ProviderError StreamRun :=
  match content.filter fun text => !text.isEmpty with
  | none => .ok run
  | some text =>
      if maxAssistantTextBytes <
          run.assembler.text.utf8ByteSize + text.utf8ByteSize then
        .error assistantTextLimitError
      else .ok {
        assembler := { run.assembler with text := run.assembler.text ++ text }
        deltas := run.deltas ++ [text] }

def applyChoice (run : StreamRun) (choice : ChatChunkChoice) :
    Except ProviderError StreamRun :=
  if choice.index ≠ 0 then .ok run
  else do
    let run ← run.applyText choice.delta.content
    let assembler ← run.assembler.applyToolCalls choice.delta.toolCalls
    return { run with assembler := { assembler with
      finishReason := choice.finishReason.or assembler.finishReason } }

def applyModel (run : StreamRun) (model : Option ModelName) :
    Except ProviderError StreamRun :=
  match model, run.assembler.servedModel with
  | none, _ => .ok run
  | some servedModel, some first =>
      if first = servedModel then .ok run
      else .error conflictingServedModelError
  | some servedModel, none => .ok { run with assembler := { run.assembler with
      servedModel := some servedModel } }

def applyChunk (run : StreamRun) (chunk : ChatCompletionChunk) :
    Except ProviderError StreamRun := do
  let run ← run.applyModel chunk.model
  let run := { run with assembler := { run.assembler with
    usage := chunk.usage.or run.assembler.usage } }
  chunk.choices.foldlM applyChoice run

end StreamRun

/-- The block of an assembled tool call. -/
def StreamingToolCall.intoBlock (json : JsonParser) (call : StreamingToolCall) :
    Except ProviderError ModelBlock :=
  match call.id with
  | none => .error (.provider "provider stream returned tool call without id")
  | some id => toolUseFromProvider json id call.name call.arguments

def StreamingAssembler.intoModelResponse (json : JsonParser)
    (assembler : StreamingAssembler) : Except ProviderError ModelResponse :=
  match assembler.toolCalls.mapM fun entry => entry.2.intoBlock json with
  | .error error => .error error
  | .ok blocks =>
      match assembler.finishReason with
      | none => .error
          (.provider "provider stream ended without finish_reason")
      | some finishReason =>
          .ok (modelResponse (nonemptyText assembler.text ++ blocks)
            finishReason assembler.servedModel assembler.usage)

def maxDecodedResponseBytes : Nat :=
  8 * 1024 * 1024

def maxSseEventBytes : Nat :=
  1024 * 1024

/-- `take(limit)` and `read_until` a newline. -/
def takeLine : Nat → List UInt8 → List UInt8 × List UInt8
  | _, [] => ([], [])
  | 0, bytes => ([], bytes)
  | limit + 1, byte :: rest =>
      if byte = 10 then ([byte], rest)
      else (byte :: (takeLine limit rest).1, (takeLine limit rest).2)

theorem takeLine_append (limit : Nat) (bytes : List UInt8) :
    (takeLine limit bytes).1 ++ (takeLine limit bytes).2 = bytes := by
  induction bytes generalizing limit with
  | nil => cases limit <;> rfl
  | cons byte rest ih =>
      cases limit with
      | zero => rfl
      | succ limit =>
          unfold takeLine
          split
          · rfl
          · rw [List.cons_append, ih]

theorem takeLine_shorter {limit : Nat} {bytes : List UInt8}
    (some? : ¬ (takeLine limit bytes).1.isEmpty = true) :
    (takeLine limit bytes).2.length < bytes.length := by
  have parts := congrArg List.length (takeLine_append limit bytes)
  rw [List.isEmpty_iff] at some?
  have positive := List.length_pos_iff.mpr some?
  rw [List.length_append] at parts
  omega

/-- A line is cut at its newline. -/
theorem takeLine_line {line : List UInt8} (noNewline : 10 ∉ line)
    {limit : Nat} (fits : line.length < limit) (rest : List UInt8) :
    takeLine limit (line ++ 10 :: rest) = (line ++ [10], rest) := by
  induction line generalizing limit with
  | nil =>
      cases limit with
      | zero => omega
      | succ limit => rfl
  | cons byte others ih =>
      cases limit with
      | zero => omega
      | succ limit =>
          rw [List.mem_cons, not_or] at noNewline
          rw [List.length_cons] at fits
          have cut := @ih noNewline.2 limit (by omega)
          rw [List.cons_append, takeLine, if_neg (Ne.symm noNewline.1), cut]
          rfl

/-- One line of an event; whether it ends the event, and the data so far. -/
def appendStreamLine (line : List UInt8) (eventData : String) :
    Except ProviderError (Bool × String) :=
  match String.fromUTF8? line.toByteArray with
  | none => .error .io
  | some text =>
      let line := text.toList.rdropWhile (· == '\r')
      if line.isEmpty then .ok (true, eventData)
      else if "data:".toList.isPrefixOf line then
        let data := String.ofList ((line.drop 5).dropWhile isWhitespace)
        .ok (false,
          (if eventData.isEmpty then eventData else eventData ++ "\n") ++ data)
      else .ok (false, eventData)

def trimmed (text : String) : String :=
  String.ofList ((text.toList.dropWhile isWhitespace).rdropWhile isWhitespace)

/-- The data of one event; whether it is the last. -/
def processStreamData (json : JsonParser) (data : String) (run : StreamRun) :
    Except ProviderError (Bool × StreamRun) :=
  if trimmed data = "[DONE]" then .ok (true, run)
  else match json.fromStr data with
  | .error error => .error
      (.provider s!"provider returned invalid SSE JSON: {error}")
  | .ok value =>
      if (value.entry "error").isSome then
        .error (.provider "provider stream returned an error event")
      else match ChatCompletionChunk.read value with
      | .error error => .error
          (.provider s!"provider returned invalid SSE chunk: {error}")
      | .ok chunk => (run.applyChunk chunk).map fun run => (false, run)

/-- The variables of the loop over the lines. -/
structure StreamState where
  line : List UInt8
  eventData : String
  decodedBytes : Nat
  eventBytes : Nat
  run : StreamRun

def StreamState.start : StreamState :=
  ⟨[], "", 0, 0, ⟨.default, []⟩⟩

/-- The loop over the lines, up to the last event or the end of the bytes. -/
def streamLoop (json : JsonParser) (bytes : List UInt8) (state : StreamState) :
    Except ProviderError (Bool × StreamState) :=
  let remaining := min (maxDecodedResponseBytes - state.decodedBytes)
    (maxSseEventBytes - state.eventBytes)
  let read := (takeLine (remaining + 1) bytes).1
  if read.isEmpty then .ok (false, state)
  else
    let rest := (takeLine (remaining + 1) bytes).2
    let line := state.line ++ read
    let decodedBytes := state.decodedBytes + read.length
    let eventBytes := state.eventBytes + read.length
    if maxDecodedResponseBytes < decodedBytes then
      .error (.provider
        "provider response exceeded the 8 MiB decoded data limit")
    else if maxSseEventBytes < eventBytes then
      .error (.provider "provider response exceeded the 1 MiB SSE event limit")
    else if line.getLast? = some 10 then
      match appendStreamLine line.dropLast state.eventData with
      | .error error => .error error
      | .ok (false, eventData) =>
          streamLoop json rest ⟨[], eventData, decodedBytes, eventBytes,
            state.run⟩
      | .ok (true, eventData) =>
          if eventData.isEmpty then
            streamLoop json rest ⟨[], eventData, decodedBytes, 0, state.run⟩
          else match processStreamData json eventData state.run with
          | .error error => .error error
          | .ok (true, run) =>
              .ok (true, ⟨line.dropLast, eventData, decodedBytes, eventBytes,
                run⟩)
          | .ok (false, run) =>
              streamLoop json rest ⟨[], "", decodedBytes, 0, run⟩
    else
      streamLoop json rest ⟨line, state.eventData, decodedBytes, eventBytes,
        state.run⟩
termination_by bytes.length
decreasing_by
  all_goals exact takeLine_shorter (by assumption)

/-- The data that is left when the bytes end is one more event. -/
def finishStream (json : JsonParser) (state : StreamState) :
    Except ProviderError (Bool × StreamRun) := do
  let eventData ←
    if state.line.isEmpty then pure state.eventData
    else (appendStreamLine state.line state.eventData).map (·.2)
  if eventData.isEmpty then return (false, state.run)
  processStreamData json eventData state.run

/-- `parse_chat_completion_stream`, with the texts that were passed to
`on_delta`. -/
def parseChatCompletionStream (json : JsonParser) (bytes : List UInt8) :
    Except ProviderError (ModelResponse × List String) := do
  let (sawDone, state) ← streamLoop json bytes .start
  let (sawDone, run) ←
    if sawDone then pure (true, state.run) else finishStream json state
  if !sawDone then
    throw (.provider "provider stream ended before [DONE]")
  let response ← run.assembler.intoModelResponse json
  return (response, run.deltas)

end PlatoAgent
