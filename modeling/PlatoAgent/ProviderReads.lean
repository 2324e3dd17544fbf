import PlatoAgent.ProviderAssembly

/-!
# Reading a streamed response

The loop over the lines of a response as it arrives in reads.  A text is passed
on before the next part is looked at, so the texts are kept when a later part is
refused; a subtraction that would underflow is a failure of its own.
-/

namespace PlatoAgent

/-- `take(limit)` and `read_until` a newline, buffer by buffer. -/
def readBuffers : Nat → List (List UInt8) → List UInt8 × List (List UInt8)
  | _, [] => ([], [])
  | limit, buffer :: later =>
      let line := (takeLine limit buffer).1
      let rest := (takeLine limit buffer).2
      if rest.isEmpty && line.getLast? != some 10 then
        let more := readBuffers (limit - buffer.length) later
        (line ++ more.1, more.2)
      else (line, if rest.isEmpty then later else rest :: later)

theorem getLast?_cons_ne {byte : UInt8} (notNewline : byte ≠ 10)
    (line : List UInt8) :
    ((byte :: line).getLast? != some 10) = (line.getLast? != some 10) := by
  cases line with
  | nil =>
      have different : (some byte != some (10 : UInt8)) = true :=
        bne_iff_ne.mpr fun same => notNewline (Option.some.inj same)
      exact different
  | cons next rest => rw [List.getLast?_cons_cons]

/-- The line of two parts is that of the first, unless it is all of it. -/
theorem takeLine_split (limit : Nat) (first second : List UInt8) :
    takeLine limit (first ++ second) =
      if (takeLine limit first).2.isEmpty &&
          (takeLine limit first).1.getLast? != some 10 then
        ((takeLine limit first).1 ++ (takeLine (limit - first.length) second).1,
          (takeLine (limit - first.length) second).2)
      else ((takeLine limit first).1, (takeLine limit first).2 ++ second) := by
  induction first generalizing limit with
  | nil => cases limit <;> rfl
  | cons byte rest ih =>
      cases limit with
      | zero => rfl
      | succ limit =>
          rw [List.cons_append, takeLine, takeLine]
          by_cases isNewline : byte = 10
          · rw [if_pos isNewline, if_pos isNewline, isNewline]
            simp
          · rw [if_neg isNewline, if_neg isNewline, ih]
            dsimp only
            rw [getLast?_cons_ne isNewline, List.length_cons,
              Nat.add_sub_add_right]
            split <;> rfl

/-- The reads together read as their bytes. -/
theorem readBuffers_flatten (limit : Nat) (buffers : List (List UInt8)) :
    (readBuffers limit buffers).1 = (takeLine limit buffers.flatten).1 ∧
    (readBuffers limit buffers).2.flatten =
      (takeLine limit buffers.flatten).2 := by
  induction buffers generalizing limit with
  | nil => cases limit <;> exact ⟨rfl, rfl⟩
  | cons buffer later ih =>
      have more := ih (limit - buffer.length)
      unfold readBuffers
      rw [List.flatten_cons, takeLine_split]
      dsimp only
      by_cases goesOn : ((takeLine limit buffer).2.isEmpty &&
          (takeLine limit buffer).1.getLast? != some 10) = true
      · rw [if_pos goesOn, if_pos goesOn, more.1]
        exact ⟨rfl, more.2⟩
      · rw [if_neg goesOn, if_neg goesOn]
        refine ⟨rfl, ?_⟩
        dsimp only
        split
        next isEmpty =>
          rw [List.isEmpty_iff.mp isEmpty]
          rfl
        next => rfl

theorem readBuffers_nonempty (limit : Nat) {buffers : List (List UInt8)}
    (nonempty : ∀ buffer ∈ buffers, buffer ≠ []) :
    ∀ buffer ∈ (readBuffers limit buffers).2, buffer ≠ [] := by
  induction buffers generalizing limit with
  | nil =>
      intro buffer member
      cases member
  | cons buffer later ih =>
      have others : ∀ buffer ∈ later, buffer ≠ [] := fun other member =>
        nonempty other (List.mem_cons_of_mem _ member)
      unfold readBuffers
      dsimp only
      split
      · exact ih _ others
      · dsimp only
        split
        · exact others
        next notEmpty =>
          rw [List.isEmpty_iff] at notEmpty
          intro other member
          rcases List.mem_cons.mp member with rfl | isLater
          · exact notEmpty
          · exact others other isLater

/-- The reads that a body arrives in; an empty read is the end. -/
structure Reads where
  buffers : List (List UInt8)
  nonempty : ∀ buffer ∈ buffers, buffer ≠ []

namespace Reads

def bytes (reads : Reads) : List UInt8 :=
  reads.buffers.flatten

def line (reads : Reads) (limit : Nat) : List UInt8 :=
  (readBuffers limit reads.buffers).1

/-- What is left after a line. -/
def rest (reads : Reads) (limit : Nat) : Reads where
  buffers := (readBuffers limit reads.buffers).2
  nonempty := readBuffers_nonempty limit reads.nonempty

theorem line_eq (reads : Reads) (limit : Nat) :
    reads.line limit = (takeLine limit reads.bytes).1 :=
  (readBuffers_flatten limit reads.buffers).1

theorem bytes_rest (reads : Reads) (limit : Nat) :
    (reads.rest limit).bytes = (takeLine limit reads.bytes).2 :=
  (readBuffers_flatten limit reads.buffers).2

theorem rest_shorter {reads : Reads} {limit : Nat}
    (some? : ¬ (reads.line limit).isEmpty = true) :
    (reads.rest limit).bytes.length < reads.bytes.length := by
  rw [line_eq] at some?
  rw [bytes_rest]
  exact takeLine_shorter some?

end Reads

/-- Why a stream is given up. -/
inductive StreamFailure where
  | refused (error : ProviderError)
  | underflow
  deriving DecidableEq, Repr

/-- A computation that passes texts on, also when it fails afterwards. -/
abbrev Emitting (Result : Type) : Type :=
  ExceptT StreamFailure (StateM (List String)) Result

namespace Emitting

variable {Result : Type}

/-- The result, and all texts that were passed on. -/
def after (computation : Emitting Result) (texts : List String) :
    Except StreamFailure Result × List String :=
  ExceptT.run computation texts

theorem after_bind {Next : Type} (computation : Emitting Result)
    (next : Result → Emitting Next) (texts : List String) :
    (computation >>= next).after texts =
      match computation.after texts with
      | (.ok result, more) => (next result).after more
      | (.error failure, more) => (.error failure, more) := by
  have unfolded : (computation >>= next).after texts =
      ExceptT.bindCont next (computation.after texts).1
        (computation.after texts).2 := rfl
  rw [unfolded]
  cases computation.after texts with
  | mk outcome more => cases outcome <;> rfl

theorem ext_after {first second : Emitting Result}
    (same : ∀ texts, first.after texts = second.after texts) :
    first = second :=
  funext same

/-- `on_delta`. -/
def emit (text : String) : Emitting Unit :=
  modify (· ++ [text])

def refuse (error : ProviderError) : Emitting Result :=
  throw (.refused error)

/-- `?` on a result. -/
def attempt : Except ProviderError Result → Emitting Result
  | .ok result => pure result
  | .error error => refuse error

end Emitting

open Emitting

namespace StreamingAssembler

def emitModel (assembler : StreamingAssembler) (model : Option ModelName) :
    Emitting StreamingAssembler :=
  match model, assembler.servedModel with
  | none, _ => pure assembler
  | some servedModel, some first =>
      if first = servedModel then pure assembler
      else refuse conflictingServedModelError
  | some servedModel, none =>
      pure { assembler with servedModel := some servedModel }

def emitText (assembler : StreamingAssembler) (content : Option String) :
    Emitting StreamingAssembler :=
  match content.filter fun text => !text.isEmpty with
  | none => pure assembler
  | some text => do
      if maxAssistantTextBytes <
          assembler.text.utf8ByteSize + text.utf8ByteSize then
        refuse assistantTextLimitError
      emit text
      return { assembler with text := assembler.text ++ text }

def emitChoice (assembler : StreamingAssembler) (choice : ChatChunkChoice) :
    Emitting StreamingAssembler :=
  if choice.index ≠ 0 then pure assembler
  else do
    let assembler ← assembler.emitText choice.delta.content
    let assembler ← attempt (assembler.applyToolCalls choice.delta.toolCalls)
    return { assembler with
      finishReason := choice.finishReason.or assembler.finishReason }

/-- `apply_chunk`. -/
def emitChunk (assembler : StreamingAssembler) (chunk : ChatCompletionChunk) :
    Emitting StreamingAssembler := do
  let assembler ← assembler.emitModel chunk.model
  let assembler := { assembler with
    usage := chunk.usage.or assembler.usage }
  chunk.choices.foldlM emitChoice assembler

/-- `process_stream_data`: the assembler, and whether the event is the last. -/
def emitData (json : JsonParser) (data : String)
    (assembler : StreamingAssembler) : Emitting (Bool × StreamingAssembler) :=
  if trimmed data = "[DONE]" then pure (true, assembler)
  else match json.fromStr data with
  | .error error => refuse
      (.provider s!"provider returned invalid SSE JSON: {error}")
  | .ok value =>
      if (value.entry "error").isSome then
        refuse (.provider "provider stream returned an error event")
      else match ChatCompletionChunk.read value with
      | .error error => refuse
          (.provider s!"provider returned invalid SSE chunk: {error}")
      | .ok chunk => do
          let assembler ← assembler.emitChunk chunk
          return (false, assembler)

end StreamingAssembler

/-- The variables of the loop, without the reader. -/
structure ReadState where
  line : List UInt8
  eventData : String
  decodedBytes : Nat
  eventBytes : Nat
  assembler : StreamingAssembler

def ReadState.start : ReadState :=
  ⟨[], "", 0, 0, .default⟩

/-- A loop ends with its last event, or goes on from a state. -/
inductive Progress (State : Type) where
  | sawDone (assembler : StreamingAssembler)
  | more (state : State)

/-- A subtraction of unsigned numbers. -/
def checkedSub (limit used : Nat) : Emitting Nat :=
  if used ≤ limit then pure (limit - used) else throw .underflow

def totalLimitError : ProviderError :=
  .provider "provider response exceeded the 8 MiB decoded data limit"

def eventLimitError : ProviderError :=
  .provider "provider response exceeded the 1 MiB SSE event limit"

/-- The body of the loop after a read of some bytes. -/
def readLine (json : JsonParser) (state : ReadState) (read : List UInt8) :
    Emitting (Progress ReadState) := do
  let line := state.line ++ read
  let decodedBytes := state.decodedBytes + read.length
  if maxDecodedResponseBytes < decodedBytes then refuse totalLimitError
  let eventBytes := state.eventBytes + read.length
  if maxSseEventBytes < eventBytes then refuse eventLimitError
  if line.getLast? = some 10 then
    let (blank, eventData) ←
      attempt (appendStreamLine line.dropLast state.eventData)
    if blank then
      if eventData.isEmpty then
        return .more ⟨[], eventData, decodedBytes, 0, state.assembler⟩
      let (isLast, assembler) ← state.assembler.emitData json eventData
      if isLast then return .sawDone assembler
      return .more ⟨[], "", decodedBytes, 0, assembler⟩
    return .more ⟨[], eventData, decodedBytes, eventBytes, state.assembler⟩
  return .more ⟨line, state.eventData, decodedBytes, eventBytes,
    state.assembler⟩

def readLoop (json : JsonParser) (reads : Reads) (state : ReadState) :
    Emitting (Progress ReadState) := do
  let total ← checkedSub maxDecodedResponseBytes state.decodedBytes
  let event ← checkedSub maxSseEventBytes state.eventBytes
  let remaining := min total event
  if _ended : (reads.line (remaining + 1)).isEmpty = true then
    return .more state
  else
    let progress ← readLine json state (reads.line (remaining + 1))
    match progress with
    | .sawDone assembler => return .sawDone assembler
    | .more state => readLoop json (reads.rest (remaining + 1)) state
termination_by reads.bytes.length
decreasing_by exact Reads.rest_shorter _ended

/-- After the loop: the data that is left is one more event. -/
def readTail (json : JsonParser) (state : ReadState) :
    Emitting (Progress ReadState) := do
  let (blank, eventData) ←
    if state.line.isEmpty then pure (false, state.eventData)
    else attempt (appendStreamLine state.line state.eventData)
  if blank then
    if eventData.isEmpty then return .more { state with eventData := "" }
    let (isLast, assembler) ← state.assembler.emitData json eventData
    if isLast then return .sawDone assembler
    return .more { state with eventData := "", assembler := assembler }
  if eventData.isEmpty then return .more { state with eventData := eventData }
  let (isLast, assembler) ← state.assembler.emitData json eventData
  if isLast then return .sawDone assembler
  return .more { state with eventData := eventData, assembler := assembler }

def endedBeforeDoneError : ProviderError :=
  .provider "provider stream ended before [DONE]"

/-- `parse_chat_completion_stream`. -/
def readStream (json : JsonParser) (reads : Reads) :
    Emitting ModelResponse := do
  let progress ← readLoop json reads .start
  let progress ← match progress with
    | .sawDone assembler => pure (.sawDone assembler)
    | .more state => readTail json state
  match progress with
  | .sawDone assembler => attempt (assembler.intoModelResponse json)
  | .more _ => refuse endedBeforeDoneError

end PlatoAgent
