import PlatoAgent.ProviderAssembly

/-!
# A stream of events

The bytes of a sequence of server-sent events, and what the loop over the lines
does on them: every event applies its chunk, and the last one ends the loop.
-/

namespace PlatoAgent

/-- A line ends with a newline, which a carriage return can precede. -/
inductive LineEnd where
  | lf | crlf
  deriving DecidableEq

namespace LineEnd

def beforeNewline : LineEnd → String
  | .lf => ""
  | .crlf => "\r"

end LineEnd

def textBytes (text : String) : List UInt8 :=
  text.toList.flatMap String.utf8EncodeChar

/-- The bytes of a line. -/
def eventLineBytes (text : String) (lineEnd : LineEnd) : List UInt8 :=
  textBytes (text ++ lineEnd.beforeNewline) ++ [10]

/-- An event has a line of data and an empty line. -/
def eventBytes (data : String) (lineEnd : LineEnd) : List UInt8 :=
  eventLineBytes ("data: " ++ data) lineEnd ++ eventLineBytes "" lineEnd

/-- An event with a chunk: an object on one line. -/
structure ChunkEvent (json : JsonParser) where
  data : String
  lineEnd : LineEnd
  shape : ChunkShape
  opens : data.toList.head? = some '{'
  closes : data.toList.getLast? = some '}'
  oneLine : '\n' ∉ data.toList
  value : Value
  parses : json.fromStr data = .ok value
  noError : value.entry "error" = none
  reads : ChunkShape.read value = .ok shape

def ChunkEvent.bytes {json : JsonParser} (event : ChunkEvent json) :
    List UInt8 :=
  eventBytes event.data event.lineEnd

/-- The bytes of a response: its chunks, and the end. -/
def streamBytes {json : JsonParser} (events : List (ChunkEvent json))
    (lineEnd : LineEnd) : List UInt8 :=
  events.flatMap ChunkEvent.bytes ++ eventBytes "[DONE]" lineEnd

theorem fromUTF8?_textBytes (text : String) :
    String.fromUTF8? (textBytes text).toByteArray = some text := by
  have same : (textBytes text).toByteArray = text.toByteArray := by
    have encoded := @String.toByteArray_ofList text.toList
    rw [String.ofList_toList] at encoded
    exact encoded.symm
  rw [same, String.fromUTF8?, dif_pos text.isValidUTF8]
  rfl

theorem newline_not_mem_utf8EncodeChar {character : Char}
    (notNewline : character ≠ '\n') :
    10 ∉ String.utf8EncodeChar character := by
  have different : character.val.toNat ≠ 10 := by
    intro same
    exact notNewline (Char.ext (UInt32.toNat_inj.mp same))
  fun_cases String.utf8EncodeChar character <;>
    simp only [List.mem_cons, List.not_mem_nil, or_false, ← UInt8.toNat_inj,
      UInt8.toNat_ofNat, UInt8.toNat_ofNat'] <;>
    omega

theorem newline_not_mem_textBytes {text : String}
    (oneLine : '\n' ∉ text.toList) : 10 ∉ textBytes text := by
  intro member
  obtain ⟨character, inText, inBytes⟩ := List.mem_flatMap.mp member
  have notNewline : character ≠ '\n' := fun same => oneLine (same ▸ inText)
  exact newline_not_mem_utf8EncodeChar notNewline inBytes

theorem rdropWhile_return {characters : List Char} {last : Char}
    (closes : characters.getLast? = some last) (notReturn : last ≠ '\r')
    (lineEnd : LineEnd) :
    (characters ++ lineEnd.beforeNewline.toList).rdropWhile (· == '\r') =
      characters := by
  obtain ⟨front, rfl⟩ := List.getLast?_eq_some_iff.mp closes
  have keeps : (front ++ [last]).rdropWhile (· == '\r') = front ++ [last] :=
    List.rdropWhile_concat_neg _ _ _ (by simpa using notReturn)
  cases lineEnd with
  | lf => exact (congrArg _ (List.append_nil _)).trans keeps
  | crlf => exact (List.rdropWhile_concat_pos _ _ _ rfl).trans keeps

/-- The data of a line is taken as it is, when it does not start blank. -/
theorem appendStreamLine_data {data : String} {first last : Char}
    (opens : data.toList.head? = some first)
    (notBlank : isWhitespace first = false)
    (closes : data.toList.getLast? = some last) (notReturn : last ≠ '\r')
    (lineEnd : LineEnd) :
    appendStreamLine (textBytes ("data: " ++ data ++ lineEnd.beforeNewline))
      "" = .ok (false, data) := by
  have characters : ("data: " ++ data ++ lineEnd.beforeNewline).toList =
      ("data: ".toList ++ data.toList) ++ lineEnd.beforeNewline.toList := by
    rw [String.toList_append, String.toList_append]
  have lastOfLine : ("data: ".toList ++ data.toList).getLast? = some last := by
    rw [List.getLast?_append, closes]
    rfl
  obtain ⟨rest, isCons⟩ := List.head?_eq_some_iff.mp opens
  have trimmed : (("data: ".toList ++ data.toList).drop 5).dropWhile
      isWhitespace = data.toList := by
    show List.dropWhile isWhitespace (' ' :: data.toList) = data.toList
    rw [List.dropWhile_cons_of_pos rfl, isCons,
      List.dropWhile_cons_of_neg (by simp [notBlank])]
  unfold appendStreamLine
  rw [fromUTF8?_textBytes]
  dsimp only
  rw [characters, rdropWhile_return lastOfLine notReturn, trimmed,
    String.ofList_toList]
  rfl

theorem appendStreamLine_empty (lineEnd : LineEnd) (data : String) :
    appendStreamLine (textBytes ("" ++ lineEnd.beforeNewline)) data =
      .ok (true, data) := by
  unfold appendStreamLine
  rw [fromUTF8?_textBytes]
  cases lineEnd <;> rfl

/-- The limits leave room for a line and its newline. -/
structure StreamState.Room (state : StreamState) (length : Nat) : Prop where
  fresh : state.line = []
  decoded : state.decodedBytes + (length + 1) ≤ maxDecodedResponseBytes
  event : state.eventBytes + (length + 1) ≤ maxSseEventBytes

theorem takeLine_room {line : List UInt8} (noNewline : 10 ∉ line)
    {state : StreamState} (room : state.Room line.length) (rest : List UInt8) :
    takeLine (min (maxDecodedResponseBytes - state.decodedBytes)
      (maxSseEventBytes - state.eventBytes) + 1) (line ++ [10] ++ rest) =
        (line ++ [10], rest) := by
  have decoded := room.decoded
  have event := room.event
  rw [List.append_assoc]
  exact takeLine_line noNewline (by omega) rest

/-- A line that does not end the event is added to its data. -/
theorem streamLoop_data (json : JsonParser) {line : List UInt8}
    (noNewline : 10 ∉ line) {state : StreamState}
    (room : state.Room line.length) (rest : List UInt8) {data : String}
    (appended : appendStreamLine line state.eventData = .ok (false, data)) :
    streamLoop json (line ++ [10] ++ rest) state =
      streamLoop json rest ⟨[], data, state.decodedBytes + (line.length + 1),
        state.eventBytes + (line.length + 1), state.run⟩ := by
  have notEmpty : (line ++ [(10 : UInt8)]).isEmpty = false := by simp
  have length : (line ++ [(10 : UInt8)]).length = line.length + 1 := by simp
  have last : (line ++ [(10 : UInt8)]).getLast? = some 10 := by simp
  rw [streamLoop]
  dsimp only
  rw [takeLine_room noNewline room]
  dsimp only
  rw [notEmpty, room.fresh, List.nil_append, length, last,
    if_neg Bool.false_ne_true, if_neg (Nat.not_lt.mpr room.decoded),
    if_neg (Nat.not_lt.mpr room.event), if_pos rfl, List.dropLast_concat,
    appended]

/-- The line that ends an event with data has the data processed. -/
theorem streamLoop_process (json : JsonParser) {line : List UInt8}
    (noNewline : 10 ∉ line) {state : StreamState}
    (room : state.Room line.length) (rest : List UInt8) {data : String}
    (appended : appendStreamLine line state.eventData = .ok (true, data))
    (notEmpty : data.isEmpty = false) :
    (streamLoop json (line ++ [10] ++ rest) state).toOption =
      (processStreamData json data state.run).toOption.bind fun result =>
        if result.1 then
          some (true, ⟨line, data, state.decodedBytes + (line.length + 1),
            state.eventBytes + (line.length + 1), result.2⟩)
        else (streamLoop json rest ⟨[], "",
          state.decodedBytes + (line.length + 1), 0, result.2⟩).toOption := by
  have someBytes : (line ++ [(10 : UInt8)]).isEmpty = false := by simp
  have length : (line ++ [(10 : UInt8)]).length = line.length + 1 := by simp
  have last : (line ++ [(10 : UInt8)]).getLast? = some 10 := by simp
  rw [streamLoop]
  dsimp only
  rw [takeLine_room noNewline room]
  dsimp only
  rw [someBytes, room.fresh, List.nil_append, length, last,
    if_neg Bool.false_ne_true, if_neg (Nat.not_lt.mpr room.decoded),
    if_neg (Nat.not_lt.mpr room.event), if_pos rfl, List.dropLast_concat,
    appended]
  dsimp only
  rw [notEmpty, if_neg Bool.false_ne_true]
  cases processStreamData json data state.run with
  | error error => rfl
  | ok result =>
      obtain ⟨isLast, run⟩ := result
      cases isLast <;> rfl

theorem length_eventLineBytes (text : String) (lineEnd : LineEnd) :
    (eventLineBytes text lineEnd).length =
      (textBytes (text ++ lineEnd.beforeNewline)).length + 1 := by
  unfold eventLineBytes
  rw [List.length_append, List.length_singleton]

theorem beforeNewline_oneLine (lineEnd : LineEnd) :
    '\n' ∉ lineEnd.beforeNewline.toList := by
  cases lineEnd <;> decide

/-- An event with data on one line has its data processed. -/
theorem streamLoop_event (json : JsonParser) {data : String}
    (lineEnd : LineEnd) {first last : Char}
    (opens : data.toList.head? = some first)
    (notBlank : isWhitespace first = false)
    (closes : data.toList.getLast? = some last) (notReturn : last ≠ '\r')
    (oneLine : '\n' ∉ data.toList) {decoded : Nat} (run : StreamRun)
    (decodedFits : decoded + (eventBytes data lineEnd).length ≤
      maxDecodedResponseBytes)
    (eventFits : (eventBytes data lineEnd).length ≤ maxSseEventBytes)
    (rest : List UInt8) :
    ∃ state : StreamState, state.run = run ∧
    (streamLoop json (eventBytes data lineEnd ++ rest)
      ⟨[], "", decoded, 0, run⟩).toOption =
      (processStreamData json data run).toOption.bind fun result =>
        if result.1 then some (true, { state with run := result.2 })
        else (streamLoop json rest ⟨[], "",
          decoded + (eventBytes data lineEnd).length, 0,
          result.2⟩).toOption := by
  have noNewline : 10 ∉
      textBytes ("data: " ++ data ++ lineEnd.beforeNewline) := by
    apply newline_not_mem_textBytes
    rw [String.toList_append, String.toList_append, List.mem_append,
      List.mem_append]
    rintro ((isIn | isIn) | isIn)
    · exact absurd isIn (by decide)
    · exact oneLine isIn
    · exact beforeNewline_oneLine lineEnd isIn
  have noNewlineEnd : 10 ∉ textBytes ("" ++ lineEnd.beforeNewline) := by
    apply newline_not_mem_textBytes
    rw [String.empty_append]
    exact beforeNewline_oneLine lineEnd
  have total : (eventBytes data lineEnd).length =
      (textBytes ("data: " ++ data ++ lineEnd.beforeNewline)).length + 1 +
        ((textBytes ("" ++ lineEnd.beforeNewline)).length + 1) := by
    unfold eventBytes
    rw [List.length_append, length_eventLineBytes, length_eventLineBytes]
  have notEmpty : data.isEmpty = false := by
    rw [Bool.eq_false_iff]
    intro isEmpty
    rw [String.isEmpty_iff.mp isEmpty] at opens
    cases opens
  rw [total] at decodedFits eventFits
  have dataRoom : StreamState.Room ⟨[], "", decoded, 0, run⟩
      (textBytes ("data: " ++ data ++ lineEnd.beforeNewline)).length := by
    refine ⟨rfl, ?_, ?_⟩ <;> dsimp only <;> omega
  have endRoom : StreamState.Room ⟨[], data,
      decoded + ((textBytes ("data: " ++ data ++
        lineEnd.beforeNewline)).length + 1),
      0 + ((textBytes ("data: " ++ data ++
        lineEnd.beforeNewline)).length + 1), run⟩
      (textBytes ("" ++ lineEnd.beforeNewline)).length := by
    refine ⟨rfl, ?_, ?_⟩ <;> dsimp only <;> omega
  have split : eventBytes data lineEnd ++ rest =
      textBytes ("data: " ++ data ++ lineEnd.beforeNewline) ++ [10] ++
        (textBytes ("" ++ lineEnd.beforeNewline) ++ [10] ++ rest) :=
    List.append_assoc ..
  have appended :=
    appendStreamLine_data opens notBlank closes notReturn lineEnd
  refine ⟨⟨textBytes ("" ++ lineEnd.beforeNewline), data,
    decoded + ((textBytes ("data: " ++ data ++
      lineEnd.beforeNewline)).length + 1) +
        ((textBytes ("" ++ lineEnd.beforeNewline)).length + 1),
    0 + ((textBytes ("data: " ++ data ++
      lineEnd.beforeNewline)).length + 1) +
        ((textBytes ("" ++ lineEnd.beforeNewline)).length + 1), run⟩, rfl, ?_⟩
  rw [split, streamLoop_data json noNewline dataRoom _ appended,
    streamLoop_process json noNewlineEnd endRoom rest
      (appendStreamLine_empty lineEnd data) notEmpty, total]
  dsimp only
  rw [Nat.add_assoc decoded]

theorem trimmed_eq {data : String} {first last : Char}
    (opens : data.toList.head? = some first)
    (firstNotBlank : isWhitespace first = false)
    (closes : data.toList.getLast? = some last)
    (lastNotBlank : isWhitespace last = false) : trimmed data = data := by
  obtain ⟨rest, isCons⟩ := List.head?_eq_some_iff.mp opens
  obtain ⟨front, isConcat⟩ := List.getLast?_eq_some_iff.mp closes
  have start : data.toList.dropWhile isWhitespace = data.toList := by
    rw [isCons]
    exact List.dropWhile_cons_of_neg (by simp [firstNotBlank])
  have finish : data.toList.rdropWhile isWhitespace = data.toList := by
    rw [isConcat]
    exact List.rdropWhile_concat_neg _ _ _ (by simp [lastNotBlank])
  unfold trimmed
  rw [start, finish, String.ofList_toList]

namespace ChunkEvent

variable {json : JsonParser}

/-- What an event does to the assembler. -/
def applyTo (run : StreamRun) (event : ChunkEvent json) : Option StreamRun :=
  event.shape.check.toOption.bind fun chunk =>
    (run.applyChunk chunk).toOption

theorem process_toOption (event : ChunkEvent json) (run : StreamRun) :
    (processStreamData json event.data run).toOption =
      (event.applyTo run).map fun run => (false, run) := by
  have isTrimmed := trimmed_eq event.opens (by decide) event.closes (by decide)
  have notDone : event.data ≠ "[DONE]" := by
    intro isDone
    have opens := event.opens
    rw [isDone] at opens
    exact absurd opens (by decide)
  unfold processStreamData applyTo ChatCompletionChunk.read
  rw [isTrimmed, if_neg notDone, event.parses]
  dsimp only
  rw [event.noError, Option.isSome_none, if_neg Bool.false_ne_true, event.reads]
  rw [show (Except.ok event.shape >>= fun shape => shape.check) =
    event.shape.check from rfl]
  cases event.shape.check with
  | error error => rfl
  | ok chunk =>
      show ((run.applyChunk chunk).map _).toOption =
        (run.applyChunk chunk).toOption.map _
      cases run.applyChunk chunk <;> rfl

end ChunkEvent

theorem process_done (json : JsonParser) (run : StreamRun) :
    processStreamData json "[DONE]" run = .ok (true, run) := by
  have isTrimmed : trimmed "[DONE]" = "[DONE]" :=
    @trimmed_eq _ '[' ']' rfl rfl rfl rfl
  unfold processStreamData
  rw [isTrimmed, if_pos rfl]

/-- The loop applies the events in order and ends at the last one. -/
theorem streamLoop_events {json : JsonParser} (lineEnd : LineEnd)
    (events : List (ChunkEvent json))
    (eventFits : ∀ event ∈ events, event.bytes.length ≤ maxSseEventBytes)
    {decoded : Nat} (run : StreamRun)
    (decodedFits : decoded + (streamBytes events lineEnd).length ≤
      maxDecodedResponseBytes) :
    ((streamLoop json (streamBytes events lineEnd)
      ⟨[], "", decoded, 0, run⟩).toOption.map fun result =>
        (result.1, result.2.run)) =
      (events.foldlM ChunkEvent.applyTo run).map
        fun run => (true, run) := by
  induction events generalizing decoded run with
  | nil =>
      have small : (eventBytes "[DONE]" lineEnd).length ≤ maxSseEventBytes := by
        cases lineEnd <;> decide
      obtain ⟨state, _, loop⟩ := @streamLoop_event json "[DONE]" lineEnd '[' ']'
        rfl rfl rfl (by decide) (by decide) decoded run decodedFits small []
      rw [List.append_nil, process_done] at loop
      show Option.map _ (streamLoop json (eventBytes "[DONE]" lineEnd)
        _).toOption = _
      rw [loop]
      rfl
  | cons event rest ih =>
      have whole : streamBytes (event :: rest) lineEnd =
          event.bytes ++ streamBytes rest lineEnd := by
        unfold streamBytes
        rw [List.flatMap_cons, List.append_assoc]
      rw [whole, List.length_append] at decodedFits
      obtain ⟨state, _, loop⟩ := @streamLoop_event json event.data
        event.lineEnd '{' '}' event.opens rfl event.closes (by decide)
        event.oneLine decoded run
        (le_trans (Nat.add_le_add_left (Nat.le_add_right _ _) _) decodedFits)
        (eventFits event List.mem_cons_self) (streamBytes rest lineEnd)
      rw [event.process_toOption] at loop
      show Option.map _ (streamLoop json (streamBytes (event :: rest) lineEnd)
        _).toOption = _
      rw [whole, List.foldlM_cons]
      show Option.map _ (streamLoop json (eventBytes event.data event.lineEnd ++
        streamBytes rest lineEnd) _).toOption = _
      rw [loop]
      cases event.applyTo run with
      | none => rfl
      | some after =>
          exact ih (fun other member => eventFits other
            (List.mem_cons_of_mem _ member)) after
              (by rw [Nat.add_assoc]; exact decodedFits)

/-- The response is that of the assembler after the events. -/
theorem parseChatCompletionStream_toOption {json : JsonParser}
    (lineEnd : LineEnd) (events : List (ChunkEvent json))
    (eventFits : ∀ event ∈ events, event.bytes.length ≤ maxSseEventBytes)
    (decodedFits : (streamBytes events lineEnd).length ≤
      maxDecodedResponseBytes) :
    (parseChatCompletionStream json (streamBytes events lineEnd)).toOption =
      (events.foldlM ChunkEvent.applyTo
        ⟨.default, []⟩).bind fun run =>
          (run.assembler.intoModelResponse json).toOption.map fun response =>
            (response, run.deltas) := by
  have loop := @streamLoop_events json lineEnd events eventFits 0
    ⟨.default, []⟩ (by rw [Nat.zero_add]; exact decodedFits)
  unfold parseChatCompletionStream StreamState.start
  cases result : streamLoop json (streamBytes events lineEnd)
      ⟨[], "", 0, 0, ⟨.default, []⟩⟩ with
  | error error =>
      rw [result] at loop
      have failed : events.foldlM ChunkEvent.applyTo
          ⟨.default, []⟩ = none := Option.map_eq_none_iff.mp loop.symm
      rw [failed]
      rfl
  | ok pair =>
      obtain ⟨sawDone, state⟩ := pair
      rw [result] at loop
      obtain ⟨run, folded, isPair⟩ := Option.map_eq_some_iff.mp loop.symm
      cases isPair
      rw [folded]
      show Except.toOption (do
        let response ← state.run.assembler.intoModelResponse json
        return (response, state.run.deltas)) = _
      show _ = (state.run.assembler.intoModelResponse json).toOption.map _
      cases state.run.assembler.intoModelResponse json <;> rfl

end PlatoAgent
