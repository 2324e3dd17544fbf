import PlatoAgent.ProviderReads

/-!
# A streamed response line by line

What the loop over reads comes to: a fold over the lines of the bytes.  A line
is refused when it crosses a limit, a blank line ends an event, and the data of
the other lines are joined.
-/

namespace PlatoAgent

open Emitting

/-- The first line with its newline, and what follows. -/
def cutLine : List UInt8 → List UInt8 × List UInt8
  | [] => ([], [])
  | byte :: rest =>
      if byte = 10 then ([byte], rest)
      else (byte :: (cutLine rest).1, (cutLine rest).2)

theorem cutLine_append (bytes : List UInt8) :
    (cutLine bytes).1 ++ (cutLine bytes).2 = bytes := by
  induction bytes with
  | nil => rfl
  | cons byte rest ih =>
      unfold cutLine
      split
      · rfl
      · rw [List.cons_append, ih]

theorem cutLine_eq_nil_iff {bytes : List UInt8} :
    (cutLine bytes).1 = [] ↔ bytes = [] := by
  cases bytes with
  | nil => exact ⟨fun _ => rfl, fun _ => rfl⟩
  | cons byte rest =>
      unfold cutLine
      split <;> simp

theorem cutLine_shorter (byte : UInt8) (rest : List UInt8) :
    (cutLine (byte :: rest)).2.length < (byte :: rest).length := by
  have parts := congrArg List.length (cutLine_append (byte :: rest))
  have positive := List.length_pos_iff.mpr
    (mt cutLine_eq_nil_iff.mp (List.cons_ne_nil byte rest))
  rw [List.length_append] at parts
  omega

/-- The bytes split after each newline. -/
def splitLines : List UInt8 → List (List UInt8)
  | [] => []
  | byte :: rest =>
      if byte = 10 then [byte] :: splitLines rest
      else match splitLines rest with
        | [] => [[byte]]
        | line :: more => (byte :: line) :: more

theorem splitLines_cons (byte : UInt8) (rest : List UInt8) :
    splitLines (byte :: rest) =
      (cutLine (byte :: rest)).1 :: splitLines (cutLine (byte :: rest)).2 := by
  induction rest generalizing byte with
  | nil =>
      unfold splitLines cutLine
      split <;> rfl
  | cons next rest ih =>
      rw [splitLines, cutLine]
      by_cases isNewline : byte = 10
      · rw [if_pos isNewline, if_pos isNewline]
      · rw [if_neg isNewline, if_neg isNewline, ih next]

/-- The text of a line, without carriage returns at its end. -/
def contentText (content : List UInt8) : Option (List Char) :=
  (String.fromUTF8? content.toByteArray).map fun text =>
    text.toList.rdropWhile (· == '\r')

/-- The text of a line, which can end with its newline. -/
def lineText (line : List UInt8) : Option (List Char) :=
  contentText (if line.getLast? = some 10 then line.dropLast else line)

/-- The data of a line; other fields have none. -/
def linePayload (text : List Char) : Option String :=
  if "data:".toList.isPrefixOf text then
    some (String.ofList ((text.drop 5).dropWhile isWhitespace))
  else none

/-- The data of an event, from the first that is not empty on. -/
def joinPayloads (payloads : List String) : String :=
  "\n".intercalate (payloads.dropWhile String.isEmpty)

/-- What the lines so far come to. -/
structure LineState where
  payloads : List String
  totalBytes : Nat
  eventBytes : Nat
  assembler : StreamingAssembler

def LineState.start : LineState :=
  ⟨[], 0, 0, .default⟩

/-- The limit that a line of some length crosses first. -/
def crossedLimit (state : LineState) (length : Nat) : Option ProviderError :=
  let total := maxDecodedResponseBytes - state.totalBytes
  let event := maxSseEventBytes - state.eventBytes
  if length ≤ total ∧ length ≤ event then none
  else if total ≤ event then some totalLimitError else some eventLimitError

section Specification

variable (join : List String → String) (json : JsonParser)

/-- The event of the payloads is processed, unless it has no data. -/
def endEvent (state : LineState) : Emitting (Progress LineState) := do
  let data := join state.payloads
  if data.isEmpty then return .more { state with payloads := [] }
  let (isLast, assembler) ← state.assembler.emitData json data
  if isLast then return .sawDone assembler
  return .more { state with payloads := [], assembler := assembler }

/-- One line. -/
def takeStreamLine (state : LineState) (line : List UInt8) :
    Emitting (Progress LineState) :=
  match crossedLimit state line.length with
  | some error => refuse error
  | none =>
      let totalBytes := state.totalBytes + line.length
      match lineText line with
      | none => refuse .io
      | some [] => endEvent join json
          { state with totalBytes := totalBytes, eventBytes := 0 }
      | some text => return .more { state with
          payloads := state.payloads ++ (linePayload text).toList
          totalBytes := totalBytes
          eventBytes := state.eventBytes + line.length }

/-- The lines in order, until an event is the last. -/
def takeLines :
    List (List UInt8) → LineState → Emitting (Progress LineState)
  | [], state => return .more state
  | line :: rest, state => do
      let progress ← takeStreamLine join json state line
      match progress with
      | .sawDone assembler => return .sawDone assembler
      | .more state => takeLines rest state

/-- The response of the bytes: a last event is complete at their end. -/
def streamSpec (bytes : List UInt8) : Emitting ModelResponse := do
  let progress ← takeLines join json (splitLines bytes) .start
  let progress ← match progress with
    | .sawDone assembler => pure (.sawDone assembler)
    | .more state => endEvent join json state
  match progress with
  | .sawDone assembler => attempt (assembler.intoModelResponse json)
  | .more _ => refuse endedBeforeDoneError

end Specification

theorem intercalate_ne_empty {first : String} (notEmpty : first ≠ "")
    (rest : List String) : "\n".intercalate (first :: rest) ≠ "" := by
  cases rest with
  | nil =>
      rw [String.intercalate_singleton]
      exact notEmpty
  | cons second rest =>
      rw [String.intercalate_cons_cons]
      simp [String.append_eq_empty_iff]

/-- A payload is added on a line of its own, after the first. -/
theorem joinPayloads_append (payloads : List String) (data : String) :
    joinPayloads (payloads ++ [data]) =
      (if (joinPayloads payloads).isEmpty then joinPayloads payloads
        else joinPayloads payloads ++ "\n") ++ data := by
  unfold joinPayloads
  rw [List.dropWhile_append]
  cases kept : payloads.dropWhile String.isEmpty with
  | nil =>
      have noText : ("" : String).isEmpty = true := rfl
      rw [List.isEmpty_nil, if_pos rfl, String.intercalate_nil, noText,
        if_pos rfl, String.empty_append]
      by_cases blank : data.isEmpty = true
      · rw [List.dropWhile_cons_of_pos blank, String.isEmpty_iff.mp blank]
        rfl
      · rw [List.dropWhile_cons_of_neg blank]
        exact String.intercalate_singleton
  | cons first rest =>
      have notBlank : first.isEmpty = false := by
        have head := List.head_dropWhile_not String.isEmpty
          (show payloads.dropWhile String.isEmpty ≠ [] by rw [kept]; exact List.cons_ne_nil first rest)
        simpa [kept] using head
      have notEmpty : first ≠ "" := by
        intro isEmpty
        rw [isEmpty] at notBlank
        cases notBlank
      have joined : ("\n".intercalate (first :: rest)).isEmpty = false := by
        rw [Bool.eq_false_iff]
        intro isEmpty
        exact intercalate_ne_empty notEmpty rest (String.isEmpty_iff.mp isEmpty)
      rw [List.isEmpty_cons, if_neg Bool.false_ne_true, joined,
        if_neg Bool.false_ne_true, String.intercalate_append_of_ne_nil
          (List.cons_ne_nil _ _) (List.cons_ne_nil _ _),
        String.intercalate_singleton]

/-- A line that does not fit is cut after the byte that crosses a limit. -/
theorem takeLine_of_fits {limit : Nat} {bytes : List UInt8}
    (fits : (cutLine bytes).1.length ≤ limit) :
    takeLine limit bytes = cutLine bytes := by
  induction bytes generalizing limit with
  | nil => cases limit <;> rfl
  | cons byte rest ih =>
      unfold cutLine at fits ⊢
      cases limit with
      | zero =>
          split at fits <;> cases fits
      | succ limit =>
          rw [takeLine]
          by_cases isNewline : byte = 10
          · rw [if_pos isNewline, if_pos isNewline]
          · rw [if_neg isNewline] at fits
            rw [if_neg isNewline, if_neg isNewline,
              ih (Nat.le_of_succ_le_succ fits)]

theorem length_takeLine_of_long {limit : Nat} {bytes : List UInt8}
    (long : limit ≤ (cutLine bytes).1.length) :
    (takeLine limit bytes).1.length = limit := by
  induction bytes generalizing limit with
  | nil =>
      rw [Nat.le_zero.mp long]
      rfl
  | cons byte rest ih =>
      unfold cutLine at long
      cases limit with
      | zero => rfl
      | succ limit =>
          rw [takeLine]
          by_cases isNewline : byte = 10
          · rw [if_pos isNewline] at long
            rw [if_pos isNewline]
            have isZero : limit = 0 := by
              rw [List.length_singleton] at long
              omega
            rw [isZero]
            rfl
          · rw [if_neg isNewline] at long
            rw [if_neg isNewline, List.length_cons,
              ih (Nat.le_of_succ_le_succ long)]

/-- A line without a newline is the last. -/
theorem cutLine_unterminated {bytes : List UInt8}
    (noNewline : (cutLine bytes).1.getLast? ≠ some 10) :
    (cutLine bytes).2 = [] := by
  induction bytes with
  | nil => rfl
  | cons byte rest ih =>
      unfold cutLine at noNewline ⊢
      by_cases isNewline : byte = 10
      · rw [if_pos isNewline, isNewline] at noNewline
        exact absurd rfl noNewline
      · rw [if_neg isNewline] at noNewline ⊢
        apply ih
        intro isLast
        apply noNewline
        dsimp only
        rw [List.getLast?_cons, isLast]
        rfl

namespace LineState

/-- The variables of the loop before a line. -/
def toReadState (state : LineState) : ReadState :=
  ⟨[], joinPayloads state.payloads, state.totalBytes, state.eventBytes,
    state.assembler⟩

/-- The subtractions of the loop do not underflow. -/
structure Bounded (state : LineState) : Prop where
  total : state.totalBytes ≤ maxDecodedResponseBytes
  event : state.eventBytes ≤ maxSseEventBytes

/-- The bytes that are left before a limit. -/
def remaining (state : LineState) : Nat :=
  min (maxDecodedResponseBytes - state.totalBytes)
    (maxSseEventBytes - state.eventBytes)

end LineState

theorem crossedLimit_eq_none {state : LineState} {length : Nat}
    (fits : length ≤ state.remaining) : crossedLimit state length = none := by
  unfold LineState.remaining at fits
  unfold crossedLimit
  exact if_pos (le_min_iff.mp fits)

/-- One byte more than what is left crosses the same limit. -/
theorem crossedLimit_of_long {state : LineState} {length : Nat}
    (long : state.remaining < length) :
    crossedLimit state length = crossedLimit state (state.remaining + 1) := by
  unfold LineState.remaining at long
  unfold crossedLimit LineState.remaining
  dsimp only
  have outside : ∀ bytes, min (maxDecodedResponseBytes - state.totalBytes)
      (maxSseEventBytes - state.eventBytes) < bytes →
      ¬ (bytes ≤ maxDecodedResponseBytes - state.totalBytes ∧
        bytes ≤ maxSseEventBytes - state.eventBytes) := by
    omega
  rw [if_neg (outside length long), if_neg (outside _ (Nat.lt_succ_self _))]

section Contents

variable {content : List UInt8} {payloads : List String}

theorem appendStreamLine_none (isText : contentText content = none)
    (data : String) : appendStreamLine content data = .error .io := by
  have undecoded := Option.map_eq_none_iff.mp isText
  unfold appendStreamLine
  rw [undecoded]

theorem appendStreamLine_blank (isText : contentText content = some [])
    (data : String) : appendStreamLine content data = .ok (true, data) := by
  obtain ⟨text, decoded, isBlank⟩ := Option.map_eq_some_iff.mp isText
  unfold appendStreamLine
  rw [decoded]
  dsimp only
  rw [isBlank]
  rfl

theorem appendStreamLine_text {first : Char} {rest : List Char}
    (isText : contentText content = some (first :: rest)) :
    appendStreamLine content (joinPayloads payloads) =
      .ok (false, joinPayloads
        (payloads ++ (linePayload (first :: rest)).toList)) := by
  obtain ⟨text, decoded, isLine⟩ := Option.map_eq_some_iff.mp isText
  unfold appendStreamLine
  rw [decoded]
  dsimp only
  rw [isLine, List.isEmpty_cons, if_neg Bool.false_ne_true]
  unfold linePayload
  split
  · rw [Option.toList_some, joinPayloads_append]
  · rw [Option.toList_none, List.append_nil]

end Contents

section Steps

variable (json : JsonParser) {state : LineState}

/-- A read that crosses a limit is refused. -/
theorem readLine_crossed (bounded : state.Bounded) {read : List UInt8}
    (isLong : read.length = state.remaining + 1) :
    ∃ error, crossedLimit state (state.remaining + 1) = some error ∧
      readLine json state.toReadState read = refuse error := by
  have total := bounded.total
  have event := bounded.event
  unfold readLine LineState.toReadState
  unfold crossedLimit
  unfold LineState.remaining at isLong ⊢
  dsimp only
  rw [isLong]
  have outside : ¬ (min (maxDecodedResponseBytes - state.totalBytes)
      (maxSseEventBytes - state.eventBytes) + 1 ≤
        maxDecodedResponseBytes - state.totalBytes ∧
      min (maxDecodedResponseBytes - state.totalBytes)
        (maxSseEventBytes - state.eventBytes) + 1 ≤
        maxSseEventBytes - state.eventBytes) := by
    omega
  rw [if_neg outside]
  by_cases isTotal : maxDecodedResponseBytes - state.totalBytes ≤
      maxSseEventBytes - state.eventBytes
  · have crossed : maxDecodedResponseBytes < state.totalBytes +
        (min (maxDecodedResponseBytes - state.totalBytes)
          (maxSseEventBytes - state.eventBytes) + 1) := by
      omega
    refine ⟨totalLimitError, if_pos isTotal, ?_⟩
    rw [if_pos crossed]
    rfl
  · have inside : ¬ maxDecodedResponseBytes < state.totalBytes +
        (min (maxDecodedResponseBytes - state.totalBytes)
          (maxSseEventBytes - state.eventBytes) + 1) := by
      omega
    have crossed : maxSseEventBytes < state.eventBytes +
        (min (maxDecodedResponseBytes - state.totalBytes)
          (maxSseEventBytes - state.eventBytes) + 1) := by
      omega
    refine ⟨eventLimitError, if_neg isTotal, ?_⟩
    rw [if_neg inside, if_pos crossed]
    rfl

/-- What follows a line in the loop. -/
def Progress.map {State Other : Type} (change : State → Other) :
    Progress State → Progress Other
  | .sawDone assembler => .sawDone assembler
  | .more state => .more (change state)

/-- The end of an event in the loop. -/
theorem endEvent_map (state : LineState) :
    (do
      if (joinPayloads state.payloads).isEmpty then
        return Progress.more (⟨[], joinPayloads state.payloads,
          state.totalBytes, state.eventBytes, state.assembler⟩ : ReadState)
      let (isLast, assembler) ← state.assembler.emitData json
        (joinPayloads state.payloads)
      if isLast then return .sawDone assembler
      return .more ⟨[], "", state.totalBytes, state.eventBytes, assembler⟩) =
    Progress.map LineState.toReadState <$> endEvent joinPayloads json state := by
  unfold endEvent
  by_cases blank : (joinPayloads state.payloads).isEmpty = true
  · rw [if_pos blank, if_pos blank, String.isEmpty_iff.mp blank]
    rfl
  · rw [if_neg blank, if_neg blank, map_bind]
    apply bind_congr
    rintro ⟨isLast, assembler⟩
    cases isLast <;> rfl

theorem readLine_fits (bounded : state.Bounded) {line : List UInt8}
    (fits : line.length ≤ state.remaining) (ends : line.getLast? = some 10) :
    readLine json state.toReadState line =
      Progress.map LineState.toReadState <$> takeStreamLine joinPayloads json state line := by
  have total := bounded.total
  have event := bounded.event
  have totalFits : ¬ maxDecodedResponseBytes <
      state.totalBytes + line.length := by
    unfold LineState.remaining at fits
    omega
  have eventFits : ¬ maxSseEventBytes < state.eventBytes + line.length := by
    unfold LineState.remaining at fits
    omega
  have text : lineText line = contentText line.dropLast := by
    unfold lineText
    rw [if_pos ends]
  unfold readLine takeStreamLine LineState.toReadState
  rw [crossedLimit_eq_none fits, text]
  dsimp only
  rw [if_neg totalFits, if_neg eventFits, List.nil_append, if_pos ends]
  cases isText : contentText line.dropLast with
  | none =>
      rw [appendStreamLine_none isText]
      rfl
  | some characters =>
      cases characters with
      | nil =>
          rw [appendStreamLine_blank isText]
          exact endEvent_map json
            ⟨state.payloads, state.totalBytes + line.length, 0, state.assembler⟩
      | cons first rest =>
          rw [appendStreamLine_text isText]
          rfl

end Steps

/-- The response after the last event, if there was one. -/
def closeStream {State : Type} (json : JsonParser) :
    Progress State → Emitting ModelResponse
  | .sawDone assembler => attempt (assembler.intoModelResponse json)
  | .more _ => refuse endedBeforeDoneError

def afterRead (json : JsonParser) (progress : Progress ReadState) :
    Emitting ModelResponse := do
  let progress ← match progress with
    | .sawDone assembler => pure (.sawDone assembler)
    | .more state => readTail json state
  closeStream json progress

def afterLines (json : JsonParser) (progress : Progress LineState) :
    Emitting ModelResponse := do
  let progress ← match progress with
    | .sawDone assembler => pure (.sawDone assembler)
    | .more state => endEvent joinPayloads json state
  closeStream json progress

theorem readStream_eq (json : JsonParser) (reads : Reads) :
    readStream json reads = readLoop json reads .start >>= afterRead json := by
  unfold readStream
  apply bind_congr
  intro progress
  cases progress with
  | sawDone assembler => rfl
  | more state =>
      unfold afterRead
      apply bind_congr
      intro progress
      cases progress <;> rfl

theorem streamSpec_eq (json : JsonParser) (bytes : List UInt8) :
    streamSpec joinPayloads json bytes =
      takeLines joinPayloads json (splitLines bytes) .start >>= afterLines json := by
  unfold streamSpec
  apply bind_congr
  intro progress
  cases progress with
  | sawDone assembler => rfl
  | more state =>
      unfold afterLines
      apply bind_congr
      intro progress
      cases progress <;> rfl

/-- The data that is left, when it is not empty, is one more event. -/
def closeData (json : JsonParser) (data : String)
    (assembler : StreamingAssembler) : Emitting ModelResponse :=
  if data.isEmpty then refuse endedBeforeDoneError
  else do
    let (isLast, assembler) ← assembler.emitData json data
    if isLast then attempt (assembler.intoModelResponse json)
    else refuse endedBeforeDoneError

section Ends

variable (json : JsonParser) (state : LineState)

theorem afterLines_more :
    afterLines json (.more state) =
      closeData json (joinPayloads state.payloads) state.assembler := by
  unfold afterLines endEvent closeData
  dsimp only
  by_cases blank : (joinPayloads state.payloads).isEmpty = true
  · rw [if_pos blank, if_pos blank]
    rfl
  · rw [if_neg blank, if_neg blank, bind_assoc]
    apply bind_congr
    rintro ⟨isLast, assembler⟩
    cases isLast <;> rfl

theorem afterRead_more :
    afterRead json (.more state.toReadState) =
      closeData json (joinPayloads state.payloads) state.assembler := by
  unfold afterRead readTail closeData LineState.toReadState
  dsimp only
  rw [List.isEmpty_nil, if_pos rfl, pure_bind]
  dsimp only
  rw [if_neg Bool.false_ne_true]
  by_cases blank : (joinPayloads state.payloads).isEmpty = true
  · rw [if_pos blank, if_pos blank]
    rfl
  · rw [if_neg blank, if_neg blank, bind_assoc]
    apply bind_congr
    rintro ⟨isLast, assembler⟩
    cases isLast <;> rfl

/-- A last line without a newline is taken at the end. -/
theorem afterRead_unterminated {line : List UInt8} (someBytes : line ≠ [])
    (fits : line.length ≤ state.remaining) (open_ : line.getLast? ≠ some 10)
    (decoded event : Nat) :
    afterRead json (.more ⟨line, joinPayloads state.payloads, decoded, event,
      state.assembler⟩) = takeStreamLine joinPayloads json state line >>= afterLines json := by
  have notEmpty : line.isEmpty = false := by
    rw [Bool.eq_false_iff]
    exact fun isEmpty => someBytes (List.isEmpty_iff.mp isEmpty)
  have text : lineText line = contentText line := by
    unfold lineText
    rw [if_neg open_]
  unfold takeStreamLine
  rw [crossedLimit_eq_none fits, text]
  unfold afterRead readTail
  dsimp only
  rw [notEmpty, if_neg Bool.false_ne_true]
  cases isText : contentText line with
  | none =>
      rw [appendStreamLine_none isText]
      rfl
  | some characters =>
      cases characters with
      | nil =>
          rw [appendStreamLine_blank isText]
          show (pure (true, _) >>= _) >>= _ = _
          rw [pure_bind]
          unfold endEvent
          dsimp only
          rw [if_pos rfl]
          by_cases blank : (joinPayloads state.payloads).isEmpty = true
          · rw [if_pos blank, if_pos blank, pure_bind, pure_bind,
              afterLines_more]
            rfl
          · rw [if_neg blank, if_neg blank, bind_assoc, bind_assoc]
            apply bind_congr
            rintro ⟨isLast, assembler⟩
            cases isLast with
            | true => rfl
            | false =>
                dsimp only
                rw [if_neg Bool.false_ne_true, if_neg Bool.false_ne_true,
                  pure_bind, pure_bind, afterLines_more]
                rfl
      | cons first rest =>
          rw [appendStreamLine_text isText]
          show (pure (false, _) >>= _) >>= _ = pure (Progress.more _) >>= _
          rw [pure_bind, pure_bind, afterLines_more]
          unfold closeData
          dsimp only
          rw [if_neg Bool.false_ne_true]
          by_cases blank : (joinPayloads (state.payloads ++
              (linePayload (first :: rest)).toList)).isEmpty = true
          · rw [if_pos blank, if_pos blank]
            rfl
          · rw [if_neg blank, if_neg blank, bind_assoc]
            apply bind_congr
            rintro ⟨isLast, assembler⟩
            cases isLast <;> rfl

end Ends

/-- Equal continuations on the results that a computation can have. -/
theorem bind_congr_of_result {First Second : Type}
    {computation : Emitting First} {one two : First → Emitting Second}
    (same : ∀ result texts after,
      computation.after texts = (.ok result, after) → one result = two result) :
    computation >>= one = computation >>= two := by
  apply ext_after
  intro texts
  rw [after_bind, after_bind]
  cases ran : computation.after texts with
  | mk outcome more =>
      cases outcome with
      | error failure => rfl
      | ok result => exact congrArg (·.after more) (same result texts more ran)

theorem endEvent_counts {json : JsonParser} {state next : LineState}
    {texts more : List String}
    (ended : (endEvent joinPayloads json state).after texts = (.ok (.more next), more)) :
    next.totalBytes = state.totalBytes ∧
      next.eventBytes = state.eventBytes := by
  unfold endEvent at ended
  dsimp only at ended
  split at ended
  · cases ended
    exact ⟨rfl, rfl⟩
  · rw [after_bind] at ended
    cases ran : (state.assembler.emitData json
        (joinPayloads state.payloads)).after texts with
    | mk outcome later =>
        rw [ran] at ended
        cases outcome with
        | error failure => cases ended
        | ok result =>
            obtain ⟨isLast, assembler⟩ := result
            cases isLast with
            | true => cases ended
            | false =>
                cases ended
                exact ⟨rfl, rfl⟩

/-- A line keeps the counts within the limits. -/
theorem bounded_of_takeStreamLine {json : JsonParser} {state next : LineState}
    (bounded : state.Bounded) {line : List UInt8}
    (fits : line.length ≤ state.remaining) {texts more : List String}
    (took : (takeStreamLine joinPayloads json state line).after texts =
      (.ok (.more next), more)) : next.Bounded := by
  have total := bounded.total
  have event := bounded.event
  have totalFits : state.totalBytes + line.length ≤
      maxDecodedResponseBytes := by
    unfold LineState.remaining at fits
    omega
  have eventFits : state.eventBytes + line.length ≤ maxSseEventBytes := by
    unfold LineState.remaining at fits
    omega
  unfold takeStreamLine at took
  rw [crossedLimit_eq_none fits] at took
  dsimp only at took
  split at took
  · cases took
  · obtain ⟨sameTotal, sameEvent⟩ := endEvent_counts took
    constructor
    · rw [sameTotal]
      exact totalFits
    · rw [sameEvent]
      exact Nat.zero_le _
  · cases took
    exact ⟨totalFits, eventFits⟩

/-- A line without a newline is kept. -/
theorem readLine_open (json : JsonParser) {state : LineState}
    (bounded : state.Bounded) {line : List UInt8}
    (fits : line.length ≤ state.remaining) (open_ : line.getLast? ≠ some 10) :
    readLine json state.toReadState line =
      pure (.more ⟨line, joinPayloads state.payloads,
        state.totalBytes + line.length, state.eventBytes + line.length,
        state.assembler⟩) := by
  have total := bounded.total
  have event := bounded.event
  have totalFits : ¬ maxDecodedResponseBytes <
      state.totalBytes + line.length := by
    unfold LineState.remaining at fits
    omega
  have eventFits : ¬ maxSseEventBytes < state.eventBytes + line.length := by
    unfold LineState.remaining at fits
    omega
  unfold readLine LineState.toReadState
  dsimp only
  rw [if_neg totalFits, if_neg eventFits, List.nil_append, if_neg open_]

/-- The loop ends with the reads. -/
theorem readLoop_ended (json : JsonParser) {reads : Reads}
    (ended : reads.bytes = []) {state : ReadState}
    (total : state.decodedBytes ≤ maxDecodedResponseBytes)
    (event : state.eventBytes ≤ maxSseEventBytes) :
    readLoop json reads state = pure (.more state) := by
  have noLine : ∀ limit, (reads.line limit).isEmpty = true := by
    intro limit
    rw [reads.line_eq, ended]
    cases limit <;> rfl
  rw [readLoop]
  unfold checkedSub
  rw [if_pos total, pure_bind, if_pos event, pure_bind]
  dsimp only
  rw [dif_pos (noLine _)]

/-- The loop over reads comes to the fold over lines. -/
theorem readLoop_spec (json : JsonParser) (count : Nat) :
    ∀ (reads : Reads) (state : LineState), reads.bytes.length = count →
      state.Bounded →
      readLoop json reads state.toReadState >>= afterRead json =
        takeLines joinPayloads json (splitLines reads.bytes) state >>= afterLines json := by
  induction count using Nat.strong_induction_on with
  | _ count ih =>
  intro reads state isCount bounded
  cases bytes : reads.bytes with
  | nil =>
      rw [readLoop_ended json bytes bounded.total bounded.event, splitLines,
        pure_bind, takeLines, pure_bind, afterRead_more, afterLines_more]
  | cons byte rest =>
      have total : checkedSub maxDecodedResponseBytes
          state.toReadState.decodedBytes =
            pure (maxDecodedResponseBytes - state.totalBytes) :=
        if_pos bounded.total
      have event : checkedSub maxSseEventBytes state.toReadState.eventBytes =
          pure (maxSseEventBytes - state.eventBytes) :=
        if_pos bounded.event
      have someLine : ¬ (reads.line (state.remaining + 1)).isEmpty = true := by
        rw [reads.line_eq, bytes, takeLine]
        split <;> simp
      rw [readLoop, total, pure_bind, event, pure_bind]
      show (if _ : (reads.line (state.remaining + 1)).isEmpty = true then _
        else _) >>= _ = _
      have left : min (maxDecodedResponseBytes - state.totalBytes)
          (maxSseEventBytes - state.eventBytes) = state.remaining := rfl
      rw [dif_neg someLine, left, splitLines_cons, takeLines, bind_assoc,
        bind_assoc]
      have shorter := cutLine_shorter byte rest
      rw [← bytes] at shorter ⊢
      by_cases fits : (cutLine reads.bytes).1.length ≤ state.remaining
      · have cut : reads.line (state.remaining + 1) =
            (cutLine reads.bytes).1 := by
          rw [reads.line_eq, takeLine_of_fits (Nat.le_succ_of_le fits)]
        have later : (reads.rest (state.remaining + 1)).bytes =
            (cutLine reads.bytes).2 := by
          rw [reads.bytes_rest, takeLine_of_fits (Nat.le_succ_of_le fits)]
        rw [cut]
        by_cases ends : (cutLine reads.bytes).1.getLast? = some 10
        · rw [readLine_fits json bounded fits ends, bind_map_left]
          apply bind_congr_of_result
          intro progress texts more took
          cases progress with
          | sawDone assembler => rfl
          | more next =>
              have spec := ih _ (isCount ▸ shorter)
                (reads.rest (state.remaining + 1)) next (by rw [later])
                (bounded_of_takeStreamLine bounded fits took)
              rw [later] at spec
              exact spec
        · have noMore := cutLine_unterminated ends
          have totalBound := bounded.total
          have eventBound := bounded.event
          have someBytes : (cutLine reads.bytes).1 ≠ [] := by
            intro isNil
            rw [cutLine_eq_nil_iff, bytes] at isNil
            cases isNil
          unfold LineState.remaining at fits
          rw [readLine_open json bounded fits ends, pure_bind]
          dsimp only
          rw [readLoop_ended json (later.trans noMore) (by dsimp only; omega)
            (by dsimp only; omega), pure_bind,
            afterRead_unterminated json state someBytes fits ends, noMore,
            splitLines]
          apply bind_congr
          intro progress
          cases progress with
          | sawDone assembler => rfl
          | more next =>
              dsimp only
              rw [takeLines, pure_bind]
      · have long := Nat.not_le.mp fits
        have length : (reads.line (state.remaining + 1)).length =
            state.remaining + 1 := by
          rw [reads.line_eq]
          exact length_takeLine_of_long long
        obtain ⟨error, crossed, refused⟩ :=
          readLine_crossed json bounded length
        unfold takeStreamLine
        rw [refused, crossedLimit_of_long long, crossed]
        rfl

theorem bounded_start : LineState.start.Bounded :=
  ⟨Nat.zero_le _, Nat.zero_le _⟩

/-- However the bytes arrive, the response is that of their lines. -/
theorem readStream_spec (json : JsonParser) (reads : Reads) :
    readStream json reads = streamSpec joinPayloads json reads.bytes := by
  rw [readStream_eq, streamSpec_eq]
  exact readLoop_spec json _ reads .start rfl bounded_start

end PlatoAgent
