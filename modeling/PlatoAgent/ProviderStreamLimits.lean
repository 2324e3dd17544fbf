import PlatoAgent.ProviderAgreement
import PlatoAgent.ProviderLines

/-!
# Limits of a streamed response

What holds of the assembler and of the texts after any number of lines, and
when a response is refused for its length.
-/

namespace PlatoAgent

open Emitting

namespace Emitting

variable {Result Next : Type}

theorem after_attempt (outcome : Except ProviderError Result)
    (texts : List String) :
    (attempt outcome).after texts =
      (outcome.mapError StreamFailure.refused, texts) := by
  cases outcome <;> rfl

/-- A sequence ends with a result after both of its parts did. -/
theorem after_bind_ok {first : Emitting Result}
    {second : Result → Emitting Next} {texts more : List String}
    {result : Next} :
    (first >>= second).after texts = (.ok result, more) ↔
      ∃ middle mid, first.after texts = (.ok middle, mid) ∧
        (second middle).after mid = (.ok result, more) := by
  rw [after_bind]
  cases first.after texts with
  | mk outcome mid =>
      cases outcome with
      | error failure =>
          constructor
          · intro ran
            cases ran
          · rintro ⟨middle, mid, ran, _⟩
            cases ran
      | ok middle =>
          constructor
          · exact fun ran => ⟨middle, mid, rfl, ran⟩
          · rintro ⟨other, otherMid, ran, rest⟩
            cases ran
            exact rest

/-- A sequence fails with either part. -/
theorem after_bind_error {first : Emitting Result}
    {second : Result → Emitting Next} {texts more : List String}
    {failure : StreamFailure} :
    (first >>= second).after texts = (.error failure, more) ↔
      first.after texts = (.error failure, more) ∨
      ∃ middle mid, first.after texts = (.ok middle, mid) ∧
        (second middle).after mid = (.error failure, more) := by
  rw [after_bind]
  cases first.after texts with
  | mk outcome mid =>
      cases outcome with
      | error other =>
          constructor
          · intro ran
            cases ran
            exact .inl rfl
          · rintro (ran | ⟨middle, mid, ran, _⟩)
            · cases ran
              rfl
            · cases ran
      | ok middle =>
          constructor
          · exact fun ran => .inr ⟨middle, mid, rfl, ran⟩
          · rintro (ran | ⟨other, otherMid, ran, rest⟩)
            · cases ran
            · cases ran
              exact rest

/-- A computation fails in certain ways only. -/
def FailsWith (allowed : StreamFailure → Prop) (computation : Emitting Result) :
    Prop :=
  ∀ texts failure more, computation.after texts = (.error failure, more) →
    allowed failure

variable {allowed : StreamFailure → Prop}

theorem failsWith_pure (result : Result) :
    FailsWith allowed (pure result : Emitting Result) := by
  intro texts failure more failed
  cases failed

theorem failsWith_refuse {error : ProviderError}
    (isAllowed : allowed (.refused error)) :
    FailsWith allowed (refuse error : Emitting Result) := by
  intro texts failure more failed
  cases failed
  exact isAllowed

theorem failsWith_attempt {outcome : Except ProviderError Result}
    (isAllowed : ∀ error, outcome = .error error → allowed (.refused error)) :
    FailsWith allowed (attempt outcome) := by
  intro texts failure more failed
  rw [after_attempt] at failed
  cases isOutcome : outcome with
  | ok result =>
      rw [isOutcome] at failed
      cases failed
  | error error =>
      rw [isOutcome] at failed
      cases failed
      exact isAllowed error isOutcome

theorem FailsWith.bind {first : Emitting Result}
    {second : Result → Emitting Next} (firstFails : FailsWith allowed first)
    (secondFails : ∀ result, FailsWith allowed (second result)) :
    FailsWith allowed (first >>= second) := by
  intro texts failure more failed
  rcases after_bind_error.mp failed with ran | ⟨middle, mid, _, ran⟩
  · exact firstFails texts failure more ran
  · exact secondFails middle mid failure more ran

end Emitting

section Assembling

variable {assembler after : StreamingAssembler} {texts more : List String}

theorem applyModel_of_emitModel {model : Option ModelName}
    (ran : (assembler.emitModel model).after texts = (.ok after, more)) :
    StreamRun.applyModel ⟨assembler, texts⟩ model = .ok ⟨after, more⟩ := by
  unfold StreamingAssembler.emitModel at ran
  unfold StreamRun.applyModel
  cases model with
  | none =>
      cases ran
      rfl
  | some name =>
      dsimp only at ran ⊢
      cases served : assembler.servedModel with
      | none =>
          rw [served] at ran
          cases ran
          rfl
      | some first =>
          rw [served] at ran
          dsimp only at ran ⊢
          split at ran
          next same =>
            cases ran
            rw [if_pos same]
          next => cases ran

theorem applyText_of_emitText {content : Option String}
    (ran : (assembler.emitText content).after texts = (.ok after, more)) :
    StreamRun.applyText ⟨assembler, texts⟩ content = .ok ⟨after, more⟩ := by
  unfold StreamingAssembler.emitText at ran
  unfold StreamRun.applyText
  cases kept : content.filter fun text => !text.isEmpty with
  | none =>
      rw [kept] at ran
      cases ran
      rfl
  | some text =>
      rw [kept] at ran
      dsimp only at ran ⊢
      split at ran
      · cases ran
      next fits =>
        cases ran
        rw [if_neg fits]

theorem applyChoice_of_emitChoice {choice : ChatChunkChoice}
    (ran : (assembler.emitChoice choice).after texts = (.ok after, more)) :
    StreamRun.applyChoice ⟨assembler, texts⟩ choice = .ok ⟨after, more⟩ := by
  unfold StreamingAssembler.emitChoice at ran
  unfold StreamRun.applyChoice
  split at ran
  next other =>
    cases ran
    rw [if_pos other]
  next first =>
    rw [if_neg first]
    obtain ⟨middle, mid, ranText, ran⟩ := after_bind_ok.mp ran
    obtain ⟨called, late, ranCalls, ran⟩ := after_bind_ok.mp ran
    rw [applyText_of_emitText ranText]
    rw [after_attempt] at ranCalls
    cases applied : middle.applyToolCalls choice.delta.toolCalls with
    | error error =>
        rw [applied] at ranCalls
        cases ranCalls
    | ok result =>
        rw [applied] at ranCalls
        cases ranCalls
        cases ran
        show (middle.applyToolCalls choice.delta.toolCalls >>= _) = _
        rw [applied]
        rfl

theorem applyChoices_of_emitChoices {choices : List ChatChunkChoice} :
    ∀ {assembler : StreamingAssembler} {texts : List String},
      Emitting.after (choices.foldlM StreamingAssembler.emitChoice assembler)
        texts = (.ok after, more) →
      choices.foldlM StreamRun.applyChoice ⟨assembler, texts⟩ =
        .ok ⟨after, more⟩ := by
  induction choices with
  | nil =>
      intro assembler texts ran
      cases ran
      rfl
  | cons choice rest ih =>
      intro assembler texts ran
      rw [List.foldlM_cons] at ran ⊢
      obtain ⟨next, late, ranChoice, ran⟩ := after_bind_ok.mp ran
      rw [applyChoice_of_emitChoice ranChoice]
      exact ih ran

theorem applyChunk_of_emitChunk {chunk : ChatCompletionChunk}
    (ran : (assembler.emitChunk chunk).after texts = (.ok after, more)) :
    StreamRun.applyChunk ⟨assembler, texts⟩ chunk = .ok ⟨after, more⟩ := by
  unfold StreamingAssembler.emitChunk at ran
  obtain ⟨middle, mid, ranModel, ran⟩ := after_bind_ok.mp ran
  unfold StreamRun.applyChunk
  rw [applyModel_of_emitModel ranModel]
  exact applyChoices_of_emitChoices ran

/-- The assembler and the texts are those of parts within the limits. -/
def Assembled (assembler : StreamingAssembler) (texts : List String) : Prop :=
  ∃ parts, Streamed parts ⟨assembler, texts⟩ ∧ WithinLimits parts

theorem assembled_start : Assembled .default [] :=
  ⟨[], .nil, .nil⟩

theorem assembled_of_foldlM {added : List StreamPart} {run : StreamRun} :
    ∀ {first : StreamRun} {parts : List StreamPart}, Streamed parts first →
      WithinLimits parts →
      added.foldlM StreamRun.applyPart first = .ok run →
      Assembled run.assembler run.deltas := by
  induction added with
  | nil =>
      intro first parts streamed within folded
      cases folded
      exact ⟨parts, streamed, within⟩
  | cons part rest ih =>
      intro first parts streamed within folded
      rw [List.foldlM_cons] at folded
      rcases applyPart_spec streamed within part with
        ⟨next, applied, nextStreamed, nextWithin⟩ | ⟨⟨error, failed⟩, _⟩
      · rw [applied] at folded
        exact ih nextStreamed nextWithin folded
      · rw [failed] at folded
        cases folded

theorem Assembled.chunk (assembled : Assembled assembler texts)
    {chunk : ChatCompletionChunk}
    (ran : (assembler.emitChunk chunk).after texts = (.ok after, more)) :
    Assembled after more := by
  have applied := applyChunk_of_emitChunk ran
  rw [StreamRun.applyChunk_eq] at applied
  obtain ⟨parts, streamed, within⟩ := assembled
  exact assembled_of_foldlM streamed within applied

theorem Assembled.data (assembled : Assembled assembler texts)
    {json : JsonParser} {data : String} {isLast : Bool}
    (ran : (assembler.emitData json data).after texts =
      (.ok (isLast, after), more)) : Assembled after more := by
  unfold StreamingAssembler.emitData at ran
  split at ran
  · cases ran
    exact assembled
  split at ran
  · cases ran
  split at ran
  · cases ran
  split at ran
  · cases ran
  obtain ⟨middle, mid, ranChunk, ran⟩ := after_bind_ok.mp ran
  cases ran
  exact assembled.chunk ranChunk

end Assembling

structure StreamingAssembler.Within (assembler : StreamingAssembler) : Prop where
  text : assembler.text.utf8ByteSize ≤ maxAssistantTextBytes
  calls : assembler.toolCalls.length ≤ maxToolCalls
  name : ∀ entry ∈ assembler.toolCalls,
    entry.2.name.utf8ByteSize ≤ maxToolNameBytes
  arguments : ∀ entry ∈ assembler.toolCalls,
    entry.2.arguments.utf8ByteSize ≤ maxToolArgumentBytes
  total : (assembler.toolCalls.map fun entry =>
    entry.2.arguments.utf8ByteSize).sum ≤ maxToolArgumentsBytes

/-- The indices of the calls are below the limit on their number. -/
theorem ToolCallMap.Assembles.length_le {calls : ToolCallMap}
    {deltas : List ChatToolCallDelta} (assembles : calls.Assembles deltas)
    (within : DeltasWithin deltas) : calls.length ≤ maxToolCalls := by
  have distinct : (calls.map (·.1)).Nodup :=
    assembles.ordered.imp fun less => ne_of_lt less
  have inside : (calls.map (·.1)).toFinset ⊆ Finset.range maxToolCalls := by
    intro key member
    rw [List.mem_toFinset] at member
    obtain ⟨delta, isDelta, same⟩ := (assembles.mem_keys_iff key).mp member
    have bound := within.index delta isDelta
    rw [Finset.mem_range]
    unfold maxToolCallIndex maxToolCalls at bound
    unfold maxToolCalls
    omega
  have card := Finset.card_le_card inside
  rw [List.toFinset_card_of_nodup distinct, List.length_map,
    Finset.card_range] at card
  exact card

/-- Each entry is the call of the deltas of its index. -/
theorem ToolCallMap.Assembles.entry_eq {calls : ToolCallMap}
    {deltas : List ChatToolCallDelta} (assembles : calls.Assembles deltas)
    {entry : Nat × StreamingToolCall} (member : entry ∈ calls) :
    entry.2 = assembledCall (deltasAt deltas entry.1) := by
  have distinct : (calls.map (·.1)).Nodup :=
    assembles.ordered.imp fun less => ne_of_lt less
  have isEntry : calls.get? entry.1 = some entry.2 :=
    lookup_of_mem distinct member
  rw [assembles.get?] at isEntry
  split at isEntry
  · cases isEntry
  · exact (Option.some.inj isEntry).symm

theorem ToolCallMap.Assembles.sum_arguments {calls : ToolCallMap}
    {deltas : List ChatToolCallDelta} (assembles : calls.Assembles deltas) :
    (calls.map fun entry => entry.2.arguments.utf8ByteSize).sum =
      argumentBytes deltas := by
  have distinct : (calls.map (·.1)).Nodup :=
    assembles.ordered.imp fun less => ne_of_lt less
  have covers : ∀ delta ∈ deltas, delta.index ∈ calls.map (·.1) := by
    intro delta member
    exact (assembles.mem_keys_iff delta.index).mpr ⟨delta, member, rfl⟩
  have total := sum_deltasAt
    (fun delta => delta.addedArguments.utf8ByteSize) distinct covers
  unfold argumentBytes
  rw [← total, List.map_map]
  congr 1
  apply List.map_congr_left
  intro entry member
  rw [assembles.entry_eq member, assembledCall_arguments, utf8ByteSize_join,
    List.map_map]
  rfl

theorem Assembled.within {assembler : StreamingAssembler}
    {texts : List String} (assembled : Assembled assembler texts) :
    assembler.Within ∧ String.join texts = assembler.text := by
  obtain ⟨parts, streamed, within⟩ := assembled
  have calls := streamed.calls
  refine ⟨?_, streamed.deltas.trans streamed.text.symm⟩
  constructor
  · rw [streamed.text]
    exact within.text
  · exact calls.length_le within.tools
  · intro entry member
    rw [calls.entry_eq member]
    exact within.tools.name entry.1
  · intro entry member
    rw [calls.entry_eq member]
    exact within.tools.arguments entry.1
  · rw [calls.sum_arguments]
    exact within.tools.total

def Progress.assembler {State : Type} (assembler : State → StreamingAssembler) :
    Progress State → StreamingAssembler
  | .sawDone result => result
  | .more state => assembler state

/-- The assembler after some lines. -/
def Progress.lineAssembler : Progress LineState → StreamingAssembler :=
  Progress.assembler LineState.assembler

section Lines

variable {json : JsonParser} {state : LineState} {texts more : List String}

theorem assembled_of_endEvent (assembled : Assembled state.assembler texts)
    {progress : Progress LineState}
    (ran : (endEvent joinPayloads json state).after texts =
      (.ok progress, more)) : Assembled progress.lineAssembler more := by
  unfold endEvent at ran
  dsimp only at ran
  split at ran
  · cases ran
    exact assembled
  · obtain ⟨⟨isLast, assembler⟩, mid, ranData, ran⟩ := after_bind_ok.mp ran
    have after := assembled.data ranData
    cases isLast with
    | true =>
        cases ran
        exact after
    | false =>
        cases ran
        exact after

theorem assembled_of_takeStreamLine
    (assembled : Assembled state.assembler texts) {line : List UInt8}
    {progress : Progress LineState}
    (ran : (takeStreamLine joinPayloads json state line).after texts =
      (.ok progress, more)) : Assembled progress.lineAssembler more := by
  unfold takeStreamLine at ran
  dsimp only at ran
  split at ran
  · cases ran
  split at ran
  · cases ran
  · exact @assembled_of_endEvent json ⟨state.payloads, _, 0, state.assembler⟩
      texts more assembled progress ran
  · cases ran
    exact assembled

theorem assembled_of_takeLines {lines : List (List UInt8)} :
    ∀ {state : LineState} {texts : List String},
      Assembled state.assembler texts → ∀ {progress : Progress LineState},
      (takeLines joinPayloads json lines state).after texts =
        (.ok progress, more) → Assembled progress.lineAssembler more := by
  induction lines with
  | nil =>
      intro state texts assembled progress ran
      cases ran
      exact assembled
  | cons line rest ih =>
      intro state texts assembled progress ran
      rw [takeLines] at ran
      obtain ⟨next, mid, ranLine, ran⟩ := after_bind_ok.mp ran
      have after := assembled_of_takeStreamLine assembled ranLine
      cases next with
      | sawDone assembler =>
          cases ran
          exact after
      | more next => exact ih after ran

/-- The lines are taken in two parts. -/
theorem takeLines_append (before after : List (List UInt8))
    (state : LineState) :
    takeLines joinPayloads json (before ++ after) state =
      takeLines joinPayloads json before state >>= fun progress =>
        match progress with
        | .sawDone assembler => pure (.sawDone assembler)
        | .more state => takeLines joinPayloads json after state := by
  induction before generalizing state with
  | nil => rfl
  | cons line rest ih =>
      rw [List.cons_append, takeLines, takeLines, bind_assoc]
      apply bind_congr
      intro progress
      cases progress with
      | sawDone assembler => rfl
      | more next => exact ih next

/-- Lines fail at the first line that fails. -/
theorem takeLines_error_iff {lines : List (List UInt8)}
    {failure : StreamFailure} :
    ∀ {state : LineState} {texts : List String},
      (takeLines joinPayloads json lines state).after texts =
        (.error failure, more) ↔
      ∃ before line after next mid, lines = before ++ line :: after ∧
        (takeLines joinPayloads json before state).after texts =
          (.ok (.more next), mid) ∧
        (takeStreamLine joinPayloads json next line).after mid =
          (.error failure, more) := by
  induction lines with
  | nil =>
      intro state texts
      constructor
      · intro ran
        cases ran
      · rintro ⟨before, line, after, next, mid, isNil, _⟩
        simp at isNil
  | cons first rest ih =>
      intro state texts
      rw [takeLines, after_bind_error]
      constructor
      · rintro (ran | ⟨progress, mid, ranLine, ran⟩)
        · exact ⟨[], first, rest, state, texts, rfl, rfl, ran⟩
        · cases progress with
          | sawDone assembler => cases ran
          | more next =>
              obtain ⟨before, line, after, last, late, rfl, ranBefore, ranLast⟩
                := ih.mp ran
              refine ⟨first :: before, line, after, last, late, rfl, ?_, ranLast⟩
              rw [takeLines, after_bind_ok]
              exact ⟨_, mid, ranLine, ranBefore⟩
      · rintro ⟨before, line, after, next, mid, isLines, ranBefore, ranLine⟩
        cases before with
        | nil =>
            cases isLines
            cases ranBefore
            exact .inl ranLine
        | cons other before =>
            rw [List.cons_append, List.cons.injEq] at isLines
            obtain ⟨rfl, rfl⟩ := isLines
            rw [takeLines, after_bind_ok] at ranBefore
            obtain ⟨progress, late, ranFirst, ranBefore⟩ := ranBefore
            cases progress with
            | sawDone assembler => cases ranBefore
            | more middle =>
                exact .inr ⟨_, late, ranFirst, ih.mpr
                  ⟨before, line, after, next, mid, rfl, ranBefore, ranLine⟩⟩

end Lines

def isBlankLine (line : List UInt8) : Bool :=
  lineText line == some []

/-- The lines of the event that has not ended. -/
def openLines (lines : List (List UInt8)) : List (List UInt8) :=
  lines.rtakeWhile fun line => !isBlankLine line

theorem takeStreamLine_counts {json : JsonParser} {state next : LineState}
    {texts more : List String} {line : List UInt8}
    (ran : (takeStreamLine joinPayloads json state line).after texts =
      (.ok (.more next), more)) :
    next.totalBytes = state.totalBytes + line.length ∧
    next.eventBytes = if isBlankLine line then 0
      else state.eventBytes + line.length := by
  unfold isBlankLine
  unfold takeStreamLine at ran
  dsimp only at ran
  split at ran
  · cases ran
  cases isText : lineText line with
  | none =>
      rw [isText] at ran
      cases ran
  | some text =>
      rw [isText] at ran
      cases text with
      | nil =>
          obtain ⟨total, event⟩ := endEvent_counts ran
          exact ⟨total, event⟩
      | cons first rest =>
          cases ran
          exact ⟨rfl, rfl⟩

/-- The counts are those of all lines, and of the open event. -/
theorem takeLines_counts {json : JsonParser} {lines : List (List UInt8)} :
    ∀ {next : LineState} {texts more : List String},
      (takeLines joinPayloads json lines .start).after texts =
        (.ok (.more next), more) →
      next.totalBytes = lines.flatten.length ∧
        next.eventBytes = (openLines lines).flatten.length := by
  induction lines using List.reverseRecOn with
  | nil =>
      intro next texts more ran
      cases ran
      exact ⟨rfl, rfl⟩
  | append_singleton lines line ih =>
      intro next texts more ran
      rw [takeLines_append] at ran
      obtain ⟨progress, mid, ranBefore, ran⟩ := after_bind_ok.mp ran
      cases progress with
      | sawDone assembler => cases ran
      | more middle =>
          obtain ⟨total, event⟩ := ih ranBefore
          dsimp only at ran
          rw [takeLines] at ran
          obtain ⟨last, late, ranLine, ran⟩ := after_bind_ok.mp ran
          cases last with
          | sawDone assembler => cases ran
          | more last =>
              cases ran
              obtain ⟨nextTotal, nextEvent⟩ := takeStreamLine_counts ranLine
              constructor
              · rw [nextTotal, total]
                simp
              · rw [nextEvent]
                unfold openLines
                cases blank : isBlankLine line with
                | true =>
                    rw [List.rtakeWhile_concat_neg _ _ _ (by simp [blank])]
                    rfl
                | false =>
                    rw [List.rtakeWhile_concat_pos _ _ _ (by simp [blank]),
                      event]
                    simp [openLines]

/-- A failure that is neither an underflow nor a limit of the stream. -/
def NotLimit (failure : StreamFailure) : Prop :=
  failure ≠ .underflow ∧ failure ≠ .refused totalLimitError ∧
    failure ≠ .refused eventLimitError

theorem notLimit_io : NotLimit (.refused .io) := by
  refine ⟨?_, ?_, ?_⟩ <;> decide

/-- The errors of the bounds on what is assembled. -/
def boundErrors : List ProviderError :=
  [toolNameLimitError, toolArgumentLimitError, toolArgumentsLimitError,
    toolCallLimitError, assistantTextLimitError, conflictingServedModelError,
    endedBeforeDoneError]

theorem notLimit_of_mem {error : ProviderError} (member : error ∈ boundErrors) :
    NotLimit (.refused error) := by
  simp only [boundErrors, List.mem_cons, List.not_mem_nil, or_false] at member
  rcases member with rfl | rfl | rfl | rfl | rfl | rfl | rfl <;>
    simp [NotLimit, totalLimitError, eventLimitError, toolNameLimitError,
      toolArgumentLimitError, toolArgumentsLimitError, toolCallLimitError,
      assistantTextLimitError, conflictingServedModelError,
      endedBeforeDoneError]

/-- The texts of the limits start in the same way. -/
theorem notLimit_of_take {text : String}
    (different : text.toList.take 12 ≠ "provider res".toList) :
    NotLimit (.refused (.provider text)) := by
  refine ⟨by simp, ?_, ?_⟩
  · intro same
    rw [StreamFailure.refused.injEq, totalLimitError,
      ProviderError.provider.injEq] at same
    rw [same] at different
    exact different (by simp)
  · intro same
    rw [StreamFailure.refused.injEq, eventLimitError,
      ProviderError.provider.injEq] at same
    rw [same] at different
    exact different (by simp)

theorem notLimit_append {start : String} (long : 12 ≤ start.toList.length)
    (different : start.toList.take 12 ≠ "provider res".toList)
    (rest : String) : NotLimit (.refused (.provider (start ++ rest))) := by
  apply notLimit_of_take
  rw [String.toList_append, List.take_append_of_le_length long]
  exact different

theorem notLimit_checkLimits {delta : ChatToolCallDelta}
    {current : StreamingToolCall} {bytes : Nat} {error : ProviderError}
    (failed : delta.checkLimits current bytes = .error error) :
    NotLimit (.refused error) := by
  unfold ChatToolCallDelta.checkLimits at failed
  split at failed
  · cases failed
  split at failed
  · cases failed
    exact notLimit_of_mem (by simp [boundErrors])
  split at failed
  · cases failed
    exact notLimit_of_mem (by simp [boundErrors])
  split at failed
  · cases failed
    exact notLimit_of_mem (by simp [boundErrors])
  · cases failed

theorem notLimit_applyToolCall {assembler : StreamingAssembler}
    {delta : ChatToolCallDelta} {error : ProviderError}
    (failed : assembler.applyToolCall delta = .error error) :
    NotLimit (.refused error) := by
  unfold StreamingAssembler.applyToolCall at failed
  split at failed
  · cases failed
    exact notLimit_of_mem (by simp [boundErrors])
  split at failed
  · cases failed
    exact notLimit_of_mem (by simp [boundErrors])
  split at failed
  next isError =>
    cases failed
    exact notLimit_checkLimits isError
  · cases failed

theorem notLimit_applyToolCalls {deltas : List ChatToolCallDelta}
    {error : ProviderError} :
    ∀ {assembler : StreamingAssembler},
      assembler.applyToolCalls deltas = .error error →
      NotLimit (.refused error) := by
  induction deltas with
  | nil =>
      intro assembler failed
      cases failed
  | cons delta rest ih =>
      intro assembler failed
      unfold StreamingAssembler.applyToolCalls at failed
      rw [List.foldlM_cons] at failed
      cases applied : assembler.applyToolCall delta with
      | error other =>
          rw [applied] at failed
          cases failed
          exact notLimit_applyToolCall applied
      | ok next =>
          rw [applied] at failed
          exact ih failed

theorem emitChunk_failsWith (assembler : StreamingAssembler)
    (chunk : ChatCompletionChunk) :
    FailsWith NotLimit (assembler.emitChunk chunk) := by
  have model : ∀ (assembler : StreamingAssembler) (model : Option ModelName),
      FailsWith NotLimit (assembler.emitModel model) := by
    intro assembler model
    unfold StreamingAssembler.emitModel
    split
    · exact failsWith_pure _
    · split
      · exact failsWith_pure _
      · apply failsWith_refuse
        exact notLimit_of_mem (by simp [boundErrors])
    · exact failsWith_pure _
  have text : ∀ (assembler : StreamingAssembler) (content : Option String),
      FailsWith NotLimit (assembler.emitText content) := by
    intro assembler content
    unfold StreamingAssembler.emitText
    split
    · exact failsWith_pure _
    · split
      · refine FailsWith.bind (failsWith_refuse ?_) fun _ => ?_
        · exact notLimit_of_mem (by simp [boundErrors])
        · intro texts failure more failed
          cases failed
      · intro texts failure more failed
        cases failed
  have choice : ∀ (assembler : StreamingAssembler) (choice : ChatChunkChoice),
      FailsWith NotLimit (assembler.emitChoice choice) := by
    intro assembler choice
    unfold StreamingAssembler.emitChoice
    split
    · exact failsWith_pure _
    · refine (text _ _).bind fun middle => ?_
      refine FailsWith.bind (failsWith_attempt ?_) fun _ => failsWith_pure _
      exact fun error failed => notLimit_applyToolCalls failed
  unfold StreamingAssembler.emitChunk
  refine (model _ _).bind fun middle => ?_
  dsimp only
  generalize (⟨middle.text, middle.toolCalls, middle.toolArgumentsBytes,
    middle.finishReason, middle.servedModel, chunk.usage.or middle.usage⟩ :
      StreamingAssembler) = first
  induction chunk.choices generalizing first with
  | nil => exact failsWith_pure _
  | cons head rest ih =>
      rw [List.foldlM_cons]
      exact (choice _ _).bind fun next => ih next

theorem emitData_failsWith (json : JsonParser) (data : String)
    (assembler : StreamingAssembler) :
    FailsWith NotLimit (assembler.emitData json data) := by
  unfold StreamingAssembler.emitData
  split
  · exact failsWith_pure _
  split
  next error _ =>
    apply failsWith_refuse
    exact notLimit_append (by simp [toString]) (by simp [toString]) error
  split
  · apply failsWith_refuse
    simp [NotLimit, totalLimitError, eventLimitError]
  split
  next error _ =>
    apply failsWith_refuse
    exact notLimit_append (by simp [toString]) (by simp [toString]) error
  · exact (emitChunk_failsWith _ _).bind fun _ => failsWith_pure _

theorem endEvent_failsWith (json : JsonParser) (state : LineState) :
    FailsWith NotLimit (endEvent joinPayloads json state) := by
  unfold endEvent
  dsimp only
  split
  · exact failsWith_pure _
  · refine (emitData_failsWith json _ _).bind fun result => ?_
    obtain ⟨isLast, assembler⟩ := result
    cases isLast <;> exact failsWith_pure _

theorem notLimit_toolUse {json : JsonParser} {id name arguments : String}
    {error : ProviderError}
    (failed : toolUseFromProvider json id name arguments = .error error) :
    NotLimit (.refused error) := by
  unfold toolUseFromProvider validateToolCall at failed
  split at failed
  · cases failed
    simp [NotLimit, totalLimitError, eventLimitError]
  split at failed
  next other isError =>
    cases failed
    split at isError
    · cases isError
      exact notLimit_of_mem (by simp [boundErrors])
    split at isError
    · cases isError
      exact notLimit_of_mem (by simp [boundErrors])
    · cases isError
  split at failed
  · cases failed
    exact notLimit_append (by simp [toString]) (by simp [toString]) name
  split at failed
  · cases failed
    apply notLimit_of_take
    rw [String.toList_append, String.toList_append, String.toList_append,
      List.append_assoc, List.append_assoc,
      List.take_append_of_le_length (by simp [toString])]
    simp [toString]
  · cases failed

theorem notLimit_intoModelResponse {json : JsonParser}
    {assembler : StreamingAssembler} {error : ProviderError}
    (failed : assembler.intoModelResponse json = .error error) :
    NotLimit (.refused error) := by
  have blocks : ∀ {calls : ToolCallMap} {error : ProviderError},
      (calls.mapM fun entry : Nat × StreamingToolCall =>
        entry.2.intoBlock json) = .error error →
      NotLimit (.refused error) := by
    intro calls
    induction calls with
    | nil =>
        intro error failed
        cases failed
    | cons entry rest ih =>
        intro error failed
        rw [List.mapM_cons] at failed
        cases block : entry.2.intoBlock json with
        | error other =>
            rw [block] at failed
            cases failed
            unfold StreamingToolCall.intoBlock at block
            split at block
            · cases block
              simp [NotLimit, totalLimitError, eventLimitError]
            · exact notLimit_toolUse block
        | ok value =>
            rw [block] at failed
            cases more : rest.mapM fun entry : Nat × StreamingToolCall =>
                entry.2.intoBlock json with
            | error other =>
                rw [more] at failed
                cases failed
                exact ih more
            | ok values =>
                rw [more] at failed
                cases failed
  unfold StreamingAssembler.intoModelResponse at failed
  split at failed
  next isError =>
    cases failed
    exact blocks isError
  split at failed
  · cases failed
    simp [NotLimit, totalLimitError, eventLimitError]
  · cases failed

theorem afterLines_failsWith (json : JsonParser)
    (progress : Progress LineState) :
    FailsWith NotLimit (afterLines json progress) := by
  have close : ∀ progress : Progress LineState,
      FailsWith NotLimit (closeStream json progress) := by
    intro progress
    cases progress with
    | sawDone assembler =>
        exact failsWith_attempt fun error failed =>
          notLimit_intoModelResponse failed
    | more state =>
        apply failsWith_refuse
        exact notLimit_of_mem (by simp [boundErrors])
  unfold afterLines
  cases progress with
  | sawDone assembler => exact (failsWith_pure _).bind close
  | more state => exact (endEvent_failsWith json state).bind close

theorem fits_of_crossedLimit {state : LineState} {length : Nat}
    (inside : crossedLimit state length = none) : length ≤ state.remaining := by
  unfold crossedLimit at inside
  dsimp only at inside
  split at inside
  next fits => exact le_min fits.1 fits.2
  next =>
    split at inside
    · cases inside
    · cases inside

theorem bounded_of_takeLines {json : JsonParser} {lines : List (List UInt8)}
    {next : LineState} {more : List String} :
    ∀ {state : LineState} {texts : List String}, state.Bounded →
      (takeLines joinPayloads json lines state).after texts =
        (.ok (.more next), more) → next.Bounded := by
  induction lines with
  | nil =>
      intro state texts bounded ran
      cases ran
      exact bounded
  | cons line rest ih =>
      intro state texts bounded ran
      rw [takeLines] at ran
      obtain ⟨progress, mid, ranLine, ran⟩ := after_bind_ok.mp ran
      cases progress with
      | sawDone assembler => cases ran
      | more middle =>
          have inside : crossedLimit state line.length = none := by
            unfold takeStreamLine at ranLine
            split at ranLine
            · cases ranLine
            next isNone => exact isNone
          exact ih (bounded_of_takeStreamLine bounded
            (fits_of_crossedLimit inside) ranLine) ran

theorem crossedLimit_total_iff {state : LineState} (bounded : state.Bounded)
    {length : Nat} :
    crossedLimit state length = some totalLimitError ↔
      maxDecodedResponseBytes < state.totalBytes + length ∧
      maxDecodedResponseBytes - state.totalBytes ≤
        maxSseEventBytes - state.eventBytes := by
  have total := bounded.total
  unfold crossedLimit
  dsimp only
  split
  next inside =>
    constructor
    · intro isSome
      cases isSome
    · omega
  next outside =>
    split
    next isTotal =>
      refine ⟨fun _ => ⟨by omega, isTotal⟩, fun _ => rfl⟩
    next notTotal =>
      constructor
      · intro same
        exact absurd same (by simp [totalLimitError, eventLimitError])
      · exact fun both => absurd both.2 notTotal

theorem crossedLimit_event_iff {state : LineState} (bounded : state.Bounded)
    {length : Nat} :
    crossedLimit state length = some eventLimitError ↔
      maxSseEventBytes < state.eventBytes + length ∧
      maxSseEventBytes - state.eventBytes <
        maxDecodedResponseBytes - state.totalBytes := by
  have event := bounded.event
  unfold crossedLimit
  dsimp only
  split
  next inside =>
    constructor
    · intro isSome
      cases isSome
    · omega
  next outside =>
    split
    next isTotal =>
      constructor
      · intro same
        exact absurd same (by simp [totalLimitError, eventLimitError])
      · omega
    next notTotal =>
      refine ⟨fun _ => ⟨by omega, by omega⟩, fun _ => rfl⟩

/-- A line that is read before the last event, after lines that do not fail. -/
def ReadsLine (json : JsonParser) (bytes : List UInt8)
    (before : List (List UInt8)) (line : List UInt8) : Prop :=
  (∃ after, splitLines bytes = before ++ line :: after) ∧
  ∃ state texts, (takeLines joinPayloads json before .start).after [] =
    (.ok (.more state), texts)

/-- A failure of a line is refused for a limit when the line crosses it. -/
theorem takeStreamLine_limit_iff {json : JsonParser} {state : LineState}
    {line : List UInt8} {texts : List String} {error : ProviderError}
    (isLimit : ¬ NotLimit (.refused error)) :
    (∃ more, (takeStreamLine joinPayloads json state line).after texts =
      (.error (.refused error), more)) ↔
        crossedLimit state line.length = some error := by
  unfold takeStreamLine
  cases crossed : crossedLimit state line.length with
  | some other =>
      constructor
      · rintro ⟨more, ran⟩
        cases ran
        rfl
      · intro same
        cases same
        exact ⟨texts, rfl⟩
  | none =>
      constructor
      · rintro ⟨more, ran⟩
        dsimp only at ran
        split at ran
        · cases ran
          exact absurd notLimit_io isLimit
        · exact absurd (endEvent_failsWith json _ _ _ _ ran) isLimit
        · cases ran
      · intro isSome
        cases isSome

/-- A limit is reported when a line crosses it. -/
theorem streamSpec_limit_iff {json : JsonParser} {bytes : List UInt8}
    {error : ProviderError} (isLimit : ¬ NotLimit (.refused error)) :
    ((streamSpec joinPayloads json bytes).after []).1 =
        .error (.refused error) ↔
      ∃ before line state, (∃ after, splitLines bytes = before ++ line :: after) ∧
        (∃ texts, (takeLines joinPayloads json before .start).after [] =
          (.ok (.more state), texts)) ∧
        crossedLimit state line.length = some error := by
  have asPair : ((streamSpec joinPayloads json bytes).after []).1 =
      .error (.refused error) ↔
        ∃ more, (streamSpec joinPayloads json bytes).after [] =
          (.error (.refused error), more) := by
    constructor
    · intro same
      exact ⟨_, Prod.ext same rfl⟩
    · rintro ⟨more, same⟩
      rw [same]
  rw [asPair, streamSpec_eq]
  constructor
  · rintro ⟨more, ran⟩
    rcases after_bind_error.mp ran with ran | ⟨progress, mid, _, ran⟩
    · obtain ⟨before, line, after, state, texts, isLines, ranBefore, ranLine⟩ :=
        takeLines_error_iff.mp ran
      exact ⟨before, line, state, ⟨after, isLines⟩, ⟨texts, ranBefore⟩,
        (takeStreamLine_limit_iff isLimit).mp ⟨more, ranLine⟩⟩
    · exact absurd (afterLines_failsWith json progress _ _ _ ran) isLimit
  · rintro ⟨before, line, state, ⟨after, isLines⟩, ⟨texts, ranBefore⟩, crossed⟩
    obtain ⟨more, ranLine⟩ :=
      (@takeStreamLine_limit_iff json state line texts error isLimit).mpr
        crossed
    refine ⟨more, after_bind_error.mpr (.inl ?_)⟩
    exact takeLines_error_iff.mpr
      ⟨before, line, after, state, texts, isLines, ranBefore, ranLine⟩

/-- What reading a response line by line comes to. -/
structure ReadsAsLines (json : JsonParser) (reads : Reads) : Prop where
  lines : readStream json reads = streamSpec joinPayloads json reads.bytes
  noUnderflow : ∀ texts,
    ((readStream json reads).after texts).1 ≠ .error .underflow
  totalLimit : ((readStream json reads).after []).1 =
      .error (.refused totalLimitError) ↔
    ∃ before line, ReadsLine json reads.bytes before line ∧
      maxDecodedResponseBytes < before.flatten.length + line.length ∧
      maxDecodedResponseBytes - before.flatten.length ≤
        maxSseEventBytes - (openLines before).flatten.length
  eventLimit : ((readStream json reads).after []).1 =
      .error (.refused eventLimitError) ↔
    ∃ before line, ReadsLine json reads.bytes before line ∧
      maxSseEventBytes < (openLines before).flatten.length + line.length ∧
      maxSseEventBytes - (openLines before).flatten.length <
        maxDecodedResponseBytes - before.flatten.length
  assembled : ∀ before after progress texts,
    splitLines reads.bytes = before ++ after →
    (takeLines joinPayloads json before .start).after [] =
      (.ok progress, texts) →
    progress.lineAssembler.Within ∧
      String.join texts = progress.lineAssembler.text
  failed : ∀ before line after state texts failure more,
    splitLines reads.bytes = before ++ line :: after →
    (takeLines joinPayloads json before .start).after [] =
      (.ok (.more state), texts) →
    (takeStreamLine joinPayloads json state line).after texts =
      (.error failure, more) →
    (readStream json reads).after [] = (.error failure, more)

/-- However a response arrives, it is read as its lines, in unsigned numbers
that do not underflow and within the limits of each part. -/
theorem readsAsLines (json : JsonParser) (reads : Reads) :
    ReadsAsLines json reads := by
  have lines := readStream_spec json reads
  have counts : ∀ {before state}, (∃ texts, (takeLines joinPayloads json before
      .start).after [] = (.ok (.more state), texts)) →
        state.Bounded ∧ state.totalBytes = before.flatten.length ∧
          state.eventBytes = (openLines before).flatten.length := by
    rintro before state ⟨texts, ran⟩
    exact ⟨bounded_of_takeLines bounded_start ran, takeLines_counts ran⟩
  constructor
  · exact lines
  · intro texts isUnderflow
    rw [lines, streamSpec_eq] at isUnderflow
    have ran : (takeLines joinPayloads json (splitLines reads.bytes) .start >>=
        afterLines json).after texts = (.error .underflow, _) :=
      Prod.ext isUnderflow rfl
    rcases after_bind_error.mp ran with ran | ⟨progress, mid, _, ran⟩
    · obtain ⟨before, line, after, state, late, _, _, ranLine⟩ :=
        takeLines_error_iff.mp ran
      unfold takeStreamLine at ranLine
      dsimp only at ranLine
      split at ranLine
      · cases ranLine
      split at ranLine
      · cases ranLine
      · exact (endEvent_failsWith json _ _ _ _ ranLine).1 rfl
      · cases ranLine
    · exact (afterLines_failsWith json progress _ _ _ ran).1 rfl
  · rw [lines, streamSpec_limit_iff fun isNot => isNot.2.1 rfl]
    constructor
    · rintro ⟨before, line, state, isLines, ran, crossed⟩
      obtain ⟨bounded, total, event⟩ := counts ran
      rw [crossedLimit_total_iff bounded, total, event] at crossed
      exact ⟨before, line, ⟨isLines, state, ran⟩, crossed⟩
    · rintro ⟨before, line, ⟨isLines, state, ran⟩, crossed⟩
      obtain ⟨bounded, total, event⟩ := counts ran
      rw [← total, ← event] at crossed
      exact ⟨before, line, state, isLines, ran,
        (crossedLimit_total_iff bounded).mpr crossed⟩
  · rw [lines, streamSpec_limit_iff fun isNot => isNot.2.2 rfl]
    constructor
    · rintro ⟨before, line, state, isLines, ran, crossed⟩
      obtain ⟨bounded, total, event⟩ := counts ran
      rw [crossedLimit_event_iff bounded, total, event] at crossed
      exact ⟨before, line, ⟨isLines, state, ran⟩, crossed⟩
    · rintro ⟨before, line, ⟨isLines, state, ran⟩, crossed⟩
      obtain ⟨bounded, total, event⟩ := counts ran
      rw [← total, ← event] at crossed
      exact ⟨before, line, state, isLines, ran,
        (crossedLimit_event_iff bounded).mpr crossed⟩
  · intro before after progress texts _ ran
    exact (assembled_of_takeLines assembled_start ran).within
  · intro before line after state texts failure more isLines ranBefore ranLine
    rw [lines, streamSpec_eq]
    apply after_bind_error.mpr
    left
    exact takeLines_error_iff.mpr
      ⟨before, line, after, state, texts, isLines, ranBefore, ranLine⟩

/-- Two empty lines of data, and a response. -/
def emptyDataReads : Reads where
  buffers := [textBytes ("data:\ndata:\n\n" ++
    "data: \x7b\"choices\":[\x7b\"finish_reason\":\"stop\"\x7d]\x7d\n\n" ++
    "data: [DONE]\n\n")]
  nonempty := by decide +kernel

/-- With every payload joined, the event of two empty ones is a newline, which
is not JSON; the loop has no data for it and goes on. -/
theorem readStream_ne_joined :
    ((readStream jsonTextParser emptyDataReads).after []).1.isOk = true ∧
    ((streamSpec "\n".intercalate jsonTextParser
      emptyDataReads.bytes).after []).1.isOk = false := by
  rw [readStream_spec]
  constructor <;> decide +kernel

end PlatoAgent
