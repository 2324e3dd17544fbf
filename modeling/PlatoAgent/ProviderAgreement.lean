import PlatoAgent.JsonText
import PlatoAgent.ProviderDelivery

/-!
# One body and a stream of chunks

A choice that is read from a body and the same choice in chunks come to the same
response, or to none, when every tool call has the type of a function.  Only the
body is checked for that type.
-/

namespace PlatoAgent

/-- The totals of a choice are within the limits. -/
structure ChoiceShape.Within (choice : ChoiceShape) : Prop where
  text : (choice.content.getD "").utf8ByteSize ≤ maxAssistantTextBytes
  calls : choice.calls.length ≤ maxToolCalls
  arguments : (choice.calls.map fun call =>
    (call.arguments.getD "").utf8ByteSize).sum ≤ maxToolArgumentsBytes

instance ChoiceShape.decidableWithin (choice : ChoiceShape) :
    Decidable choice.Within :=
  decidable_of_iff ((choice.content.getD "").utf8ByteSize ≤
      maxAssistantTextBytes ∧ choice.calls.length ≤ maxToolCalls ∧
      (choice.calls.map fun call =>
        (call.arguments.getD "").utf8ByteSize).sum ≤ maxToolArgumentsBytes)
    ⟨fun parts => ⟨parts.1, parts.2.1, parts.2.2⟩,
      fun within => ⟨within.text, within.calls, within.arguments⟩⟩

/-- The response of a choice, however it is delivered. -/
def agreedResponse (json : JsonParser) (response : ResponseShape)
    (choice : ChoiceShape) : Option ModelResponse :=
  if choice.Within then do
    let value ← choice.finishReason
    let reason ← knownReason value
    let blocks ← choice.calls.mapM (ToolCallShape.block json)
    return modelResponse (nonemptyText (choice.content.getD "") ++ blocks)
      reason response.model response.usage
  else none

section Delivered

variable {shapes : List ChunkShape} {response : ResponseShape}
  {choice : ChoiceShape}

theorem Delivers.argumentBytes_eq (delivers : Delivers shapes response choice) :
    argumentBytes (toolDeltas shapes) = (choice.calls.map fun call =>
      (call.arguments.getD "").utf8ByteSize).sum := by
  have total := sum_deltasAt
    (fun delta => delta.addedArguments.utf8ByteSize) List.nodup_range
      fun delta member => List.mem_range.mpr (delivers.indices delta member)
  unfold argumentBytes
  rw [← total]
  congr 1
  apply List.ext_getElem
  · rw [List.length_map, List.length_map, List.length_range]
  intro index inside isCall
  rw [List.length_map] at isCall
  have arguments := (delivers.calls index isCall).arguments
  rw [List.getElem_map, List.getElem_map, List.getElem_range, ← arguments,
    utf8ByteSize_join, List.map_map]
  rfl

/-- The reasons of the chunks are readable exactly when that of the choice is. -/
theorem Delivers.readable_iff (delivers : Delivers shapes response choice) :
    (∀ shape ∈ shapes, shape.Readable) ↔
      ∀ value ∈ choice.finishReason, (knownReason value).isSome = true := by
  constructor
  · intro readable value isReason
    have member : value ∈ (firstChoices shapes).filterMap (·.finishReason) := by
      rw [delivers.finish, isReason]
      exact List.mem_cons_self
    obtain ⟨first, isFirst, hasReason⟩ := List.mem_filterMap.mp member
    obtain ⟨shape, isShape, isChoice⟩ := List.mem_flatMap.mp isFirst
    exact readable shape isShape first (List.mem_filter.mp isChoice).1 value
      hasReason
  · intro known shape isShape first isChoice
    by_cases isFirst : first.index = 0
    · intro value hasReason
      apply known value
      have member : value ∈ (firstChoices shapes).filterMap
          (·.finishReason) := by
        apply List.mem_filterMap.mpr
        refine ⟨first, List.mem_flatMap.mpr ⟨shape, isShape, ?_⟩, hasReason⟩
        exact List.mem_filter.mpr ⟨isChoice, by simpa using isFirst⟩
      rw [delivers.finish] at member
      exact Option.mem_toList.mp member
    · exact delivers.others shape isShape first isChoice isFirst

/-- The blocks of the assembled calls are those of the choice. -/
theorem Delivers.blocks_eq (delivers : Delivers shapes response choice)
    {calls : ToolCallMap} (assembles : calls.Assembles (toolDeltas shapes))
    (json : JsonParser) :
    (calls.mapM fun entry : Nat × StreamingToolCall =>
      entry.2.intoBlock json).toOption =
      choice.calls.mapM (ToolCallShape.block json) := by
  have each : ∀ index < choice.calls.length,
      deltasAt (toolDeltas shapes) index ≠ [] := by
    intro index inside
    obtain ⟨first, rest, isCons, _⟩ := (delivers.calls index inside).id
    rw [isCons]
    exact List.cons_ne_nil first rest
  have inOrder := assembles.eq_range delivers.indices each
  have shapesInOrder : choice.calls.map (ToolCallShape.block json) =
      (List.range choice.calls.length).map fun index =>
        ((assembledCall (deltasAt (toolDeltas shapes) index)).intoBlock
          json).toOption := by
    apply List.ext_getElem
    · rw [List.length_map, List.length_map, List.length_range]
    intro index isCall inside
    rw [List.length_map] at isCall
    rw [List.getElem_map, List.getElem_map, List.getElem_range,
      (delivers.calls index isCall).intoBlock_eq]
  rw [toOption_mapM, inOrder]
  apply mapM_congr
  rw [List.map_map, shapesInOrder]
  rfl

/-- Outside of the limits, the choice has no response. -/
theorem Delivers.agreed_of_not_within
    (delivers : Delivers shapes response choice)
    (outside : ¬ WithinLimits (partsOf shapes)) (json : JsonParser) :
    agreedResponse json response choice = none := by
  by_contra isSome
  obtain ⟨result, isResult⟩ := Option.ne_none_iff_exists'.mp isSome
  unfold agreedResponse at isResult
  obtain ⟨within, isResult⟩ := Option.ite_none_right_eq_some.mp isResult
  apply outside
  have deltas := streamedDeltas_partsOf shapes
  have blocks : ∀ call ∈ choice.calls, call.block json ≠ none := by
    intro call member isNone
    rw [mapM_none member isNone] at isResult
    cases reason : choice.finishReason with
    | none =>
        rw [reason] at isResult
        cases isResult
    | some value =>
        rw [reason] at isResult
        simp at isResult
  have sized : ∀ call ∈ choice.calls,
      (call.name.getD "").utf8ByteSize ≤ maxToolNameBytes ∧
      (call.arguments.getD "").utf8ByteSize ≤ maxToolArgumentBytes := by
    intro call member
    have hasBlock := blocks call member
    unfold ToolCallShape.block toolUseFromProvider validateToolCall at hasBlock
    by_cases blank : trimIsEmpty (call.id.getD "") = true
    · rw [if_pos blank] at hasBlock
      exact absurd rfl hasBlock
    rw [if_neg blank] at hasBlock
    by_cases longName : maxToolNameBytes < (call.name.getD "").utf8ByteSize
    · rw [if_pos longName] at hasBlock
      exact absurd rfl hasBlock
    rw [if_neg longName] at hasBlock
    by_cases longArguments :
        maxToolArgumentBytes < (call.arguments.getD "").utf8ByteSize
    · rw [if_pos longArguments] at hasBlock
      exact absurd rfl hasBlock
    · exact ⟨Nat.not_lt.mp longName, Nat.not_lt.mp longArguments⟩
  have noDelta : ∀ index, choice.calls.length ≤ index →
      deltasAt (toolDeltas shapes) index = [] := by
    intro index isOutside
    apply List.filter_eq_nil_iff.mpr
    intro delta member
    have inside := delivers.indices delta member
    simp only [beq_iff_eq]
    omega
  constructor
  · unfold streamedText
    rw [streamedText_partsOf, delivers.text]
    exact within.text
  · rw [deltas]
    constructor
    · intro delta member
      have inside := delivers.indices delta member
      have few := within.calls
      unfold maxToolCallIndex
      omega
    · intro index
      by_cases inside : index < choice.calls.length
      · rw [assembledCall_name, (delivers.calls index inside).name]
        exact (sized _ (List.getElem_mem inside)).1
      · rw [noDelta index (Nat.not_lt.mp inside)]
        exact Nat.zero_le _
    · intro index
      by_cases inside : index < choice.calls.length
      · rw [assembledCall_arguments, (delivers.calls index inside).arguments]
        exact (sized _ (List.getElem_mem inside)).2
      · rw [noDelta index (Nat.not_lt.mp inside)]
        exact Nat.zero_le _
    · rw [delivers.argumentBytes_eq]
      exact within.arguments
  · intro one isOne two isTwo
    rw [model_partsOf] at isOne isTwo
    have first := delivers.sameModel one isOne
    have second := delivers.sameModel two isTwo
    exact Option.some.inj (first.symm.trans second)

/-- Inside of the limits, the totals of the choice are too. -/
theorem Delivers.choice_within (delivers : Delivers shapes response choice)
    (within : WithinLimits (partsOf shapes)) : choice.Within := by
  have tools := within.tools
  rw [streamedDeltas_partsOf] at tools
  constructor
  · have text := within.text
    unfold streamedText at text
    rw [streamedText_partsOf, delivers.text] at text
    exact text
  · by_contra many
    have inside : maxToolCalls < choice.calls.length := Nat.not_le.mp many
    obtain ⟨first, rest, isCons, _⟩ := (delivers.calls maxToolCalls inside).id
    have isAt : first ∈ deltasAt (toolDeltas shapes) maxToolCalls := by
      rw [isCons]
      exact List.mem_cons_self
    obtain ⟨isDelta, same⟩ := List.mem_filter.mp isAt
    have index := tools.index first isDelta
    rw [beq_iff_eq] at same
    unfold maxToolCallIndex maxToolCalls at index
    unfold maxToolCalls at same
    omega
  · rw [← delivers.argumentBytes_eq]
    exact tools.total

/-- The stream comes to the response of the choice, and passes its text on. -/
theorem Delivers.folded_eq (delivers : Delivers shapes response choice)
    {json : JsonParser} {events : List (ChunkEvent json)}
    (isShapes : events.map (·.shape) = shapes) :
    ((events.foldlM ChunkEvent.applyTo ⟨.default, []⟩).bind fun run =>
      (run.assembler.intoModelResponse json).toOption) =
        agreedResponse json response choice ∧
    ∀ run, events.foldlM ChunkEvent.applyTo ⟨.default, []⟩ = some run →
      String.join run.deltas = choice.content.getD "" := by
  have allShapes : (∀ event ∈ events, event.shape.Readable) ↔
      ∀ shape ∈ shapes, shape.Readable := by
    rw [← isShapes]
    exact List.forall_mem_map.symm
  have allParts : (events.flatMap fun event => event.shape.parts) =
      partsOf shapes := by
    unfold partsOf
    rw [← isShapes, List.flatMap_map]
  have fold := foldlM_applyTo events ⟨.default, []⟩
  rw [allShapes, delivers.readable_iff, allParts] at fold
  by_cases known : ∀ value ∈ choice.finishReason,
      (knownReason value).isSome = true
  · rw [fold.1 known]
    rcases foldParts_spec (partsOf shapes) with
      ⟨run, folded, streamed, within⟩ | ⟨⟨error, failed⟩, outside⟩
    · rw [folded]
      have text := streamed.text
      have deltas := streamed.deltas
      have calls := streamed.calls
      unfold streamedText at text deltas
      rw [streamedText_partsOf, delivers.text] at text deltas
      rw [streamedDeltas_partsOf] at calls
      refine ⟨?_, ?_⟩
      · have finish := streamed.finish
        rw [finish_partsOf, delivers.finish] at finish
        have model := streamed.model
        rw [model_partsOf, delivers.model] at model
        have usage := streamed.usage
        rw [usage_partsOf, delivers.usage] at usage
        have lastUsage : run.assembler.usage = response.usage := by
          rw [usage]
          cases response.usage <;> rfl
        have blocks := delivers.blocks_eq calls json
        show (run.assembler.intoModelResponse json).toOption = _
        unfold agreedResponse StreamingAssembler.intoModelResponse
        rw [if_pos (delivers.choice_within within), ← blocks]
        cases run.assembler.toolCalls.mapM fun entry : Nat × StreamingToolCall =>
            entry.2.intoBlock json with
        | error error =>
            cases reason : choice.finishReason with
            | none => rfl
            | some value =>
                obtain ⟨name, isName⟩ :=
                  Option.isSome_iff_exists.mp (known value reason)
                show none = (knownReason value).bind _
                rw [isName]
                rfl
        | ok blocks =>
            cases reason : choice.finishReason with
            | none =>
                rw [reason] at finish
                dsimp only
                rw [show run.assembler.finishReason = none from finish]
                rfl
            | some value =>
                obtain ⟨name, isName⟩ :=
                  Option.isSome_iff_exists.mp (known value reason)
                rw [reason] at finish
                have isReason : run.assembler.finishReason = some name := by
                  rw [finish]
                  simp [isName]
                dsimp only
                rw [isReason, text, model, lastUsage]
                show _ = (knownReason value).bind _
                rw [isName]
                rfl
      · intro other isRun
        cases isRun
        exact deltas
    · rw [failed]
      refine ⟨(delivers.agreed_of_not_within outside json).symm, ?_⟩
      intro run isRun
      cases isRun
  · rw [fold.2 known]
    refine ⟨?_, fun run isRun => by cases isRun⟩
    push Not at known
    obtain ⟨value, isReason, isUnknown⟩ := known
    have noReason : knownReason value = none := by
      simpa using isUnknown
    unfold agreedResponse
    split
    · rw [show choice.finishReason = some value from isReason]
      show none = (knownReason value).bind _
      rw [noReason]
      rfl
    · rfl

end Delivered

namespace ToolCallShape

/-- The type of the call is that of a function. -/
def HasFunctionType (call : ToolCallShape) : Prop :=
  ∃ value, call.toolType = some value ∧ isFunctionType value = true

/-- The call with its missing fields empty. -/
def filled (call : ToolCallShape) : ChatToolCall :=
  ⟨call.id.getD "", ⟨call.name.getD "", call.arguments.getD ""⟩⟩

theorem toolUseFromProvider_empty_name (json : JsonParser)
    (id arguments : String) :
    (toolUseFromProvider json id "" arguments).toOption = none := by
  have unknown : internalNameForProvider "" = none := by decide
  unfold toolUseFromProvider
  split
  · rfl
  split
  · rfl
  rw [unknown]
  rfl

theorem toolUseFromProvider_empty_arguments (json : JsonParser)
    (id name : String) :
    (toolUseFromProvider json id name "").toOption = none := by
  obtain ⟨error, isInvalid⟩ := json.fromStr_empty
  unfold toolUseFromProvider
  split
  · rfl
  split
  · rfl
  split
  · rfl
  rw [isInvalid]
  rfl

/-- A call of a function is read whole, or has no block. -/
theorem check_spec {call : ToolCallShape} (isFunction : call.HasFunctionType)
    (json : JsonParser) :
    call.check.toOption = some call.filled ∨
      (call.check.toOption = none ∧ call.block json = none) := by
  obtain ⟨type, hasType, isFunction⟩ := isFunction
  have notOther : (!isFunctionType type) = false := by
    rw [isFunction]
    rfl
  unfold check block filled
  rw [hasType]
  cases call.id with
  | none =>
      right
      exact ⟨rfl, toolUseFromProvider_empty_id json _ _⟩
  | some id =>
      show Except.toOption (if (!isFunctionType type) = true then _ else _) =
          _ ∨ (Except.toOption (if (!isFunctionType type) = true then _
            else _) = _ ∧ _)
      rw [notOther, if_neg Bool.false_ne_true]
      cases call.name with
      | none =>
          right
          exact ⟨rfl, toolUseFromProvider_empty_name json _ _⟩
      | some name =>
          cases call.arguments with
          | none =>
              right
              exact ⟨rfl, toolUseFromProvider_empty_arguments json _ _⟩
          | some arguments =>
              left
              rfl

end ToolCallShape

/-- The loop over the calls bounds the length of all arguments. -/
theorem checkToolCalls_isOk {calls : List ChatToolCall} {total : Nat}
    (small : total ≤ maxToolArgumentsBytes)
    (valid : ∀ call ∈ calls, (validateToolCall call.function.name
      call.function.arguments).isOk = true) :
    (checkToolCalls total calls).isOk = true ↔
      total + (calls.map fun call =>
        call.function.arguments.utf8ByteSize).sum ≤ maxToolArgumentsBytes := by
  induction calls generalizing total with
  | nil => simpa [checkToolCalls, Except.isOk, Except.toBool] using small
  | cons call rest ih =>
      have first := valid call List.mem_cons_self
      unfold checkToolCalls
      rw [List.map_cons, List.sum_cons]
      cases isValid : validateToolCall call.function.name
          call.function.arguments with
      | error error =>
          rw [isValid] at first
          cases first
      | ok result =>
          dsimp only
          by_cases long : maxToolArgumentsBytes <
              total + call.function.arguments.utf8ByteSize
          · rw [if_pos long]
            simp only [Except.isOk, Except.toBool, Bool.false_eq_true,
              false_iff]
            omega
          · rw [if_neg long, ih (Nat.not_lt.mp long) fun other member =>
              valid other (List.mem_cons_of_mem _ member), Nat.add_assoc]

/-- A call with a block has a name and arguments within the limits. -/
theorem validate_of_toolUse {json : JsonParser} {id name arguments : String}
    (isSome : (toolUseFromProvider json id name arguments).toOption ≠ none) :
    (validateToolCall name arguments).isOk = true := by
  unfold toolUseFromProvider at isSome
  split at isSome
  · exact absurd rfl isSome
  split at isSome
  · exact absurd rfl isSome
  next isValid =>
    rw [isValid]
    rfl

/-- What a checked choice comes to. -/
theorem intoModelResponse_toOption (json : JsonParser)
    {choice : ChoiceShape} {checked : ChatChoice}
    (content : checked.content = choice.content)
    (calls : checked.toolCalls.getD [] = choice.calls.map ToolCallShape.filled)
    (response : ChatCompletionResponse) {others : List ChatChoice}
    (isFirst : response.choices = checked :: others) :
    (response.intoModelResponse json).toOption =
      if choice.Within then
        (choice.calls.mapM (ToolCallShape.block json)).map fun blocks =>
          modelResponse (nonemptyText (choice.content.getD "") ++ blocks)
            checked.finishReason response.model response.usage
      else none := by
  have blocks : ((choice.calls.map ToolCallShape.filled).mapM fun call =>
      toolUseFromProvider json call.id call.function.name
        call.function.arguments).toOption =
          choice.calls.mapM (ToolCallShape.block json) := by
    rw [toOption_mapM]
    apply mapM_congr
    rw [List.map_map]
    rfl
  have total : ((choice.calls.map ToolCallShape.filled).map fun call =>
      call.function.arguments.utf8ByteSize).sum =
        (choice.calls.map fun call =>
          (call.arguments.getD "").utf8ByteSize).sum := by
    rw [List.map_map]
    rfl
  unfold ChatCompletionResponse.intoModelResponse
  rw [isFirst]
  dsimp only
  rw [content, calls, List.length_map]
  by_cases longText :
      maxAssistantTextBytes < (choice.content.getD "").utf8ByteSize
  · rw [if_pos longText, if_neg fun within =>
      Nat.not_le.mpr longText within.text]
    rfl
  by_cases manyCalls : maxToolCalls < choice.calls.length
  · rw [if_neg longText, if_pos manyCalls, if_neg fun within =>
      Nat.not_le.mpr manyCalls within.calls]
    rfl
  rw [if_neg longText, if_neg manyCalls]
  cases isBlocks : choice.calls.mapM (ToolCallShape.block json) with
  | none =>
      rw [isBlocks] at blocks
      rw [Option.map_none, ite_self]
      cases checkToolCalls 0 (choice.calls.map ToolCallShape.filled) with
      | error error => rfl
      | ok result =>
          dsimp only
          cases each : (choice.calls.map ToolCallShape.filled).mapM fun call =>
              toolUseFromProvider json call.id call.function.name
                call.function.arguments with
          | error error => rfl
          | ok found =>
              rw [each] at blocks
              cases blocks
  | some found =>
      rw [isBlocks] at blocks
      have valid : ∀ call ∈ choice.calls.map ToolCallShape.filled,
          (validateToolCall call.function.name
            call.function.arguments).isOk = true := by
        intro call member
        obtain ⟨shape, isShape, rfl⟩ := List.mem_map.mp member
        apply @validate_of_toolUse json shape.filled.id
        intro noBlock
        rw [mapM_none isShape (show shape.block json = none from noBlock)]
          at isBlocks
        cases isBlocks
      have isOk := checkToolCalls_isOk (Nat.zero_le _) valid
      rw [Nat.zero_add, total] at isOk
      cases isChecked : checkToolCalls 0
          (choice.calls.map ToolCallShape.filled) with
      | error error =>
          rw [isChecked] at isOk
          rw [if_neg fun within => absurd (isOk.mpr within.arguments)
            Bool.false_ne_true]
          rfl
      | ok result =>
          rw [isChecked] at isOk
          rw [if_pos ⟨Nat.not_lt.mp longText, Nat.not_lt.mp manyCalls,
            isOk.mp rfl⟩]
          dsimp only
          cases each : (choice.calls.map ToolCallShape.filled).mapM fun call =>
              toolUseFromProvider json call.id call.function.name
                call.function.arguments with
          | error error =>
              rw [each] at blocks
              cases blocks
          | ok bodyBlocks =>
              rw [each] at blocks
              cases blocks
              rfl

def ToolCallShape.checkAll (calls : List ToolCallShape) :
    Except String (List ChatToolCall) :=
  calls.mapM ToolCallShape.check

theorem ChoiceShape.check_toOption (choice : ChoiceShape) :
    choice.check.toOption = do
      let value ← choice.finishReason
      let reason ← knownReason value
      let calls ← (choice.toolCalls.mapM
        ToolCallShape.checkAll).toOption
      return ⟨reason, choice.content, calls⟩ := by
  unfold ChoiceShape.check
  cases choice.finishReason with
  | none => rfl
  | some value =>
      show Except.toOption (do
        let finishReason ← readFinishReason value
        let toolCalls ← choice.toolCalls.mapM ToolCallShape.checkAll
        return (⟨finishReason, choice.content, toolCalls⟩ : ChatChoice)) =
        (knownReason value).bind _
      unfold knownReason
      cases readFinishReason value with
      | error error => rfl
      | ok reason =>
          show Except.toOption (do
            let toolCalls ← choice.toolCalls.mapM ToolCallShape.checkAll
            return (⟨reason, choice.content, toolCalls⟩ : ChatChoice)) =
            Option.bind _ _
          cases choice.toolCalls.mapM ToolCallShape.checkAll <;> rfl

/-- A body comes to the response of its first choice. -/
theorem body_agrees {json : JsonParser} {response : ResponseShape}
    {choice : ChoiceShape} {others : List ChoiceShape}
    (isFirst : response.choices = choice :: others)
    (otherChoices : ∀ other ∈ others, other.check.toOption ≠ none)
    (functions : ∀ call ∈ choice.calls, call.HasFunctionType) :
    (response.check.toOption.bind fun response =>
      (response.intoModelResponse json).toOption) =
        agreedResponse json response choice := by
  have checked : response.check.toOption =
      (choice.check.toOption.bind fun first =>
        (others.mapM fun other : ChoiceShape => other.check.toOption).map
          fun rest => ⟨response.model, first :: rest, response.usage⟩) := by
    unfold ResponseShape.check
    rw [isFirst, List.mapM_cons, ← toOption_mapM]
    cases choice.check with
    | error error => rfl
    | ok first => cases others.mapM ChoiceShape.check <;> rfl
  have isChecked : ∀ other ∈ others, other.check.toOption =
      some (other.check.toOption.getD ⟨.stop, none, none⟩) := by
    intro other member
    obtain ⟨value, isValue⟩ :=
      Option.ne_none_iff_exists'.mp (otherChoices other member)
    rw [isValue]
    rfl
  obtain ⟨rest, isRest⟩ : ∃ rest, (others.mapM fun other : ChoiceShape =>
      other.check.toOption) = some rest :=
    ⟨_, mapM_some isChecked⟩
  rw [checked, isRest, ChoiceShape.check_toOption]
  unfold agreedResponse
  by_cases allRead : ∀ call ∈ choice.calls,
      call.check.toOption = some call.filled
  · have calls : (choice.toolCalls.mapM
        ToolCallShape.checkAll).toOption =
          some (choice.toolCalls.map (·.map ToolCallShape.filled)) := by
      unfold ChoiceShape.calls at allRead
      cases toolCalls : choice.toolCalls with
      | none => rfl
      | some calls =>
          rw [toolCalls] at allRead
          have each := mapM_some allRead
          rw [← toOption_mapM] at each
          show Except.toOption (some <$> calls.mapM ToolCallShape.check) =
            some (some (calls.map ToolCallShape.filled))
          rw [Option.getD_some] at each
          cases found : calls.mapM ToolCallShape.check with
          | error error =>
              rw [found] at each
              cases each
          | ok checkedCalls =>
              rw [found] at each
              cases each
              rfl
    have filled : (choice.toolCalls.map
        (·.map ToolCallShape.filled)).getD [] =
          choice.calls.map ToolCallShape.filled := by
      unfold ChoiceShape.calls
      cases choice.toolCalls <;> rfl
    rw [calls]
    cases choice.finishReason with
    | none => exact (ite_self none).symm
    | some value =>
        show (((knownReason value).bind _).bind _).bind _ =
          if choice.Within then (knownReason value).bind _ else none
        cases knownReason value with
        | none => exact (ite_self none).symm
        | some reason =>
            refine (@intoModelResponse_toOption json choice
              ⟨reason, choice.content, _⟩ rfl filled
              ⟨response.model, _ :: rest, response.usage⟩ rest rfl).trans ?_
            congr 1
            cases choice.calls.mapM (ToolCallShape.block json) <;> rfl
  · push Not at allRead
    obtain ⟨call, isCall, notRead⟩ := allRead
    rcases ToolCallShape.check_spec (functions call isCall) json with
      isRead | ⟨isUnread, noBlock⟩
    · exact absurd isRead notRead
    have calls : (choice.toolCalls.mapM
        ToolCallShape.checkAll).toOption = none := by
      unfold ChoiceShape.calls at isCall
      cases toolCalls : choice.toolCalls with
      | none =>
          rw [toolCalls] at isCall
          cases isCall
      | some calls =>
          rw [toolCalls] at isCall
          have each : (calls.mapM fun call : ToolCallShape =>
            call.check.toOption) = none := mapM_none isCall isUnread
          rw [← toOption_mapM] at each
          show Except.toOption (some <$> calls.mapM ToolCallShape.check) = none
          cases found : calls.mapM ToolCallShape.check with
          | error error => rfl
          | ok checkedCalls =>
              rw [found] at each
              cases each
    rw [calls, mapM_none isCall noBlock]
    cases choice.finishReason with
    | none => exact (ite_self none).symm
    | some value =>
        show (((knownReason value).bind _).bind _).bind _ =
          if choice.Within then (knownReason value).bind _ else none
        cases knownReason value with
        | none => exact (ite_self none).symm
        | some reason => exact (ite_self none).symm

/-- A body and a stream with the same choice, within the limits of both. -/
structure SameChoice {json : JsonParser} (body : List UInt8)
    (events : List (ChunkEvent json)) (lineEnd : LineEnd)
    (response : ResponseShape) (choice : ChoiceShape) : Prop where
  bodyFits : body.length ≤ maxNonStreamBodyBytes
  reads : (json.fromSlice body >>= ResponseShape.read) = .ok response
  first : ∃ others, response.choices = choice :: others ∧
    ∀ other ∈ others, other.check.toOption ≠ none
  delivers : Delivers (events.map (·.shape)) response choice
  eventFits : ∀ event ∈ events, event.bytes.length ≤ maxSseEventBytes
  streamFits : (streamBytes events lineEnd).length ≤ maxDecodedResponseBytes

theorem text_modelResponse {content : String} {blocks : List ModelBlock}
    (noText : ∀ block ∈ blocks, block.text? = none) (reason : ChatFinishReason)
    (model : Option ModelName) (usage : Option ChatUsage) :
    (modelResponse (nonemptyText content ++ blocks) reason model usage).text =
      content := by
  have quiet : blocks.filterMap ModelBlock.text? = [] :=
    List.filterMap_eq_nil_iff.mpr noText
  show "\n".intercalate ((nonemptyText content ++ blocks).filterMap
    ModelBlock.text?) = content
  rw [List.filterMap_append, quiet, List.append_nil]
  unfold nonemptyText
  by_cases blank : content.isEmpty = true
  · rw [if_pos blank, String.isEmpty_iff.mp blank]
    rfl
  · rw [if_neg blank]
    exact String.intercalate_singleton

theorem text_toolUse {json : JsonParser} {id name arguments : String}
    {block : ModelBlock}
    (isBlock : (toolUseFromProvider json id name arguments).toOption =
      some block) : block.text? = none := by
  unfold toolUseFromProvider at isBlock
  split at isBlock
  · cases isBlock
  split at isBlock
  · cases isBlock
  split at isBlock
  · cases isBlock
  split at isBlock
  · cases isBlock
  · cases isBlock
    rfl

theorem text_agreedResponse {json : JsonParser} {response : ResponseShape}
    {choice : ChoiceShape} {result : ModelResponse}
    (isResult : agreedResponse json response choice = some result) :
    result.text = choice.content.getD "" := by
  unfold agreedResponse at isResult
  obtain ⟨_, isResult⟩ := Option.ite_none_right_eq_some.mp isResult
  obtain ⟨value, _, isResult⟩ := Option.bind_eq_some_iff.mp isResult
  obtain ⟨reason, _, isResult⟩ := Option.bind_eq_some_iff.mp isResult
  obtain ⟨blocks, isBlocks, isResult⟩ := Option.bind_eq_some_iff.mp isResult
  cases isResult
  apply text_modelResponse
  intro block member
  obtain ⟨call, _, isBlock⟩ := exists_of_mem_mapM isBlocks member
  exact text_toolUse isBlock

/-- The stream comes to the response of its choice. -/
theorem streamed_response {json : JsonParser} {body : List UInt8}
    {events : List (ChunkEvent json)} {lineEnd : LineEnd}
    {response : ResponseShape} {choice : ChoiceShape}
    (same : SameChoice body events lineEnd response choice) :
    ((parseChatCompletionStream json (streamBytes events
      lineEnd)).toOption.map (·.1)) = agreedResponse json response choice ∧
    ∀ result ∈ (parseChatCompletionStream json (streamBytes events
      lineEnd)).toOption, String.join result.2 = result.1.text := by
  obtain ⟨agreed, texts⟩ := @Delivers.folded_eq _ _ _ same.delivers json events
    rfl
  rw [parseChatCompletionStream_toOption lineEnd events same.eventFits
    same.streamFits]
  cases folded : events.foldlM ChunkEvent.applyTo ⟨.default, []⟩ with
  | none =>
      rw [folded] at agreed
      refine ⟨agreed, ?_⟩
      intro result member
      cases member
  | some run =>
      rw [folded] at agreed
      rw [Option.bind_some] at agreed ⊢
      constructor
      · rw [Option.map_map, ← agreed]
        exact Option.map_id'
      · intro result member
        obtain ⟨model, isModel, rfl⟩ := Option.map_eq_some_iff.mp member
        rw [isModel] at agreed
        exact (texts run folded).trans (text_agreedResponse agreed.symm).symm

/-- A body within its limit is checked once its shape is read. -/
theorem parseNonStreamResponse_eq {json : JsonParser} {body : List UInt8}
    {response : ResponseShape} (fits : body.length ≤ maxNonStreamBodyBytes)
    (reads : (json.fromSlice body >>= ResponseShape.read) = .ok response) :
    parseNonStreamResponse json body =
      match response.check with
      | .error error => .error (.provider error)
      | .ok checked => checked.intoModelResponse json := by
  obtain ⟨value, isValue, isShape⟩ := except_bind_ok_iff.mp reads
  unfold parseNonStreamResponse ChatCompletionResponse.read
  rw [if_neg (Nat.not_lt.mpr fits), isValue]
  rw [show (Except.ok value >>= fun value => ResponseShape.read value >>=
    fun shape => shape.check) = (ResponseShape.read value >>= fun shape =>
      shape.check) from rfl, isShape]
  rfl

/-- A stream of chunks and one body with the same choice come to the same
response when the calls of the choice are calls of functions. -/
theorem stream_eq_body {json : JsonParser} {body : List UInt8}
    {events : List (ChunkEvent json)} {lineEnd : LineEnd}
    {response : ResponseShape} {choice : ChoiceShape}
    (same : SameChoice body events lineEnd response choice)
    (functions : ∀ call ∈ choice.calls, call.HasFunctionType) :
    ((parseChatCompletionStream json (streamBytes events
      lineEnd)).toOption.map (·.1)) =
        (parseNonStreamResponse json body).toOption ∧
    ∀ result ∈ (parseChatCompletionStream json (streamBytes events
      lineEnd)).toOption, String.join result.2 = result.1.text := by
  obtain ⟨agreed, texts⟩ := streamed_response same
  refine ⟨agreed.trans ?_, texts⟩
  obtain ⟨others, isFirst, otherChoices⟩ := same.first
  rw [← body_agrees isFirst otherChoices functions]
  rw [parseNonStreamResponse_eq same.bodyFits same.reads]
  cases response.check <;> rfl

def jsonTextParser : JsonParser where
  fromStr text := expecting "JSON" (fun _ => JsonText.fromText text) .null
  fromSlice bytes := expecting "JSON" (fun _ => JsonText.fromBytes bytes) .null
  fromStr_empty := ⟨_, rfl⟩

theorem jsonTextParser_fromStr (value : Value) :
    jsonTextParser.fromStr (JsonText.toText value) = .ok value := by
  show expecting "JSON" (fun _ => JsonText.fromText (JsonText.toText value))
    .null = _
  unfold expecting
  rw [JsonText.fromText_toText]

theorem jsonTextParser_fromSlice (value : Value) :
    jsonTextParser.fromSlice (JsonText.toBytes value) = .ok value := by
  show expecting "JSON" (fun _ => JsonText.fromBytes (JsonText.toBytes value))
    .null = _
  unfold expecting
  rw [JsonText.fromBytes_toBytes]

theorem getLast_entriesText (entries : List (String × Value)) :
    (JsonText.entriesText entries).getLast? = some '}' := by
  induction entries with
  | nil => rfl
  | cons entry rest ih =>
      rw [JsonText.entriesText, List.getLast?_append, ih]
      rfl

theorem toList_toText (value : Value) :
    (JsonText.toText value).toList = JsonText.valueText value :=
  String.toList_ofList

/-- The event of a chunk that is written as it stands. -/
def writtenEvent (entry : String × Value) (lineEnd : LineEnd)
    (shape : ChunkShape) (noError : (Value.object [entry]).entry "error" = none)
    (reads : ChunkShape.read (.object [entry]) = .ok shape) :
    ChunkEvent jsonTextParser where
  data := JsonText.toText (.object [entry])
  lineEnd := lineEnd
  shape := shape
  opens := by
    rw [toList_toText]
    rfl
  closes := by
    rw [toList_toText, JsonText.valueText, List.getLast?_append,
      getLast_entriesText]
    rfl
  oneLine := by
    intro newline
    rw [toList_toText] at newline
    have printable := JsonText.printable_value _ '\n' newline
    exact absurd printable (by decide)
  value := .object [entry]
  parses := jsonTextParser_fromStr _
  noError := noError
  reads := reads

theorem length_writtenEvent_le (entry : String × Value) (lineEnd : LineEnd)
    (shape : ChunkShape) (noError : (Value.object [entry]).entry "error" = none)
    (reads : ChunkShape.read (.object [entry]) = .ok shape) :
    (writtenEvent entry lineEnd shape noError reads).bytes.length ≤
      (JsonText.toBytes (.object [entry])).length + 10 := by
  have text : textBytes (JsonText.toText (.object [entry])) =
      JsonText.toBytes (.object [entry]) := by
    rw [textBytes, toList_toText, JsonText.toBytes]
  have marks : (textBytes "data: ").length = 6 ∧ (textBytes "").length = 0 ∧
      ∀ lineEnd : LineEnd, (textBytes lineEnd.beforeNewline).length ≤ 1 := by
    refine ⟨by decide +kernel, by decide +kernel, ?_⟩
    rintro (_ | _) <;> decide +kernel
  have append : ∀ first second : String, textBytes (first ++ second) =
      textBytes first ++ textBytes second := by
    intro first second
    simp only [textBytes, String.toList_append, List.flatMap_append]
  have isText : (writtenEvent entry lineEnd shape noError reads).bytes =
      eventBytes (JsonText.toText (.object [entry])) lineEnd := rfl
  have ending := marks.2.2 lineEnd
  rw [isText, eventBytes, eventLineBytes, eventLineBytes, append, append, append,
    text]
  simp only [List.length_append, List.length_singleton, marks.1, marks.2.1]
  omega

def sampleBodyValue (toolType : String) : Value :=
  .object [("choices", .array [.object [
    ("finish_reason", .string "tool_calls"),
    ("message", .object [("content", .string "Reading"),
      ("tool_calls", .array [.object [
        ("function", .object [("arguments", .string "{}"),
          ("name", .string "file_read")]),
        ("id", .string "call-1"), ("type", .string toolType)]])])]])]

def sampleBody (toolType : String) : List UInt8 :=
  JsonText.toBytes (sampleBodyValue toolType)

def sampleChoice (toolType : String) : ChoiceShape :=
  ⟨some (.string "tool_calls"), some "Reading", some [⟨some "call-1",
    some (.string toolType), some "file_read", some "{}"⟩]⟩

/-- The first half of the text and of the call. -/
def openingEvent : ChunkEvent jsonTextParser :=
  writtenEvent ("choices", .array [.object [
      ("delta", .object [("content", .string "Read"),
        ("tool_calls", .array [.object [
          ("function", .object [("arguments", .string "\x7b"),
            ("name", .string "file_read")]),
          ("id", .string "call-1"), ("index", .number (.posInt 0))]])])]]) .lf
    ⟨none, [⟨0, ⟨some "Read", [⟨0, some "call-1",
      some ⟨some "file_read", some "\x7b"⟩⟩]⟩, none⟩], none⟩ rfl rfl

/-- The second half, with the reason. -/
def closingEvent : ChunkEvent jsonTextParser :=
  writtenEvent ("choices", .array [.object [
      ("delta", .object [("content", .string "ing"),
        ("tool_calls", .array [.object [
          ("function", .object [("arguments", .string "\x7d")]),
          ("index", .number (.posInt 0))]])]),
      ("finish_reason", .string "tool_calls")]]) .crlf
    ⟨none, [⟨0, ⟨some "ing", [⟨0, none, some ⟨none, some "\x7d"⟩⟩]⟩,
      some (.string "tool_calls")⟩], none⟩ rfl rfl

def sampleEvents : List (ChunkEvent jsonTextParser) :=
  [openingEvent, closingEvent]

theorem length_sampleEvents :
    ∀ event ∈ sampleEvents, event.bytes.length ≤ 1000 := by
  intro event member
  rcases List.mem_pair.mp member with rfl | rfl
  · exact (length_writtenEvent_le ..).trans (by decide +kernel)
  · exact (length_writtenEvent_le ..).trans (by decide +kernel)

theorem length_sampleBody : ∀ toolType ∈ ["function", "custom"],
    (sampleBody toolType).length ≤ maxNonStreamBodyBytes := by
  decide +kernel

theorem sampleSameChoice {toolType : String}
    (known : toolType ∈ ["function", "custom"]) :
    SameChoice (sampleBody toolType) sampleEvents .lf
      ⟨none, [sampleChoice toolType], none⟩ (sampleChoice toolType) where
  bodyFits := length_sampleBody toolType known
  reads := by
    unfold sampleBody
    rw [jsonTextParser_fromSlice]
    rfl
  first := ⟨[], rfl, fun other member => by cases member⟩
  delivers := {
    text := by
      show String.join ["Read", "ing"] = "Reading"
      decide +kernel
    finish := rfl
    others := by
      intro shape isShape other isOther notFirst
      rcases List.mem_pair.mp isShape with rfl | rfl <;>
      · cases List.mem_singleton.mp isOther
        exact absurd rfl notFirst
    usage := rfl
    model := rfl
    sameModel := by
      intro name member
      cases member
    indices := by
      intro delta member
      rcases List.mem_pair.mp member with rfl | rfl <;> exact Nat.zero_lt_one
    calls := by
      intro index inside
      have isZero : index = 0 := Nat.lt_one_iff.mp inside
      subst isZero
      refine ⟨⟨_, _, rfl, rfl, fun delta member => ?_⟩, ?_, ?_⟩
      · rw [List.mem_singleton.mp member]
        rfl
      · show String.join ["file_read", ""] = "file_read"
        decide +kernel
      · show String.join ["\x7b", "\x7d"] = "{}"
        decide +kernel }
  eventFits event member := (length_sampleEvents event member).trans (by decide)
  streamFits := by
    have first := length_sampleEvents openingEvent List.mem_cons_self
    have second := length_sampleEvents closingEvent (by simp [sampleEvents])
    have done : (eventBytes "[DONE]" .lf).length ≤ 100 := by
      decide +kernel
    have whole : (streamBytes sampleEvents .lf).length =
        openingEvent.bytes.length + closingEvent.bytes.length +
          (eventBytes "[DONE]" .lf).length := by
      simp [streamBytes, sampleEvents]
      omega
    rw [whole]
    unfold maxDecodedResponseBytes
    omega

/-- The chunks come to a response. -/
theorem isOk_sampleEvents :
    (parseChatCompletionStream jsonTextParser
      (streamBytes sampleEvents .lf)).isOk = true := by
  have agreed := (streamed_response (@sampleSameChoice "function"
    List.mem_cons_self)).1
  have isSome : (agreedResponse jsonTextParser
      ⟨none, [sampleChoice "function"], none⟩
        (sampleChoice "function")).isSome = true := by
    decide +kernel
  rw [← agreed, Option.isSome_map] at isSome
  cases result : parseChatCompletionStream jsonTextParser
      (streamBytes sampleEvents .lf) with
  | error error =>
      rw [result] at isSome
      cases isSome
  | ok response => rfl

/-- A text and a call that come in two halves. -/
theorem stream_eq_body_sample :
    (parseChatCompletionStream jsonTextParser
      (streamBytes sampleEvents .lf)).isOk = true ∧
    ((parseChatCompletionStream jsonTextParser (streamBytes sampleEvents
      .lf)).toOption.map (·.1)) =
        (parseNonStreamResponse jsonTextParser
          (sampleBody "function")).toOption ∧
    ∀ result ∈ (parseChatCompletionStream jsonTextParser (streamBytes
      sampleEvents .lf)).toOption, String.join result.2 = result.1.text := by
  refine ⟨isOk_sampleEvents,
    stream_eq_body (sampleSameChoice List.mem_cons_self) ?_⟩
  intro call member
  cases List.mem_singleton.mp member
  exact ⟨_, rfl, rfl⟩

/-- The stream has no type of a call to check, so it takes a call that the body
is refused for. -/
theorem stream_ne_body_custom :
    SameChoice (sampleBody "custom") sampleEvents .lf
      ⟨none, [sampleChoice "custom"], none⟩ (sampleChoice "custom") ∧
    (parseChatCompletionStream jsonTextParser
      (streamBytes sampleEvents .lf)).isOk = true ∧
    (parseNonStreamResponse jsonTextParser (sampleBody "custom")).isOk =
      false := by
  have same := @sampleSameChoice "custom" (by simp)
  refine ⟨same, isOk_sampleEvents, ?_⟩
  rw [parseNonStreamResponse_eq same.bodyFits same.reads]
  have refused : (ResponseShape.check ⟨none, [sampleChoice "custom"],
      none⟩).isOk = false := by
    decide +kernel
  cases checked : ResponseShape.check ⟨none, [sampleChoice "custom"], none⟩ with
  | error error => rfl
  | ok response =>
      rw [checked] at refused
      cases refused

end PlatoAgent
