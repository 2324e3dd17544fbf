import PlatoAgent.ProviderEvents

/-!
# Delivering a choice in chunks

The same choice can come as one body or as the deltas of chunks.  What a choice
is read as does not depend on how its text and its tool calls are cut.
-/

namespace PlatoAgent

theorem toOption_mapM {Item Result Error : Type}
    (read : Item → Except Error Result) (items : List Item) :
    (items.mapM read).toOption = items.mapM fun item =>
      (read item).toOption := by
  induction items with
  | nil => rfl
  | cons item rest ih =>
      rw [List.mapM_cons, List.mapM_cons, ← ih]
      cases read item with
      | error error => rfl
      | ok result => cases rest.mapM read <;> rfl

theorem mapM_some {Item Result : Type} {read : Item → Option Result}
    {result : Item → Result} {items : List Item}
    (reads : ∀ item ∈ items, read item = some (result item)) :
    items.mapM read = some (items.map result) := by
  induction items with
  | nil => rfl
  | cons item rest ih =>
      have others := ih fun other member =>
        reads other (List.mem_cons_of_mem _ member)
      rw [List.mapM_cons, reads item List.mem_cons_self, others]
      rfl

theorem mapM_none {Item Result : Type} {read : Item → Option Result}
    {items : List Item} {item : Item} (member : item ∈ items)
    (isNone : read item = none) : items.mapM read = none := by
  induction items with
  | nil => cases member
  | cons first rest ih =>
      rw [List.mapM_cons]
      rcases List.mem_cons.mp member with rfl | isLater
      · rw [isNone]
        rfl
      · rw [ih isLater]
        cases read first <;> rfl

theorem exists_of_mem_mapM {Item Result : Type} {read : Item → Option Result}
    {items : List Item} {results : List Result}
    (isResults : items.mapM read = some results) {result : Result}
    (member : result ∈ results) : ∃ item ∈ items, read item = some result := by
  induction items generalizing results with
  | nil =>
      cases isResults
      cases member
  | cons item rest ih =>
      rw [List.mapM_cons] at isResults
      obtain ⟨first, isFirst, isResults⟩ := Option.bind_eq_some_iff.mp isResults
      obtain ⟨later, isLater, isResults⟩ := Option.bind_eq_some_iff.mp isResults
      cases isResults
      rcases List.mem_cons.mp member with rfl | isRest
      · exact ⟨item, List.mem_cons_self, isFirst⟩
      · obtain ⟨other, isOther, reads⟩ := ih isLater isRest
        exact ⟨other, List.mem_cons_of_mem _ isOther, reads⟩

theorem mapM_congr {Item Other Result : Type} {items : List Item}
    {others : List Other} {read : Item → Option Result}
    {readOther : Other → Option Result}
    (same : items.map read = others.map readOther) :
    items.mapM read = others.mapM readOther := by
  induction items generalizing others with
  | nil =>
      rw [List.map_nil, eq_comm, List.map_eq_nil_iff] at same
      rw [same]
      rfl
  | cons item rest ih =>
      cases others with
      | nil => cases same
      | cons other later =>
          rw [List.map_cons, List.map_cons, List.cons.injEq] at same
          rw [List.mapM_cons, List.mapM_cons, same.1, ih same.2]

def knownReason (value : Value) : Option ChatFinishReason :=
  (readFinishReason value).toOption

namespace ChunkChoiceShape

def Readable (shape : ChunkChoiceShape) : Prop :=
  ∀ value ∈ shape.finishReason, (knownReason value).isSome = true

def known (shape : ChunkChoiceShape) : ChatChunkChoice :=
  ⟨shape.index, shape.delta, shape.finishReason.bind knownReason⟩

theorem check_toOption_of_readable {shape : ChunkChoiceShape}
    (readable : shape.Readable) : shape.check.toOption = some shape.known := by
  unfold check known
  cases reason : shape.finishReason with
  | none => rfl
  | some value =>
      have isSome := readable value reason
      unfold knownReason at isSome
      show Except.toOption (do
        let finishReason ← some <$> readFinishReason value
        return _) = some (⟨shape.index, shape.delta, knownReason value⟩ :
          ChatChunkChoice)
      unfold knownReason
      cases isRead : readFinishReason value with
      | error error =>
          rw [isRead] at isSome
          cases isSome
      | ok reason => rfl

theorem check_toOption_of_not_readable {shape : ChunkChoiceShape}
    (notReadable : ¬ shape.Readable) : shape.check.toOption = none := by
  unfold check
  unfold Readable knownReason at notReadable
  cases reason : shape.finishReason with
  | none =>
      rw [reason] at notReadable
      exact absurd (fun value member => by cases member) notReadable
  | some value =>
      show Except.toOption (do
        let finishReason ← some <$> readFinishReason value
        return _) = none
      cases isRead : readFinishReason value with
      | error error => rfl
      | ok known =>
          rw [reason] at notReadable
          refine absurd (fun other member => ?_) notReadable
          cases member
          rw [isRead]
          rfl

end ChunkChoiceShape

namespace ChunkShape

def Readable (shape : ChunkShape) : Prop :=
  ∀ choice ∈ shape.choices, choice.Readable

def known (shape : ChunkShape) : ChatCompletionChunk :=
  ⟨shape.model, shape.choices.map ChunkChoiceShape.known, shape.usage⟩

theorem check_toOption (shape : ChunkShape) :
    shape.check.toOption =
      (shape.choices.mapM fun choice : ChunkChoiceShape =>
        choice.check.toOption).map fun choices =>
          ⟨shape.model, choices, shape.usage⟩ := by
  rw [← toOption_mapM]
  unfold check
  cases shape.choices.mapM ChunkChoiceShape.check <;> rfl

theorem check_toOption_of_readable {shape : ChunkShape}
    (readable : shape.Readable) : shape.check.toOption = some shape.known := by
  rw [check_toOption, mapM_some fun choice member =>
    ChunkChoiceShape.check_toOption_of_readable (readable choice member)]
  rfl

theorem check_toOption_of_not_readable {shape : ChunkShape}
    (notReadable : ¬ shape.Readable) : shape.check.toOption = none := by
  unfold Readable at notReadable
  push Not at notReadable
  obtain ⟨choice, member, isUnknown⟩ := notReadable
  rw [check_toOption, mapM_none member
    (ChunkChoiceShape.check_toOption_of_not_readable isUnknown)]
  rfl

/-- The parts of a chunk, with the reasons that are known. -/
def parts (shape : ChunkShape) : List StreamPart :=
  shape.known.parts

end ChunkShape

/-- Events with known reasons fold their parts, and others fail. -/
theorem foldlM_applyTo {json : JsonParser} (events : List (ChunkEvent json))
    (run : StreamRun) :
    ((∀ event ∈ events, event.shape.Readable) →
      events.foldlM ChunkEvent.applyTo run =
        ((events.flatMap fun event => event.shape.parts).foldlM
          StreamRun.applyPart run).toOption) ∧
    ((¬ ∀ event ∈ events, event.shape.Readable) →
      events.foldlM ChunkEvent.applyTo run = none) := by
  induction events generalizing run with
  | nil =>
      refine ⟨fun _ => rfl, fun notReadable => absurd ?_ notReadable⟩
      intro event member
      cases member
  | cons event rest ih =>
      rw [List.foldlM_cons, List.flatMap_cons, List.foldlM_append]
      constructor
      · intro readable
        have first := ChunkShape.check_toOption_of_readable
          (readable event List.mem_cons_self)
        have applied : event.applyTo run =
            (event.shape.parts.foldlM StreamRun.applyPart run).toOption := by
          unfold ChunkEvent.applyTo ChunkShape.parts
          rw [first, Option.bind_some, StreamRun.applyChunk_eq]
        rw [applied]
        cases event.shape.parts.foldlM StreamRun.applyPart run with
        | error error => rfl
        | ok after =>
            exact (ih after).1 fun other member =>
              readable other (List.mem_cons_of_mem _ member)
      · intro notReadable
        by_cases first : event.shape.Readable
        · have others : ¬ ∀ other ∈ rest, other.shape.Readable := by
            intro readable
            apply notReadable
            intro other member
            rcases List.mem_cons.mp member with rfl | isLater
            · exact first
            · exact readable other isLater
          cases event.applyTo run with
          | none => rfl
          | some after => exact (ih after).2 others
        · unfold ChunkEvent.applyTo
          rw [ChunkShape.check_toOption_of_not_readable first]
          rfl

/-- The choices of chunks that the assembler reads. -/
def firstChoices (shapes : List ChunkShape) : List ChunkChoiceShape :=
  shapes.flatMap fun shape => shape.choices.filter (·.index == 0)

def toolDeltas (shapes : List ChunkShape) : List ChatToolCallDelta :=
  (firstChoices shapes).flatMap (·.delta.toolCalls)

/-- The parts of a chunk come from its fields and from its first choices. -/
theorem filterMap_parts {Part : Type} (project : StreamPart → Option Part)
    (shape : ChunkShape) :
    shape.parts.filterMap project =
      (shape.model.toList.map StreamPart.model).filterMap project ++
      (shape.usage.toList.map StreamPart.usage).filterMap project ++
      (shape.choices.filter (·.index == 0)).flatMap fun choice =>
        (choice.delta.content.toList.map StreamPart.text ++
          choice.delta.toolCalls.map StreamPart.tool ++
          (choice.finishReason.bind knownReason).toList.map
            StreamPart.finish).filterMap project := by
  unfold ChunkShape.parts ChatCompletionChunk.parts ChunkShape.known
  rw [List.filterMap_append, List.filterMap_append, List.filterMap_flatMap]
  congr 1
  rw [List.flatMap_map]
  induction shape.choices with
  | nil => rfl
  | cons choice rest ih =>
      rw [List.flatMap_cons, ih]
      by_cases isFirst : choice.index = 0
      · rw [List.filter_cons_of_pos (by simpa using isFirst), List.flatMap_cons]
        unfold ChatChunkChoice.parts ChunkChoiceShape.known
        rw [if_neg (by simpa using isFirst)]
      · rw [List.filter_cons_of_neg (by simpa using isFirst)]
        unfold ChatChunkChoice.parts ChunkChoiceShape.known
        rw [if_pos (by simpa using isFirst)]
        rfl

/-- A choice that is delivered in chunks, tool calls by their position. -/
structure CallDelivered (deltas : List ChatToolCallDelta)
    (call : ToolCallShape) : Prop where
  id : ∃ first rest, deltas = first :: rest ∧ first.id = call.id ∧
    ∀ delta ∈ rest, delta.id.getD "" = ""
  name : String.join (deltas.map (·.addedName)) = call.name.getD ""
  arguments : String.join (deltas.map (·.addedArguments)) =
    call.arguments.getD ""

/-- The chunks deliver the choice and the fields of a response. -/
structure Delivers (shapes : List ChunkShape) (response : ResponseShape)
    (choice : ChoiceShape) : Prop where
  text : String.join ((firstChoices shapes).filterMap (·.delta.content)) =
    choice.content.getD ""
  finish : (firstChoices shapes).filterMap (·.finishReason) =
    choice.finishReason.toList
  others : ∀ shape ∈ shapes, ∀ other ∈ shape.choices, other.index ≠ 0 →
    other.Readable
  usage : shapes.filterMap (·.usage) = response.usage.toList
  model : (shapes.filterMap (·.model)).head? = response.model
  sameModel : ∀ name ∈ shapes.filterMap (·.model), response.model = some name
  indices : ∀ delta ∈ toolDeltas shapes, delta.index < choice.calls.length
  calls : ∀ index (inside : index < choice.calls.length),
    CallDelivered (deltasAt (toolDeltas shapes) index) choice.calls[index]

def partsOf (shapes : List ChunkShape) : List StreamPart :=
  shapes.flatMap ChunkShape.parts

section Projections

variable (shapes : List ChunkShape)

/-- A projection of the parts, chunk by chunk. -/
theorem filterMap_partsOf {Part : Type} (project : StreamPart → Option Part) :
    (partsOf shapes).filterMap project =
      shapes.flatMap fun shape => shape.parts.filterMap project := by
  unfold partsOf
  exact List.filterMap_flatMap

theorem streamedText_partsOf :
    (partsOf shapes).filterMap StreamPart.text? =
      (firstChoices shapes).filterMap (·.delta.content) := by
  unfold firstChoices
  rw [filterMap_partsOf, List.filterMap_flatMap]
  congr 1
  funext shape
  rw [filterMap_parts, List.filterMap_eq_flatMap_toList _
    (List.filter _ shape.choices)]
  simp [StreamPart.text?, Function.comp_def]

theorem streamedDeltas_partsOf :
    streamedDeltas (partsOf shapes) = toolDeltas shapes := by
  unfold streamedDeltas toolDeltas firstChoices
  rw [filterMap_partsOf, List.flatMap_assoc]
  congr 1
  funext shape
  rw [filterMap_parts]
  simp [StreamPart.tool?, Function.comp_def]

theorem finish_partsOf :
    (partsOf shapes).filterMap StreamPart.finish? =
      ((firstChoices shapes).filterMap (·.finishReason)).filterMap
        knownReason := by
  unfold firstChoices
  rw [filterMap_partsOf, List.filterMap_filterMap, List.filterMap_flatMap]
  congr 1
  funext shape
  rw [filterMap_parts, List.filterMap_eq_flatMap_toList _
    (List.filter _ shape.choices)]
  simp [StreamPart.finish?, Function.comp_def]

theorem model_partsOf :
    (partsOf shapes).filterMap StreamPart.model? =
      shapes.filterMap (·.model) := by
  rw [filterMap_partsOf, List.filterMap_eq_flatMap_toList]
  congr 1
  funext shape
  rw [filterMap_parts]
  simp [StreamPart.model?, Function.comp_def]

theorem usage_partsOf :
    (partsOf shapes).filterMap StreamPart.usage? =
      shapes.filterMap (·.usage) := by
  rw [filterMap_partsOf, List.filterMap_eq_flatMap_toList]
  congr 1
  funext shape
  rw [filterMap_parts]
  simp [StreamPart.usage?, Function.comp_def]

end Projections

/-- The call of a shape; a field that is missing is empty. -/
def ToolCallShape.block (json : JsonParser) (call : ToolCallShape) :
    Option ModelBlock :=
  (toolUseFromProvider json (call.id.getD "") (call.name.getD "")
    (call.arguments.getD "")).toOption

theorem toolUseFromProvider_empty_id (json : JsonParser)
    (name arguments : String) :
    (toolUseFromProvider json "" name arguments).toOption = none := by
  unfold toolUseFromProvider
  rw [if_pos (by decide)]
  rfl

theorem assembledCall_id {first : ChatToolCallDelta}
    {rest : List ChatToolCallDelta}
    (later : ∀ delta ∈ rest, delta.id.getD "" = "") :
    (assembledCall (first :: rest)).id =
      first.id.filter fun id => !id.isEmpty := by
  induction rest using List.reverseRecOn with
  | nil => exact Option.or_none
  | append_singleton rest delta ih =>
      have isEmpty := later delta (by simp)
      have quiet : (delta.id.filter fun id => !id.isEmpty) = none := by
        cases noId : delta.id with
        | none => rfl
        | some id =>
            rw [noId] at isEmpty
            have blank : id = "" := isEmpty
            rw [blank]
            rfl
      have before := ih fun other member =>
        later other (List.mem_append_left _ member)
      rw [← List.cons_append, assembledCall_append]
      show (delta.id.filter _).or _ = _
      rw [quiet, Option.none_or]
      exact before

/-- A delivered call becomes the block of its shape. -/
theorem CallDelivered.intoBlock_eq {deltas : List ChatToolCallDelta}
    {call : ToolCallShape} (delivered : CallDelivered deltas call)
    (json : JsonParser) :
    ((assembledCall deltas).intoBlock json).toOption = call.block json := by
  have name := assembledCall_name deltas
  have arguments := assembledCall_arguments deltas
  rw [delivered.name] at name
  rw [delivered.arguments] at arguments
  obtain ⟨first, rest, rfl, firstId, later⟩ := delivered.id
  have id := @assembledCall_id first rest later
  rw [firstId] at id
  unfold StreamingToolCall.intoBlock ToolCallShape.block
  cases isId : call.id with
  | none =>
      rw [isId] at id
      rw [id]
      exact (toolUseFromProvider_empty_id json _ _).symm
  | some text =>
      rw [isId] at id
      by_cases blank : text = ""
      · subst blank
        rw [id]
        exact (toolUseFromProvider_empty_id json _ _).symm
      · have keeps : (some text).filter (fun id => !id.isEmpty) = some text := by
          simp [blank]
        rw [id, keeps, name, arguments]
        rfl

/-- The calls of consecutive indices, in order. -/
theorem ToolCallMap.Assembles.eq_range {calls : ToolCallMap}
    {deltas : List ChatToolCallDelta} (assembles : calls.Assembles deltas)
    {count : Nat} (indices : ∀ delta ∈ deltas, delta.index < count)
    (each : ∀ index < count, deltasAt deltas index ≠ []) :
    calls = (List.range count).map fun index =>
      (index, assembledCall (deltasAt deltas index)) := by
  have keys : calls.map (·.1) = List.range count := by
    apply assembles.ordered.eq_of_mem_iff List.pairwise_lt_range
    intro index
    rw [assembles.mem_keys_iff, List.mem_range]
    constructor
    · rintro ⟨delta, isDelta, rfl⟩
      exact indices delta isDelta
    · intro inside
      obtain ⟨delta, isAt⟩ := List.exists_mem_of_ne_nil _ (each index inside)
      obtain ⟨isDelta, same⟩ := List.mem_filter.mp isAt
      exact ⟨delta, isDelta, by simpa using same⟩
  have distinct : (calls.map (·.1)).Nodup := by
    rw [keys]
    exact List.nodup_range
  rw [← keys, List.map_map]
  refine (List.map_id calls).symm.trans (List.map_congr_left ?_)
  intro entry member
  have isEntry : calls.get? entry.1 = some entry.2 :=
    lookup_of_mem distinct member
  rw [assembles.get?] at isEntry
  split at isEntry
  · cases isEntry
  next => exact Prod.ext rfl (Option.some.inj isEntry).symm

end PlatoAgent
