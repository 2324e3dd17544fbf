import PlatoAgent.ProviderStream

/-!
# What the assembler puts together

A chunk is a sequence of parts, and the assembler is one fold over the parts of
all chunks.  The fold succeeds exactly when the totals are within the limits,
and then its state is a function of the parts of each kind.
-/

namespace PlatoAgent

/-- One part of a chunk that changes the assembler. -/
inductive StreamPart where
  | model (model : ModelName)
  | usage (usage : ChatUsage)
  | text (text : String)
  | tool (delta : ChatToolCallDelta)
  | finish (reason : ChatFinishReason)

namespace StreamPart

def model? : StreamPart → Option ModelName
  | .model name => some name
  | _ => none

def usage? : StreamPart → Option ChatUsage
  | .usage value => some value
  | _ => none

def text? : StreamPart → Option String
  | .text content => some content
  | _ => none

def tool? : StreamPart → Option ChatToolCallDelta
  | .tool delta => some delta
  | _ => none

def finish? : StreamPart → Option ChatFinishReason
  | .finish reason => some reason
  | _ => none

end StreamPart

def StreamRun.applyPart (run : StreamRun) :
    StreamPart → Except ProviderError StreamRun
  | .model model => run.applyModel (some model)
  | .usage usage =>
      .ok { run with assembler := { run.assembler with usage := some usage } }
  | .text text => run.applyText (some text)
  | .tool delta => (run.assembler.applyToolCall delta).map fun assembler =>
      { run with assembler := assembler }
  | .finish reason => .ok { run with assembler := { run.assembler with
      finishReason := some reason } }

def ChatChunkChoice.parts (choice : ChatChunkChoice) : List StreamPart :=
  if choice.index ≠ 0 then []
  else choice.delta.content.toList.map .text ++
    choice.delta.toolCalls.map .tool ++ choice.finishReason.toList.map .finish

def ChatCompletionChunk.parts (chunk : ChatCompletionChunk) :
    List StreamPart :=
  chunk.model.toList.map .model ++ chunk.usage.toList.map .usage ++
    chunk.choices.flatMap ChatChunkChoice.parts

namespace StreamRun

theorem foldlM_tools (run : StreamRun) (deltas : List ChatToolCallDelta) :
    (deltas.map StreamPart.tool).foldlM applyPart run =
      (run.assembler.applyToolCalls deltas).map fun assembler =>
        { run with assembler := assembler } := by
  unfold StreamingAssembler.applyToolCalls
  induction deltas generalizing run with
  | nil => rfl
  | cons delta rest ih =>
      rw [List.map_cons, List.foldlM_cons, List.foldlM_cons]
      show ((run.assembler.applyToolCall delta).map _ >>= _) = _
      cases run.assembler.applyToolCall delta with
      | error error => rfl
      | ok assembler => exact ih { run with assembler := assembler }

theorem applyChoice_eq (run : StreamRun) (choice : ChatChunkChoice) :
    run.applyChoice choice = choice.parts.foldlM applyPart run := by
  unfold applyChoice ChatChunkChoice.parts
  split
  · rfl
  rw [List.foldlM_append, List.foldlM_append]
  have text : (choice.delta.content.toList.map StreamPart.text).foldlM
      applyPart run = run.applyText choice.delta.content := by
    cases choice.delta.content with
    | none => rfl
    | some text =>
        show run.applyText (some text) >>= pure = _
        rw [bind_pure]
  rw [text]
  cases run.applyText choice.delta.content with
  | error error => rfl
  | ok run =>
      show (run.assembler.applyToolCalls choice.delta.toolCalls >>= _) =
        ((choice.delta.toolCalls.map StreamPart.tool).foldlM applyPart run >>=
          _)
      rw [foldlM_tools]
      cases run.assembler.applyToolCalls choice.delta.toolCalls with
      | error error => rfl
      | ok assembler => cases choice.finishReason <;> rfl

/-- A chunk is applied part by part. -/
theorem applyChunk_eq (run : StreamRun) (chunk : ChatCompletionChunk) :
    run.applyChunk chunk = chunk.parts.foldlM applyPart run := by
  have choices : ∀ (choices : List ChatChunkChoice) (run : StreamRun),
      choices.foldlM applyChoice run =
        (choices.flatMap ChatChunkChoice.parts).foldlM applyPart run := by
    intro choices
    induction choices with
    | nil => exact fun _ => rfl
    | cons choice rest ih =>
        intro run
        rw [List.foldlM_cons, List.flatMap_cons, List.foldlM_append,
          applyChoice_eq]
        cases choice.parts.foldlM applyPart run with
        | error error => rfl
        | ok run => exact ih run
  have model : (chunk.model.toList.map StreamPart.model).foldlM applyPart run =
      run.applyModel chunk.model := by
    cases chunk.model with
    | none => rfl
    | some name =>
        show run.applyModel (some name) >>= pure = _
        rw [bind_pure]
  unfold applyChunk ChatCompletionChunk.parts
  rw [List.foldlM_append, List.foldlM_append, model]
  cases run.applyModel chunk.model with
  | error error => rfl
  | ok run =>
      show List.foldlM applyChoice _ chunk.choices = (_ >>= _)
      rw [choices]
      cases chunk.usage <;> rfl

end StreamRun

/-- The call that the deltas of one index make. -/
def assembledCall (deltas : List ChatToolCallDelta) : StreamingToolCall :=
  deltas.foldl (fun call delta => delta.update call) .default

def deltasAt (deltas : List ChatToolCallDelta) (index : Nat) :
    List ChatToolCallDelta :=
  deltas.filter (·.index == index)

theorem assembledCall_append (deltas : List ChatToolCallDelta)
    (delta : ChatToolCallDelta) :
    assembledCall (deltas ++ [delta]) = delta.update (assembledCall deltas) :=
  List.foldl_append

theorem assembledCall_name (deltas : List ChatToolCallDelta) :
    (assembledCall deltas).name = String.join (deltas.map (·.addedName)) := by
  induction deltas using List.reverseRecOn with
  | nil => rfl
  | append_singleton deltas delta ih =>
      rw [assembledCall_append, List.map_append, String.join_append, ← ih]
      simp [ChatToolCallDelta.update]

theorem assembledCall_arguments (deltas : List ChatToolCallDelta) :
    (assembledCall deltas).arguments =
      String.join (deltas.map (·.addedArguments)) := by
  induction deltas using List.reverseRecOn with
  | nil => rfl
  | append_singleton deltas delta ih =>
      rw [assembledCall_append, List.map_append, String.join_append, ← ih]
      simp [ChatToolCallDelta.update]

theorem deltasAt_append (deltas : List ChatToolCallDelta)
    (delta : ChatToolCallDelta) (index : Nat) :
    deltasAt (deltas ++ [delta]) index =
      deltasAt deltas index ++ if delta.index = index then [delta] else [] := by
  unfold deltasAt
  rw [List.filter_append]
  by_cases same : delta.index = index <;> simp [same]

/-- The map holds the calls of the deltas, in index order. -/
structure ToolCallMap.Assembles (calls : ToolCallMap)
    (deltas : List ChatToolCallDelta) : Prop where
  ordered : (calls.map (·.1)).Pairwise (· < ·)
  get? : ∀ index, calls.get? index =
    if deltasAt deltas index = [] then none
    else some (assembledCall (deltasAt deltas index))

namespace ToolCallMap

theorem mem_keys_modify {calls : ToolCallMap} {index : Nat}
    {change : StreamingToolCall → StreamingToolCall} {key : Nat} :
    key ∈ (calls.modify index change).map (·.1) ↔
      key = index ∨ key ∈ calls.map (·.1) := by
  induction calls with
  | nil => simp [modify]
  | cons entry rest ih =>
      unfold modify
      split
      · simp
      split
      next same => simp [same]
      next => simp only [List.map_cons, List.mem_cons, ih]; tauto

theorem ordered_modify {calls : ToolCallMap} {index : Nat}
    {change : StreamingToolCall → StreamingToolCall}
    (ordered : (calls.map (·.1)).Pairwise (· < ·)) :
    ((calls.modify index change).map (·.1)).Pairwise (· < ·) := by
  induction calls with
  | nil => simp [modify]
  | cons entry rest ih =>
      rw [List.map_cons, List.pairwise_cons] at ordered
      unfold modify
      split
      next below =>
        rw [List.map_cons, List.map_cons, List.pairwise_cons,
          List.pairwise_cons]
        refine ⟨?_, ordered⟩
        intro key member
        rcases List.mem_cons.mp member with rfl | isLater
        · exact below
        · exact below.trans (ordered.1 key isLater)
      split
      · exact List.pairwise_cons.mpr ordered
      next notBelow notSame =>
        refine List.pairwise_cons.mpr ⟨?_, ih ordered.2⟩
        intro key member
        rcases mem_keys_modify.mp member with rfl | isLater
        · dsimp only
          omega
        · exact ordered.1 key isLater

theorem get?_cons (key : Nat) (call : StreamingToolCall) (rest : ToolCallMap)
    (index : Nat) :
    get? ((key, call) :: rest) index =
      if index = key then some call else get? rest index := by
  unfold get?
  rw [List.lookup_cons]
  by_cases same : index = key
  · rw [if_pos same, beq_iff_eq.mpr same]
  · rw [if_neg same, beq_eq_false_iff_ne.mpr same]

theorem get?_eq_none_of_not_mem {calls : ToolCallMap} {index : Nat}
    (absent : index ∉ calls.map (·.1)) : calls.get? index = none := by
  unfold get?
  rw [List.lookup_eq_none_iff]
  intro entry member
  rw [bne_iff_ne]
  intro same
  exact absent (List.mem_map.mpr ⟨entry, member, same.symm⟩)

/-- A change of an entry is seen at its index only. -/
theorem get?_modify {calls : ToolCallMap} {index : Nat}
    {change : StreamingToolCall → StreamingToolCall}
    (ordered : (calls.map (·.1)).Pairwise (· < ·)) (other : Nat) :
    (calls.modify index change).get? other =
      if other = index then
        some (change ((calls.get? index).getD .default))
      else calls.get? other := by
  induction calls with
  | nil =>
      unfold modify
      rw [get?_cons]
      rfl
  | cons entry rest ih =>
      obtain ⟨key, call⟩ := entry
      rw [List.map_cons, List.pairwise_cons] at ordered
      unfold modify
      split
      next below =>
        have absent : get? ((key, call) :: rest) index = none := by
          apply get?_eq_none_of_not_mem
          intro member
          rcases List.mem_cons.mp member with rfl | isLater
          · exact absurd below (lt_irrefl _)
          · exact absurd (below.trans (ordered.1 index isLater)) (lt_irrefl _)
        rw [absent, get?_cons]
        rfl
      split
      next same =>
        subst same
        rw [get?_cons, get?_cons, if_pos rfl, get?_cons]
        by_cases same : other = index
        · rw [if_pos same, if_pos same]
          rfl
        · rw [if_neg same, if_neg same, if_neg same]
      next notSame =>
        rw [get?_cons, get?_cons, get?_cons, if_neg notSame, ih ordered.2]
        by_cases isKey : other = key
        · have different : other ≠ index := fun same =>
            notSame (same.symm.trans isKey)
          rw [if_pos isKey, if_neg different, if_pos isKey]
        · rw [if_neg isKey, if_neg isKey]

theorem Assembles.current {calls : ToolCallMap}
    {deltas : List ChatToolCallDelta} (assembles : calls.Assembles deltas)
    (index : Nat) :
    (calls.get? index).getD .default =
      assembledCall (deltasAt deltas index) := by
  rw [assembles.get?]
  split
  next noDelta =>
    rw [noDelta]
    rfl
  next => rfl

theorem Assembles.modify {calls : ToolCallMap}
    {deltas : List ChatToolCallDelta} (assembles : calls.Assembles deltas)
    (delta : ChatToolCallDelta) :
    ToolCallMap.Assembles (calls.modify delta.index delta.update)
      (deltas ++ [delta]) := by
  constructor
  · exact ordered_modify assembles.ordered
  · intro index
    rw [get?_modify assembles.ordered, deltasAt_append, assembles.current]
    by_cases same : index = delta.index
    · subst same
      rw [if_pos rfl, if_pos rfl, if_neg (by simp), assembledCall_append]
    · rw [if_neg same, if_neg (Ne.symm same), List.append_nil]
      exact assembles.get? index

theorem Assembles.mem_keys_iff {calls : ToolCallMap}
    {deltas : List ChatToolCallDelta} (assembles : calls.Assembles deltas)
    (index : Nat) :
    index ∈ calls.map (·.1) ↔ ∃ delta ∈ deltas, delta.index = index := by
  have lookup := assembles.get? index
  constructor
  · intro member
    by_contra noDelta
    have isNil : deltasAt deltas index = [] := by
      apply List.filter_eq_nil_iff.mpr
      intro delta isDelta
      simpa using fun same => noDelta ⟨delta, isDelta, same⟩
    rw [if_pos isNil] at lookup
    have absent : ∀ entry ∈ calls, (index != entry.1) = true :=
      List.lookup_eq_none_iff.mp lookup
    obtain ⟨entry, isEntry, same⟩ := List.mem_map.mp member
    exact bne_iff_ne.mp (absent entry isEntry) same.symm
  · rintro ⟨delta, isDelta, same⟩
    by_contra absent
    rw [get?_eq_none_of_not_mem absent] at lookup
    have isAt : delta ∈ deltasAt deltas index :=
      List.mem_filter.mpr ⟨isDelta, by simpa using same⟩
    rw [if_neg (List.ne_nil_of_mem isAt)] at lookup
    cases lookup

end ToolCallMap

def argumentBytes (deltas : List ChatToolCallDelta) : Nat :=
  (deltas.map (·.addedArguments.utf8ByteSize)).sum

section Totals

variable (parts : List StreamPart)

def streamedText : String :=
  String.join (parts.filterMap StreamPart.text?)

def streamedDeltas : List ChatToolCallDelta :=
  parts.filterMap StreamPart.tool?

end Totals

/-- The tool calls are within the limits. -/
structure DeltasWithin (deltas : List ChatToolCallDelta) : Prop where
  index : ∀ delta ∈ deltas, delta.index ≤ maxToolCallIndex
  name : ∀ index, (assembledCall (deltasAt deltas index)).name.utf8ByteSize ≤
    maxToolNameBytes
  arguments : ∀ index, (assembledCall (deltasAt deltas
    index)).arguments.utf8ByteSize ≤ maxToolArgumentBytes
  total : argumentBytes deltas ≤ maxToolArgumentsBytes

/-- The parts are within the limits, and the model names agree. -/
structure WithinLimits (parts : List StreamPart) : Prop where
  text : (streamedText parts).utf8ByteSize ≤ maxAssistantTextBytes
  tools : DeltasWithin (streamedDeltas parts)
  model : ∀ one ∈ parts.filterMap StreamPart.model?,
    ∀ two ∈ parts.filterMap StreamPart.model?, one = two

/-- The state of the assembler is that of the parts. -/
structure Streamed (parts : List StreamPart) (run : StreamRun) : Prop where
  text : run.assembler.text = streamedText parts
  deltas : String.join run.deltas = streamedText parts
  calls : ToolCallMap.Assembles run.assembler.toolCalls (streamedDeltas parts)
  bytes : run.assembler.toolArgumentsBytes =
    argumentBytes (streamedDeltas parts)
  finish : run.assembler.finishReason =
    (parts.filterMap StreamPart.finish?).getLast?
  model : run.assembler.servedModel =
    (parts.filterMap StreamPart.model?).head?
  usage : run.assembler.usage = (parts.filterMap StreamPart.usage?).getLast?

theorem argumentBytes_append (first second : List ChatToolCallDelta) :
    argumentBytes (first ++ second) =
      argumentBytes first + argumentBytes second := by
  unfold argumentBytes
  rw [List.map_append, List.sum_append]

/-- The length of a text is that of its two parts. -/
theorem utf8ByteSize_join_append (first second : List String) :
    (String.join (first ++ second)).utf8ByteSize =
      (String.join first).utf8ByteSize + (String.join second).utf8ByteSize := by
  rw [String.join_append, String.utf8ByteSize_append]

theorem utf8ByteSize_join (texts : List String) :
    (String.join texts).utf8ByteSize =
      (texts.map String.utf8ByteSize).sum := by
  induction texts using List.reverseRecOn with
  | nil => rfl
  | append_singleton texts text ih =>
      rw [utf8ByteSize_join_append, List.map_append, List.sum_append, ih]
      simp

/-- A total over the deltas is the total over their indices. -/
theorem sum_deltasAt (size : ChatToolCallDelta → Nat) {keys : List Nat}
    (distinct : keys.Nodup) {deltas : List ChatToolCallDelta}
    (covers : ∀ delta ∈ deltas, delta.index ∈ keys) :
    (keys.map fun index => ((deltasAt deltas index).map size).sum).sum =
      (deltas.map size).sum := by
  induction deltas with
  | nil => simp [deltasAt]
  | cons delta rest ih =>
      have others := ih fun other member =>
        covers other (List.mem_cons_of_mem _ member)
      have inside := covers delta List.mem_cons_self
      have each : ∀ index, ((deltasAt (delta :: rest) index).map size).sum =
          (if index = delta.index then size delta else 0) +
            ((deltasAt rest index).map size).sum := by
        intro index
        unfold deltasAt
        by_cases same : delta.index = index
        · rw [List.filter_cons_of_pos (by simpa using same), if_pos same.symm,
            List.map_cons, List.sum_cons]
        · rw [List.filter_cons_of_neg (by simpa using same),
            if_neg (Ne.symm same), Nat.zero_add]
      have single : (keys.map fun index =>
          if index = delta.index then size delta else 0).sum = size delta := by
        rw [← List.sum_toFinset _ distinct, Finset.sum_ite_eq',
          if_pos (List.mem_toFinset.mpr inside)]
      rw [List.map_congr_left fun index _ => each index, List.sum_map_add,
        single, others, List.map_cons, List.sum_cons]

theorem lookup_of_mem {Key Entry : Type} [BEq Key] [LawfulBEq Key]
    {entries : List (Key × Entry)} (distinct : (entries.map (·.1)).Nodup)
    {entry : Key × Entry} (member : entry ∈ entries) :
    entries.lookup entry.1 = some entry.2 := by
  induction entries with
  | nil => cases member
  | cons first rest ih =>
      rw [List.map_cons, List.nodup_cons] at distinct
      rw [List.lookup_cons]
      rcases List.mem_cons.mp member with rfl | isLater
      · rw [beq_self_eq_true]
      · have different : entry.1 ≠ first.1 := by
          intro same
          exact distinct.1 (List.mem_map.mpr ⟨entry, isLater, same⟩)
        rw [beq_eq_false_iff_ne.mpr different]
        exact ih distinct.2 isLater

theorem deltasAt_append_list (first second : List ChatToolCallDelta)
    (index : Nat) :
    deltasAt (first ++ second) index =
      deltasAt first index ++ deltasAt second index :=
  List.filter_append first second

theorem DeltasWithin.of_append {first second : List ChatToolCallDelta}
    (within : DeltasWithin (first ++ second)) : DeltasWithin first := by
  constructor
  · intro delta member
    exact within.index delta (List.mem_append_left _ member)
  · intro index
    have name := within.name index
    rw [deltasAt_append_list, assembledCall_name, List.map_append,
      utf8ByteSize_join_append] at name
    rw [assembledCall_name]
    omega
  · intro index
    have arguments := within.arguments index
    rw [deltasAt_append_list, assembledCall_arguments, List.map_append,
      utf8ByteSize_join_append] at arguments
    rw [assembledCall_arguments]
    omega
  · have total := within.total
    rw [argumentBytes_append] at total
    omega

theorem streamedDeltas_append (first second : List StreamPart) :
    streamedDeltas (first ++ second) =
      streamedDeltas first ++ streamedDeltas second :=
  List.filterMap_append

theorem streamedText_append (first second : List StreamPart) :
    streamedText (first ++ second) =
      streamedText first ++ streamedText second := by
  unfold streamedText
  rw [List.filterMap_append, String.join_append]

theorem WithinLimits.of_append {first second : List StreamPart}
    (within : WithinLimits (first ++ second)) : WithinLimits first := by
  constructor
  · have text := within.text
    rw [streamedText_append, String.utf8ByteSize_append] at text
    omega
  · have tools := within.tools
    rw [streamedDeltas_append] at tools
    exact tools.of_append
  · intro one isOne two isTwo
    apply within.model
    · rw [List.filterMap_append]
      exact List.mem_append_left _ isOne
    · rw [List.filterMap_append]
      exact List.mem_append_left _ isTwo

/-- There is room for a new index below the limit. -/
theorem ToolCallMap.Assembles.room {calls : ToolCallMap}
    {deltas : List ChatToolCallDelta} (assembles : calls.Assembles deltas)
    (within : DeltasWithin deltas) {index : Nat}
    (small : index ≤ maxToolCallIndex) :
    ((calls.get? index).isNone && calls.length == maxToolCalls) = false := by
  rw [Bool.and_eq_false_iff]
  by_cases absent : index ∈ calls.map (·.1)
  · left
    obtain ⟨delta, isDelta, same⟩ := (assembles.mem_keys_iff index).mp absent
    have isAt : delta ∈ deltasAt deltas index :=
      List.mem_filter.mpr ⟨isDelta, by simpa using same⟩
    rw [assembles.get?, if_neg (List.ne_nil_of_mem isAt)]
    rfl
  · right
    have distinct : (calls.map (·.1)).Nodup :=
      assembles.ordered.imp fun less => ne_of_lt less
    have inside : (calls.map (·.1)).toFinset ⊆
        (Finset.range maxToolCalls).erase index := by
      intro key member
      rw [List.mem_toFinset] at member
      obtain ⟨delta, isDelta, same⟩ := (assembles.mem_keys_iff key).mp member
      have bound := within.index delta isDelta
      rw [Finset.mem_erase, Finset.mem_range]
      refine ⟨fun isIndex => absent (isIndex ▸ member), ?_⟩
      unfold maxToolCallIndex maxToolCalls at bound
      unfold maxToolCalls
      omega
    have isIndex : index ∈ Finset.range maxToolCalls := by
      rw [Finset.mem_range]
      unfold maxToolCallIndex maxToolCalls at small
      unfold maxToolCalls
      omega
    have card := Finset.card_le_card inside
    rw [List.toFinset_card_of_nodup distinct, List.length_map,
      Finset.card_erase_of_mem isIndex, Finset.card_range] at card
    unfold maxToolCalls at card ⊢
    rw [beq_eq_false_iff_ne]
    omega

theorem argumentBytes_singleton (delta : ChatToolCallDelta) :
    argumentBytes [delta] = delta.addedArguments.utf8ByteSize := by
  simp [argumentBytes]

/-- What a delta adds stays within the limits when its own index does. -/
theorem DeltasWithin.append {deltas : List ChatToolCallDelta}
    (within : DeltasWithin deltas) {delta : ChatToolCallDelta}
    (index : delta.index ≤ maxToolCallIndex)
    (name : (assembledCall (deltasAt (deltas ++ [delta])
      delta.index)).name.utf8ByteSize ≤ maxToolNameBytes)
    (arguments : (assembledCall (deltasAt (deltas ++ [delta])
      delta.index)).arguments.utf8ByteSize ≤ maxToolArgumentBytes)
    (total : argumentBytes (deltas ++ [delta]) ≤ maxToolArgumentsBytes) :
    DeltasWithin (deltas ++ [delta]) := by
  have other : ∀ key, key ≠ delta.index →
      deltasAt (deltas ++ [delta]) key = deltasAt deltas key := by
    intro key different
    rw [deltasAt_append, if_neg (Ne.symm different), List.append_nil]
  constructor
  · intro added member
    rcases List.mem_append.mp member with isOld | isNew
    · exact within.index added isOld
    · rw [List.mem_singleton.mp isNew]
      exact index
  · intro key
    by_cases same : key = delta.index
    · rw [same]
      exact name
    · rw [other key same]
      exact within.name key
  · intro key
    by_cases same : key = delta.index
    · rw [same]
      exact arguments
    · rw [other key same]
      exact within.arguments key
  · exact total

/-- A delta of a tool call is taken exactly when the calls stay within the
limits. -/
theorem applyToolCall_spec {assembler : StreamingAssembler}
    {deltas : List ChatToolCallDelta}
    (assembles : ToolCallMap.Assembles assembler.toolCalls deltas)
    (bytes : assembler.toolArgumentsBytes = argumentBytes deltas)
    (within : DeltasWithin deltas) (delta : ChatToolCallDelta) :
    (assembler.applyToolCall delta = .ok { assembler with
        toolCalls := assembler.toolCalls.modify delta.index delta.update
        toolArgumentsBytes := argumentBytes (deltas ++ [delta]) } ∧
      DeltasWithin (deltas ++ [delta])) ∨
    ((∃ error, assembler.applyToolCall delta = .error error) ∧
      ¬ DeltasWithin (deltas ++ [delta])) := by
  have sum : argumentBytes (deltas ++ [delta]) =
      argumentBytes deltas + delta.addedArguments.utf8ByteSize := by
    rw [argumentBytes_append, argumentBytes_singleton]
  have assembled : assembledCall (deltasAt (deltas ++ [delta]) delta.index) =
      delta.update (assembledCall (deltasAt deltas delta.index)) := by
    rw [deltasAt_append, if_pos rfl, assembledCall_append]
  have newName : (assembledCall (deltasAt (deltas ++ [delta])
      delta.index)).name.utf8ByteSize =
        (assembledCall (deltasAt deltas delta.index)).name.utf8ByteSize +
          delta.addedName.utf8ByteSize := by
    rw [assembled]
    exact String.utf8ByteSize_append
  have newArguments : (assembledCall (deltasAt (deltas ++ [delta])
      delta.index)).arguments.utf8ByteSize =
        (assembledCall (deltasAt deltas delta.index)).arguments.utf8ByteSize +
          delta.addedArguments.utf8ByteSize := by
    rw [assembled]
    exact String.utf8ByteSize_append
  have oldName := within.name delta.index
  have oldArguments := within.arguments delta.index
  have oldTotal := within.total
  unfold StreamingAssembler.applyToolCall
  by_cases large : maxToolCallIndex < delta.index
  · right
    rw [if_pos large]
    refine ⟨⟨_, rfl⟩, fun after => ?_⟩
    have index := after.index delta (List.mem_append_right _ List.mem_cons_self)
    omega
  rw [if_neg large, assembles.room within (Nat.not_lt.mp large),
    if_neg (by decide), assembles.current, bytes]
  unfold ChatToolCallDelta.checkLimits
  by_cases noFunction : delta.function.isNone = true
  · left
    have addsNothing : delta.addedName = "" ∧ delta.addedArguments = "" := by
      rw [Option.isNone_iff_eq_none] at noFunction
      unfold ChatToolCallDelta.addedName ChatToolCallDelta.addedArguments
      rw [noFunction]
      exact ⟨rfl, rfl⟩
    have empty : ("" : String).utf8ByteSize = 0 := rfl
    rw [addsNothing.1, empty] at newName
    rw [addsNothing.2, empty] at newArguments sum
    rw [if_pos noFunction, sum, addsNothing.2, empty]
    refine ⟨rfl, within.append (Nat.not_lt.mp large) ?_ ?_ ?_⟩
    · omega
    · omega
    · omega
  rw [if_neg noFunction, ← newName, ← newArguments, ← sum]
  by_cases longName : maxToolNameBytes <
      (assembledCall (deltasAt (deltas ++ [delta])
        delta.index)).name.utf8ByteSize
  · right
    rw [if_pos longName]
    refine ⟨⟨_, rfl⟩, fun after => ?_⟩
    have name := after.name delta.index
    omega
  by_cases longArguments : maxToolArgumentBytes <
      (assembledCall (deltasAt (deltas ++ [delta])
        delta.index)).arguments.utf8ByteSize
  · right
    rw [if_neg longName, if_pos longArguments]
    refine ⟨⟨_, rfl⟩, fun after => ?_⟩
    have arguments := after.arguments delta.index
    omega
  by_cases longTotal : maxToolArgumentsBytes < argumentBytes (deltas ++ [delta])
  · right
    rw [if_neg longName, if_neg longArguments, if_pos longTotal]
    refine ⟨⟨_, rfl⟩, fun after => ?_⟩
    have total := after.total
    omega
  · left
    rw [if_neg longName, if_neg longArguments, if_neg longTotal]
    exact ⟨rfl, within.append (Nat.not_lt.mp large)
      (Nat.not_lt.mp longName) (Nat.not_lt.mp longArguments)
      (Nat.not_lt.mp longTotal)⟩

theorem DeltasWithin.nil : DeltasWithin [] := by
  constructor
  · intro delta member
    cases member
  · exact fun _ => Nat.zero_le _
  · exact fun _ => Nat.zero_le _
  · exact Nat.zero_le _

theorem WithinLimits.nil : WithinLimits [] := by
  refine ⟨Nat.zero_le _, .nil, ?_⟩
  intro one member
  cases member

theorem Streamed.nil : Streamed [] ⟨.default, []⟩ := by
  refine ⟨rfl, rfl, ⟨List.Pairwise.nil, fun _ => rfl⟩, rfl, rfl, rfl, rfl⟩

/-- A part that adds no text and no delta keeps the limits of both. -/
theorem WithinLimits.append {parts : List StreamPart}
    (within : WithinLimits parts) {part : StreamPart}
    (text : (streamedText (parts ++ [part])).utf8ByteSize ≤
      maxAssistantTextBytes)
    (tools : DeltasWithin (streamedDeltas (parts ++ [part])))
    (model : ∀ name ∈ part.model?, ∀ other ∈ parts.filterMap StreamPart.model?,
      other = name) :
    WithinLimits (parts ++ [part]) := by
  refine ⟨text, tools, ?_⟩
  intro one isOne two isTwo
  rw [List.filterMap_append, List.mem_append] at isOne isTwo
  have last : ∀ name, name ∈ [part].filterMap StreamPart.model? ↔
      name ∈ part.model? := by
    intro name
    simp [List.mem_filterMap]
  rw [last] at isOne isTwo
  rcases isOne with isOne | isOne <;> rcases isTwo with isTwo | isTwo
  · exact within.model one isOne two isTwo
  · exact model two isTwo one isOne
  · exact (model one isOne two isTwo).symm
  · exact Option.mem_unique isOne isTwo

theorem filterMap_quiet {Part : Type} (parts : List StreamPart)
    {project : StreamPart → Option Part} {part : StreamPart}
    (quiet : project part = none) :
    (parts ++ [part]).filterMap project = parts.filterMap project := by
  rw [List.filterMap_append, List.filterMap_cons_none quiet, List.filterMap_nil,
    List.append_nil]

/-- The totals after a part without text, delta or model name. -/
theorem WithinLimits.append_quiet {parts : List StreamPart}
    (within : WithinLimits parts) {part : StreamPart}
    (noText : part.text? = none) (noTool : part.tool? = none)
    (noModel : part.model? = none) : WithinLimits (parts ++ [part]) := by
  have text : streamedText (parts ++ [part]) = streamedText parts := by
    unfold streamedText
    simp [List.filterMap_append, noText]
  have tools : streamedDeltas (parts ++ [part]) = streamedDeltas parts := by
    unfold streamedDeltas
    simp [List.filterMap_append, noTool]
  refine within.append ?_ ?_ ?_
  · rw [text]
    exact within.text
  · rw [tools]
    exact within.tools
  · rw [noModel]
    intro name member
    cases member

/-- A text is taken exactly when the text stays within its limit. -/
theorem applyText_spec {parts : List StreamPart} {run : StreamRun}
    (streamed : Streamed parts run) (within : WithinLimits parts)
    (text : String) :
    (∃ after, run.applyText (some text) = .ok after ∧
      Streamed (parts ++ [.text text]) after ∧
      WithinLimits (parts ++ [.text text])) ∨
    ((∃ error, run.applyText (some text) = .error error) ∧
      ¬ WithinLimits (parts ++ [.text text])) := by
  have newText : streamedText (parts ++ [.text text]) =
      streamedText parts ++ text := by
    rw [streamedText_append]
    simp [streamedText, StreamPart.text?]
  have tools : streamedDeltas (parts ++ [.text text]) =
      streamedDeltas parts := by
    rw [streamedDeltas_append]
    exact List.append_nil _
  have finish := filterMap_quiet parts
    (rfl : (StreamPart.text text).finish? = none)
  have model := filterMap_quiet parts
    (rfl : (StreamPart.text text).model? = none)
  have usage := filterMap_quiet parts
    (rfl : (StreamPart.text text).usage? = none)
  have keep : (streamedText (parts ++ [.text text])).utf8ByteSize ≤
      maxAssistantTextBytes → WithinLimits (parts ++ [.text text]) := by
    intro fits
    refine within.append fits ?_ ?_
    · rw [tools]
      exact within.tools
    · intro name member
      cases member
  unfold StreamRun.applyText
  by_cases blank : text.isEmpty = true
  · left
    have isBlank : text = "" := String.isEmpty_iff.mp blank
    have none_ : (some text).filter (fun text => !text.isEmpty) = none := by
      simp [isBlank]
    rw [none_]
    have same : streamedText (parts ++ [.text text]) = streamedText parts := by
      rw [newText, isBlank, String.append_empty]
    refine ⟨run, rfl, ?_, keep (by rw [same]; exact within.text)⟩
    constructor
    · rw [same]
      exact streamed.text
    · rw [same]
      exact streamed.deltas
    · rw [tools]
      exact streamed.calls
    · rw [tools]
      exact streamed.bytes
    · rw [finish]
      exact streamed.finish
    · rw [model]
      exact streamed.model
    · rw [usage]
      exact streamed.usage
  · have some_ : (some text).filter (fun text => !text.isEmpty) =
        some text := by
      simp [blank]
    rw [some_]
    dsimp only
    rw [← String.utf8ByteSize_append, streamed.text, ← newText]
    by_cases long : maxAssistantTextBytes <
        (streamedText (parts ++ [.text text])).utf8ByteSize
    · right
      rw [if_pos long]
      refine ⟨⟨_, rfl⟩, fun after => ?_⟩
      have text := after.text
      omega
    · left
      rw [if_neg long]
      refine ⟨_, rfl, ?_, keep (Nat.not_lt.mp long)⟩
      constructor
      · rfl
      · dsimp only
        rw [String.join_append, streamed.deltas, newText]
        simp
      · dsimp only
        rw [tools]
        exact streamed.calls
      · dsimp only
        rw [tools]
        exact streamed.bytes
      · dsimp only
        rw [finish]
        exact streamed.finish
      · dsimp only
        rw [model]
        exact streamed.model
      · dsimp only
        rw [usage]
        exact streamed.usage

/-- A model name is taken exactly when it agrees with the first one. -/
theorem applyModel_spec {parts : List StreamPart} {run : StreamRun}
    (streamed : Streamed parts run) (within : WithinLimits parts)
    (name : ModelName) :
    (∃ after, run.applyModel (some name) = .ok after ∧
      Streamed (parts ++ [.model name]) after ∧
      WithinLimits (parts ++ [.model name])) ∨
    ((∃ error, run.applyModel (some name) = .error error) ∧
      ¬ WithinLimits (parts ++ [.model name])) := by
  have text : streamedText (parts ++ [.model name]) = streamedText parts := by
    rw [streamedText_append]
    exact String.append_empty
  have tools : streamedDeltas (parts ++ [.model name]) =
      streamedDeltas parts := by
    rw [streamedDeltas_append]
    exact List.append_nil _
  have models : (parts ++ [StreamPart.model name]).filterMap
      StreamPart.model? = parts.filterMap StreamPart.model? ++ [name] :=
    List.filterMap_append
  have finish := filterMap_quiet parts
    (rfl : (StreamPart.model name).finish? = none)
  have usage := filterMap_quiet parts
    (rfl : (StreamPart.model name).usage? = none)
  have keep : (∀ other ∈ parts.filterMap StreamPart.model?, other = name) →
      WithinLimits (parts ++ [.model name]) := by
    intro same
    refine within.append ?_ ?_ ?_
    · rw [text]
      exact within.text
    · rw [tools]
      exact within.tools
    · intro other member
      cases member
      exact same
  have first := streamed.model
  unfold StreamRun.applyModel
  cases served : run.assembler.servedModel with
  | none =>
      left
      rw [served] at first
      have noModel := List.head?_eq_none_iff.mp first.symm
      refine ⟨_, rfl, ?_, keep ?_⟩
      · constructor
        · rw [text]
          exact streamed.text
        · rw [text]
          exact streamed.deltas
        · rw [tools]
          exact streamed.calls
        · rw [tools]
          exact streamed.bytes
        · rw [finish]
          exact streamed.finish
        · rw [models, noModel]
          rfl
        · rw [usage]
          exact streamed.usage
      · rw [noModel]
        intro other member
        cases member
  | some known =>
      rw [served] at first
      have isFirst := List.mem_of_mem_head? first.symm
      dsimp only
      by_cases same : known = name
      · left
        rw [if_pos same]
        refine ⟨run, rfl, ?_, keep ?_⟩
        · constructor
          · rw [text]
            exact streamed.text
          · rw [text]
            exact streamed.deltas
          · rw [tools]
            exact streamed.calls
          · rw [tools]
            exact streamed.bytes
          · rw [finish]
            exact streamed.finish
          · rw [models, served, List.head?_append, ← first]
            rfl
          · rw [usage]
            exact streamed.usage
        · intro other member
          rw [← same]
          exact within.model other member known isFirst
      · right
        rw [if_neg same]
        refine ⟨⟨_, rfl⟩, fun after => ?_⟩
        have agree := after.model
        rw [models] at agree
        exact same (agree known (List.mem_append_left _ isFirst) name
          (List.mem_append_right _ List.mem_cons_self))

/-- A part is taken exactly when the parts stay within the limits. -/
theorem applyPart_spec {parts : List StreamPart} {run : StreamRun}
    (streamed : Streamed parts run) (within : WithinLimits parts)
    (part : StreamPart) :
    (∃ after, run.applyPart part = .ok after ∧
      Streamed (parts ++ [part]) after ∧ WithinLimits (parts ++ [part])) ∨
    ((∃ error, run.applyPart part = .error error) ∧
      ¬ WithinLimits (parts ++ [part])) := by
  cases part with
  | model name => exact applyModel_spec streamed within name
  | text text => exact applyText_spec streamed within text
  | usage value =>
      left
      have text := filterMap_quiet parts
        (rfl : (StreamPart.usage value).text? = none)
      have tools : streamedDeltas (parts ++ [.usage value]) =
          streamedDeltas parts := filterMap_quiet parts rfl
      have finish := filterMap_quiet parts
        (rfl : (StreamPart.usage value).finish? = none)
      have model := filterMap_quiet parts
        (rfl : (StreamPart.usage value).model? = none)
      refine ⟨_, rfl, ?_, within.append_quiet rfl rfl rfl⟩
      constructor
      · exact streamed.text.trans (congrArg String.join text.symm)
      · exact streamed.deltas.trans (congrArg String.join text.symm)
      · rw [tools]
        exact streamed.calls
      · rw [tools]
        exact streamed.bytes
      · rw [finish]
        exact streamed.finish
      · rw [model]
        exact streamed.model
      · rw [List.filterMap_append]
        exact List.getLast?_concat.symm
  | finish reason =>
      left
      have text := filterMap_quiet parts
        (rfl : (StreamPart.finish reason).text? = none)
      have tools : streamedDeltas (parts ++ [.finish reason]) =
          streamedDeltas parts := filterMap_quiet parts rfl
      have model := filterMap_quiet parts
        (rfl : (StreamPart.finish reason).model? = none)
      have usage := filterMap_quiet parts
        (rfl : (StreamPart.finish reason).usage? = none)
      refine ⟨_, rfl, ?_, within.append_quiet rfl rfl rfl⟩
      constructor
      · exact streamed.text.trans (congrArg String.join text.symm)
      · exact streamed.deltas.trans (congrArg String.join text.symm)
      · rw [tools]
        exact streamed.calls
      · rw [tools]
        exact streamed.bytes
      · rw [List.filterMap_append]
        exact List.getLast?_concat.symm
      · rw [model]
        exact streamed.model
      · rw [usage]
        exact streamed.usage
  | tool delta =>
      have text := filterMap_quiet parts
        (rfl : (StreamPart.tool delta).text? = none)
      have tools : streamedDeltas (parts ++ [.tool delta]) =
          streamedDeltas parts ++ [delta] := List.filterMap_append
      have finish := filterMap_quiet parts
        (rfl : (StreamPart.tool delta).finish? = none)
      have model := filterMap_quiet parts
        (rfl : (StreamPart.tool delta).model? = none)
      have usage := filterMap_quiet parts
        (rfl : (StreamPart.tool delta).usage? = none)
      show (∃ after, (run.assembler.applyToolCall delta).map _ = _ ∧ _) ∨
        ((∃ error, (run.assembler.applyToolCall delta).map _ = _) ∧ _)
      rcases applyToolCall_spec streamed.calls streamed.bytes within.tools
        delta with ⟨applied, inside⟩ | ⟨⟨error, failed⟩, outside⟩
      · left
        rw [applied]
        refine ⟨_, rfl, ?_, ?_⟩
        · constructor
          · exact streamed.text.trans (congrArg String.join text.symm)
          · exact streamed.deltas.trans (congrArg String.join text.symm)
          · rw [tools]
            exact streamed.calls.modify delta
          · rw [tools]
          · rw [finish]
            exact streamed.finish
          · rw [model]
            exact streamed.model
          · rw [usage]
            exact streamed.usage
        · refine within.append ?_ ?_ ?_
          · show (String.join _).utf8ByteSize ≤ _
            rw [text]
            exact within.text
          · rw [tools]
            exact inside
          · intro name member
            cases member
      · right
        rw [failed]
        refine ⟨⟨error, rfl⟩, fun after => ?_⟩
        have stillInside := after.tools
        rw [tools] at stillInside
        exact outside stillInside

/-- The parts of a stream are taken exactly when they are within the limits. -/
theorem foldParts_spec (parts : List StreamPart) :
    (∃ run, parts.foldlM StreamRun.applyPart ⟨.default, []⟩ = .ok run ∧
      Streamed parts run ∧ WithinLimits parts) ∨
    ((∃ error, parts.foldlM StreamRun.applyPart ⟨.default, []⟩ =
      .error error) ∧ ¬ WithinLimits parts) := by
  induction parts using List.reverseRecOn with
  | nil => exact .inl ⟨_, rfl, .nil, .nil⟩
  | append_singleton parts part ih =>
      rw [List.foldlM_append]
      rcases ih with ⟨run, folded, streamed, within⟩ | ⟨⟨error, failed⟩, outside⟩
      · rw [folded]
        show (∃ after, (run.applyPart part >>= pure) = _ ∧ _) ∨
          ((∃ error, (run.applyPart part >>= pure) = _) ∧ _)
        rw [bind_pure]
        exact applyPart_spec streamed within part
      · right
        rw [failed]
        exact ⟨⟨error, rfl⟩, fun after => outside after.of_append⟩

end PlatoAgent
