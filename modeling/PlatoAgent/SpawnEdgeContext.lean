import PlatoAgent.ContextPacks
import PlatoAgent.JsonClosers
import PlatoAgent.StoreSchema
import PlatoAgent.ToolOutput

/-!
# Spawn-edge context

The messages from children and the answers of a parent go to a run as one block
of JSON, which is put in front of its last message and has a lane of tokens of
its own.  As many messages are selected as fit the lane, and the first of them
is cut where it alone does not.
-/

namespace PlatoAgent

namespace SpawnEdge

open TextClosers JsonText

def contextOpen : List Char :=
  "<platonic_spawn_edge_context trust=\"untrusted\">\n".toList

def contextClose : List Char :=
  "\n</platonic_spawn_edge_context>".toList

/-- `</platonic_spawn_edge_context`. -/
def contextCloser : Closer where
  name := ['p', 'l', 'a', 't', 'o', 'n', 'i', 'c', '_', 's', 'p', 'a', 'w',
    'n', '_', 'e', 'd', 'g', 'e', '_', 'c', 'o', 'n', 't', 'e', 'x', 't']
  isPlain := rfl

/-- `SPAWN_EDGE_CONTEXT_TOKEN_BUDGET`. -/
def contextTokenBudget : UInt32 := 4096

inductive ContextError where
  | laneOverflow (added : UInt32)
  | budgetOverflow
  | provenanceOverflow
  deriving DecidableEq, Repr

def ContextError.message : ContextError → String
  | .laneOverflow added =>
      s!"spawn-edge context uses {added} estimated tokens, " ++
        s!"maximum is {contextTokenBudget}"
  | .budgetOverflow => "spawn-edge context token budget overflowed u32"
  | .provenanceOverflow =>
      s!"spawn-edge provenance exceeds its {contextTokenBudget}-token lane"

/-- The messages of a run that is about to start, and its token budget. -/
structure PreparedRun where
  messages : List ModelMessage
  tokenBudget : UInt32
  deriving Repr

def messageTokens (numbers : Number → List Char)
    (messages : List ModelMessage) : UInt32 :=
  estimateTokens (String.ofList ((jsonSpelling numbers).value
    (.array (messages.map ModelMessage.toJson))))

/-- The messages with one more in front of the last. -/
def PreparedRun.insertContext (prepared : PreparedRun) (content : List Char) :
    List ModelMessage :=
  prepared.messages.take (prepared.messages.length - 1) ++
    .assistantBlocks [.text (String.ofList content)] ::
      prepared.messages.drop (prepared.messages.length - 1)

def addSpawnEdgeContext (numbers : Number → List Char)
    (prepared : PreparedRun) (content : List Char) :
    Except ContextError PreparedRun :=
  let before := messageTokens numbers prepared.messages
  let messages := prepared.insertContext content
  let added := saturatingSub (messageTokens numbers messages) before
  if contextTokenBudget < added then .error (.laneOverflow added)
  else if prepared.tokenBudget.toNat + added.toNat < 2 ^ 32 then
    .ok ⟨messages, prepared.tokenBudget + added⟩
  else .error .budgetOverflow

def contextFits (numbers : Number → List Char) (prepared : PreparedRun)
    (rendered : List Char) : Bool :=
  (addSpawnEdgeContext numbers prepared rendered).toOption.isSome

def ChildReturnKind.toJson : ChildReturnKind → Value
  | .progress => .string "progress"
  | .question => .string "question"
  | .result => .string "result"
  | .failed => .string "failed"

def ParentAnswerKind.toJson : ParentAnswerKind → Value
  | .answer => .string "answer"
  | .followUp => .string "follow_up"

/-- The keys are sorted, as `json!` sorts them. -/
def returnContextValue (record : ChildReturnRecord)
    (admission : ThreadRunAdmission) (payload : List Char)
    (contextTruncated : Bool) : Value :=
  .object [
    ("artifact_refs", .array (record.artifactRefs.map Value.string)),
    ("child_thread_id", .string record.childThreadId),
    ("context_truncated", .bool contextTruncated),
    ("created_at_ms", LedgerText.u64 record.createdAtMs),
    ("kind", ChildReturnKind.toJson record.kind),
    ("message_id", .string record.messageId),
    ("parent_thread_id", .string record.parentThreadId),
    ("payload", .string (String.ofList payload)),
    ("profile_id", .string record.profileId.value),
    ("profile_revision", LedgerText.u64 record.profileRevision),
    ("reserved_by_run_id", .string admission.runId),
    ("reserved_by_turn_id", .string admission.threadTurnId),
    ("sequence", LedgerText.u64 (.ofNat record.sequence)),
    ("source_run_id", LedgerText.nullable .string record.sourceRunId),
    ("source_turn_id", LedgerText.nullable .string record.sourceTurnId),
    ("spawn_id", .string record.spawnId),
    ("state", .string "reserved"),
    ("truncated", .bool record.truncated)]

def answerContextValue (record : ParentAnswerRecord)
    (admission : ThreadRunAdmission) (payload : List Char)
    (contextTruncated : Bool) : Value :=
  .object [
    ("child_thread_id", .string record.childThreadId),
    ("context_truncated", .bool contextTruncated),
    ("created_at_ms", LedgerText.u64 record.createdAtMs),
    ("kind", ParentAnswerKind.toJson record.kind),
    ("message_id", .string record.messageId),
    ("parent_thread_id", .string record.parentThreadId),
    ("payload", .string (String.ofList payload)),
    ("profile_id", .string record.profileId.value),
    ("profile_revision", LedgerText.u64 record.profileRevision),
    ("reserved_by_run_id", .string admission.runId),
    ("reserved_by_turn_id", .string admission.threadTurnId),
    ("sequence", LedgerText.u64 (.ofNat record.sequence)),
    ("source_run_id", .string record.sourceRunId),
    ("source_turn_id", .string record.sourceTurnId),
    ("spawn_id", .string record.spawnId),
    ("state", .string "reserved")]

def contextBody (admission : ThreadRunAdmission)
    (returns answers : List Value) : Value :=
  .object [
    ("child_returns", .array returns),
    ("parent_answers", .array answers),
    ("receiving_run_id", .string admission.runId),
    ("receiving_turn_id", .string admission.threadTurnId),
    ("schema", .string "platonic.spawn_edge.v1"),
    ("trust", .string "untrusted")]

def renderContext (admission : ThreadRunAdmission)
    (returns answers : List Value) (nextReturn nextAnswer : Option Value) :
    List Char :=
  let returns := returns ++ nextReturn.toList
  let answers := answers ++ nextAnswer.toList
  contextOpen ++
    contextCloser.neutralize (valueText (contextBody admission returns answers))
    ++ contextClose

/-- A block is closed once, at its end, and its body is read as the value that
it was made from. -/
theorem renderContext_confined (admission : ThreadRunAdmission)
    (returns answers : List Value) (nextReturn nextAnswer : Option Value) :
    ∃ body, renderContext admission returns answers nextReturn nextAnswer =
        contextOpen ++ body ++ contextClose ∧
      contextCloser.occurrences (contextOpen ++ body ++ contextClose) = 1 ∧
      fromText (String.ofList body) = some (contextBody admission
        (returns ++ nextReturn.toList) (answers ++ nextAnswer.toList)) := by
  refine ⟨_, rfl, ?_, ?_⟩
  · have opening : contextOpen =
        "<platonic_spawn_edge_context trust=\"untrusted\">".toList ++
          '\n' :: [] := by
      unfold contextOpen
      simp only [String.reduceToList, List.cons_append, List.nil_append]
    have closing : contextClose =
        '\n' :: "</platonic_spawn_edge_context>".toList := by
      unfold contextClose
      simp only [String.reduceToList]
    have first : contextCloser.occurrences
        "<platonic_spawn_edge_context trust=\"untrusted\">".toList = 0 := by
      simp [Closer.occurrences, opensWith, Closer.pattern, contextCloser]
    have last : contextCloser.occurrences
        "</platonic_spawn_edge_context>".toList = 1 := by
      simp [Closer.occurrences, opensWith, Closer.pattern, contextCloser]
    rw [closing, Closer.occurrences_append_newline, last, opening,
      List.append_assoc, List.cons_append, Closer.occurrences_append_newline,
      first, List.nil_append,
      Closer.occurrences_neutralize]
  · exact fromText_neutralize contextCloser _

/-- The binary search over the prefixes of a payload. -/
def searchPayload (candidate : List Char → Value × Bool)
    (payload : List Char) (low high : Nat) (best : Option Value) :
    Option Value :=
  if low ≤ high then
    let middle := low + (high - low) / 2
    let result := candidate (payload.take middle)
    if result.2 then
      searchPayload candidate payload (middle + 1) high (some result.1)
    else if middle = 0 then best
    else searchPayload candidate payload low (middle - 1) best
  else best
termination_by high + 1 - low

def truncateContextPayload (payload : List Char)
    (candidate : List Char → Value × Bool) : Except ContextError Value :=
  match searchPayload candidate payload 0 payload.length none with
  | some value => .ok value
  | none => .error .provenanceOverflow

section Selection

variable (numbers : Number → List Char) (prepared : PreparedRun)
  (admission : ThreadRunAdmission)

def truncatedReturnValue (record : ChildReturnRecord) :
    Except ContextError Value :=
  truncateContextPayload record.payload.toList fun payload =>
    let value := returnContextValue record admission payload true
    (value, contextFits numbers prepared
      (renderContext admission [] [] (some value) none))

def truncatedAnswerValue (record : ParentAnswerRecord) :
    Except ContextError Value :=
  truncateContextPayload record.payload.toList fun payload =>
    let value := answerContextValue record admission payload true
    (value, contextFits numbers prepared
      (renderContext admission [] [] none (some value)))

/-- The messages of one queue that are taken so far, and whether one of them did
not fit. -/
structure Taken where
  values : List Value
  ids : List String
  full : Bool

/-- One queue of messages: their names, what is rendered of them, whether one
more fits, and what is left of the first where it does not. -/
structure Queue (Record : Type) where
  messageId : Record → String
  whole : Record → Value
  fits : List Value → Value → Bool
  truncated : Record → Except ContextError Value

/-- The loop over one queue; only the first message of a selection is cut. -/
def Queue.take {Record : Type} (queue : Queue Record) (isFirst : Bool) :
    Taken → List Record → Except ContextError Taken
  | taken, [] => .ok taken
  | taken, record :: rest =>
      let value := queue.whole record
      if queue.fits taken.values value then
        queue.take isFirst ⟨taken.values ++ [value],
          taken.ids ++ [queue.messageId record], taken.full⟩ rest
      else if taken.values.isEmpty && isFirst then do
        let value ← queue.truncated record
        .ok ⟨taken.values ++ [value], taken.ids ++ [queue.messageId record],
          true⟩
      else .ok ⟨taken.values, taken.ids, true⟩

def returnQueue : Queue ChildReturnRecord where
  messageId := fun record => record.messageId
  whole := fun record =>
    returnContextValue record admission record.payload.toList false
  fits := fun returns value => contextFits numbers prepared
    (renderContext admission returns [] (some value) none)
  truncated := truncatedReturnValue numbers prepared admission

def answerQueue (returns : List Value) : Queue ParentAnswerRecord where
  messageId := fun record => record.messageId
  whole := fun record =>
    answerContextValue record admission record.payload.toList false
  fits := fun answers value => contextFits numbers prepared
    (renderContext admission returns answers none (some value))
  truncated := truncatedAnswerValue numbers prepared admission

structure SelectedContext where
  childReturnIds : List String
  parentAnswerIds : List String
  rendered : Option (List Char)

def selectContext (returns : List ChildReturnRecord)
    (answers : List ParentAnswerRecord) :
    Except ContextError SelectedContext := do
  let ofReturns ← (returnQueue numbers prepared admission).take true
    ⟨[], [], false⟩ returns
  let ofAnswers ←
    if ofReturns.full then
      .ok ⟨[], [], false⟩
    else
      (answerQueue numbers prepared admission ofReturns.values).take
        ofReturns.values.isEmpty ⟨[], [], false⟩ answers
  .ok ⟨ofReturns.ids, ofAnswers.ids,
    if ofReturns.values.isEmpty && ofAnswers.values.isEmpty then none
    else some (renderContext admission ofReturns.values ofAnswers.values none
      none)⟩

end Selection

/-- What a character costs once its message is JSON. -/
def escapedCost (character : Char) : Nat :=
  (escapeChar character).length

section Lane

variable {numbers : Number → List Char} {prepared : PreparedRun}
  {admission : ThreadRunAdmission}

theorem lighter_messages {light heavy : List Char}
    (lighter : weight escapedCost light ≤ weight escapedCost heavy) :
    Lighter (fun _ => 1) (jsonSpelling numbers)
      (.array ((prepared.insertContext light).map ModelMessage.toJson))
      (.array ((prepared.insertContext heavy).map ModelMessage.toJson)) := by
  have text : Lighter (fun _ => 1) (jsonSpelling numbers)
      (.string (String.ofList light)) (.string (String.ofList heavy)) := by
    have escaped (text : List Char) :
        weight (fun _ => 1) (text.flatMap escapeChar) =
          weight escapedCost text := by
      induction text with
      | nil => rfl
      | cons character rest ih =>
          rw [List.flatMap_cons, weight_append, weight_cons, ih]
          simp [weight, escapedCost]
    unfold Lighter
    simp only [Spelling.value, Spelling.quoted, jsonSpelling, weight_append,
      weight_cons, List.cons_append, String.toList_ofList, escaped]
    omega
  have same (value : Value) :
      Lighter (fun _ => 1) (jsonSpelling numbers) value value := le_rfl
  have message : Lighter (fun _ => 1) (jsonSpelling numbers)
      (ModelMessage.assistantBlocks [.text (String.ofList light)]).toJson
      (ModelMessage.assistantBlocks [.text (String.ofList heavy)]).toJson := by
    apply lighter_object
    refine .cons ⟨rfl, same _⟩ (.cons ⟨rfl, lighter_array ?_⟩ .nil)
    refine .cons (lighter_object ?_) .nil
    exact .cons ⟨rfl, same _⟩ (.cons ⟨rfl, text⟩ .nil)
  apply lighter_array
  unfold PreparedRun.insertContext
  rw [List.map_append, List.map_append, List.map_cons, List.map_cons]
  have others (messages : List Value) : List.Forall₂
      (Lighter (fun _ => 1) (jsonSpelling numbers)) messages messages :=
    List.forall₂_same.mpr fun value _ => same value
  exact List.rel_append (others _) (.cons message (others _))

/-- A context that costs no more than one that fits does fit. -/
theorem contextFits_of_weight_le {light heavy : List Char}
    (lighter : weight escapedCost light ≤ weight escapedCost heavy)
    (fits : contextFits numbers prepared heavy = true) :
    contextFits numbers prepared light = true := by
  have length (text : List Char) : weight (fun _ => 1) text = text.length := by
    simp [weight]
  have tokens : (messageTokens numbers (prepared.insertContext light)).toNat ≤
      (messageTokens numbers (prepared.insertContext heavy)).toNat := by
    rw [← UInt32.le_iff_toNat_le]
    apply estimateTokens_mono
    have shorter := @lighter_messages numbers prepared light heavy lighter
    unfold Lighter at shorter
    rw [length, length] at shorter
    rw [String.length_ofList, String.length_ofList]
    exact shorter
  unfold contextFits addSpawnEdgeContext at fits ⊢
  dsimp only at fits ⊢
  have most : contextTokenBudget.toNat = 4096 := rfl
  split at fits
  next => cases fits
  next inLane =>
    split at fits
    next inBudget =>
      rw [UInt32.lt_iff_toNat_lt, toNat_saturatingSub] at inLane
      rw [toNat_saturatingSub] at inBudget
      rw [if_neg, if_pos]
      · rfl
      · rw [toNat_saturatingSub]
        omega
      · rw [UInt32.lt_iff_toNat_lt, toNat_saturatingSub]
        omega
    next => cases fits

/-- The spelling of a block in a context. -/
abbrev contextSpelling : Spelling :=
  closerSpelling contextCloser

theorem weight_renderContext_le {lightReturns heavyReturns lightAnswers
      heavyAnswers : List Value}
    (returns : List.Forall₂ (Lighter escapedCost contextSpelling)
      lightReturns heavyReturns)
    (answers : List.Forall₂ (Lighter escapedCost contextSpelling)
      lightAnswers heavyAnswers) :
    weight escapedCost
        (renderContext admission lightReturns lightAnswers none none) ≤
      weight escapedCost
        (renderContext admission heavyReturns heavyAnswers none none) := by
  have body : Lighter escapedCost contextSpelling
      (contextBody admission lightReturns lightAnswers)
      (contextBody admission heavyReturns heavyAnswers) := by
    apply lighter_object
    refine .cons ⟨rfl, lighter_array returns⟩
      (.cons ⟨rfl, lighter_array answers⟩ ?_)
    exact List.forall₂_same.mpr fun _ _ => ⟨rfl, le_rfl⟩
  unfold Lighter at body
  simp only [renderContext, Option.toList_none, List.append_nil,
    neutralize_eq_value, weight_append]
  exact Nat.add_le_add_right (Nat.add_le_add_left body _) _

theorem lighter_payload {short long : List Char} (isPrefix : short <+: long) :
    Lighter escapedCost contextSpelling (.string (String.ofList short))
      (.string (String.ofList long)) := by
  have escaped : short.flatMap escapeChar <+: long.flatMap escapeChar := by
    obtain ⟨rest, rfl⟩ := isPrefix
    rw [List.flatMap_append]
    exact List.prefix_append _ _
  have part := @weight_le_of_sublist escapedCost _ _
    (@Closer.neutralize_sublist_of_prefix contextCloser _ _ escaped)
  unfold Lighter
  simp only [Spelling.value, Spelling.quoted, closerSpelling, weight_append,
    weight_cons, List.cons_append, String.toList_ofList]
  omega

theorem lighter_flag {truncated : Bool} :
    Lighter escapedCost contextSpelling (.bool true) (.bool truncated) := by
  cases truncated with
  | false => exact (by decide : weight escapedCost ['t', 'r', 'u', 'e'] ≤
      weight escapedCost ['f', 'a', 'l', 's', 'e'])
  | true => exact le_rfl

/-- A cut message is lighter than one with more of its payload. -/
theorem lighter_returnContextValue (record : ChildReturnRecord)
    {short long : List Char} (isPrefix : short <+: long) (truncated : Bool) :
    Lighter escapedCost contextSpelling
      (returnContextValue record admission short true)
      (returnContextValue record admission long truncated) := by
  have same (value : Value) :
      Lighter escapedCost contextSpelling value value := le_rfl
  apply lighter_object
  simp only [List.forall₂_cons, List.forall₂_nil_left_iff, and_true, same,
    lighter_flag, lighter_payload isPrefix]

theorem lighter_answerContextValue (record : ParentAnswerRecord)
    {short long : List Char} (isPrefix : short <+: long) (truncated : Bool) :
    Lighter escapedCost contextSpelling
      (answerContextValue record admission short true)
      (answerContextValue record admission long truncated) := by
  have same (value : Value) :
      Lighter escapedCost contextSpelling value value := le_rfl
  apply lighter_object
  simp only [List.forall₂_cons, List.forall₂_nil_left_iff, and_true, same,
    lighter_flag, lighter_payload isPrefix]

theorem renderContext_nextReturn (returns answers : List Value)
    (value : Value) :
    renderContext admission returns answers (some value) none =
      renderContext admission (returns ++ [value]) answers none none := by
  simp [renderContext]

theorem renderContext_nextAnswer (returns answers : List Value)
    (value : Value) :
    renderContext admission returns answers none (some value) =
      renderContext admission returns (answers ++ [value]) none none := by
  simp [renderContext]

theorem contextFits_return (record : ChildReturnRecord)
    {short long : List Char} (isPrefix : short <+: long) {truncated : Bool}
    (fits : contextFits numbers prepared (renderContext admission [] []
      (some (returnContextValue record admission long truncated)) none)) :
    contextFits numbers prepared (renderContext admission [] []
      (some (returnContextValue record admission short true)) none) := by
  apply contextFits_of_weight_le _ fits
  rw [renderContext_nextReturn, renderContext_nextReturn]
  exact weight_renderContext_le
    (.cons (lighter_returnContextValue record isPrefix truncated) .nil) .nil

theorem contextFits_answer (record : ParentAnswerRecord)
    {short long : List Char} (isPrefix : short <+: long) {truncated : Bool}
    (fits : contextFits numbers prepared (renderContext admission [] [] none
      (some (answerContextValue record admission long truncated)))) :
    contextFits numbers prepared (renderContext admission [] [] none
      (some (answerContextValue record admission short true))) := by
  apply contextFits_of_weight_le _ fits
  rw [renderContext_nextAnswer, renderContext_nextAnswer]
  exact weight_renderContext_le .nil
    (.cons (lighter_answerContextValue record isPrefix truncated) .nil)

end Lane

section Search

variable {candidate : List Char → Value × Bool} {payload : List Char}

/-- The value of the longest prefix that fits, or no value where none fits. -/
def IsLongest (candidate : List Char → Value × Bool) (payload : List Char) :
    Option Value → Prop
  | some value => ∃ start, start <+: payload ∧ value = (candidate start).1 ∧
      (candidate start).2 = true ∧ ∀ longer, longer <+: payload →
        (candidate longer).2 = true → longer <+: start
  | none => ∀ start, start <+: payload → (candidate start).2 = false

theorem take_of_isPrefix {start : List Char} (isPrefix : start <+: payload) :
    ∃ count ≤ payload.length, start = payload.take count :=
  ⟨start.length, isPrefix.length_le, List.prefix_iff_eq_take.mp isPrefix⟩

/-- What the search knows of the prefixes below and above its interval. -/
theorem isLongest_searchPayload
    (mono : ∀ shorter longer, shorter <+: longer →
      (candidate longer).2 = true → (candidate shorter).2 = true)
    (low high : Nat) (best : Option Value)
    (bound : high ≤ payload.length)
    (above : ∀ count, high < count → count ≤ payload.length →
      (candidate (payload.take count)).2 = false)
    (below : low = 0 ∧ best = none ∨
      ∃ count, low = count + 1 ∧ count ≤ payload.length ∧
        best = some (candidate (payload.take count)).1 ∧
        (candidate (payload.take count)).2 = true) :
    IsLongest candidate payload
      (searchPayload candidate payload low high best) := by
  have antitone {shorter longer : Nat} (order : shorter ≤ longer)
      (fails : (candidate (payload.take shorter)).2 = false) :
      (candidate (payload.take longer)).2 = false := by
    by_contra fits
    have shorterFits := mono _ _ (List.take_prefix_take_left order)
      (by simpa using fits)
    rw [fails] at shorterFits
    cases shorterFits
  fun_induction searchPayload candidate payload low high best with
  | case1 low high best inside middle result fits ih =>
      have isMiddle : middle = low + (high - low) / 2 := rfl
      apply ih bound above
      exact .inr ⟨middle, rfl, by omega, rfl, fits⟩
  | case2 low high best inside middle result fails isZero =>
      have isMiddle : middle = low + (high - low) / 2 := rfl
      rcases below with ⟨_, rfl⟩ | ⟨count, isLow, _⟩
      · -- Not even the empty payload fits.
        intro start isPrefix
        obtain ⟨count, _, rfl⟩ := take_of_isPrefix isPrefix
        apply antitone (Nat.zero_le count)
        rw [← isZero]
        simpa using fails
      · omega
  | case3 low high best inside middle result fails notZero ih =>
      have isMiddle : middle = low + (high - low) / 2 := rfl
      apply ih (by omega) _ below
      intro count larger _
      exact @antitone middle count (by omega) (by simpa using fails)
  | case4 low high best outside =>
      rcases below with ⟨isZero, _⟩ | ⟨count, isLow, short, rfl, fits⟩
      · omega
      · refine ⟨payload.take count, List.take_prefix _ _, rfl, fits, ?_⟩
        intro longer isPrefix longerFits
        obtain ⟨more, isShort, rfl⟩ := take_of_isPrefix isPrefix
        apply List.take_prefix_take_left
        by_contra larger
        rw [above more (by omega) isShort] at longerFits
        cases longerFits

theorem isLongest_of_truncateContextPayload
    (mono : ∀ shorter longer, shorter <+: longer →
      (candidate longer).2 = true → (candidate shorter).2 = true)
    {value : Value} (found : truncateContextPayload payload candidate =
      .ok value) : IsLongest candidate payload (some value) := by
  have longest := isLongest_searchPayload mono 0 payload.length none le_rfl
    (fun count larger short => absurd short (by omega)) (.inl ⟨rfl, rfl⟩)
  unfold truncateContextPayload at found
  split at found
  next found' =>
    rw [found'] at longest
    cases found
    exact longest
  next => cases found

/-- Nothing is left of a message that does not fit without its payload. -/
theorem truncateContextPayload_of_not_fits
    (mono : ∀ shorter longer, shorter <+: longer →
      (candidate longer).2 = true → (candidate shorter).2 = true)
    (fails : (candidate []).2 = false) :
    truncateContextPayload payload candidate = .error .provenanceOverflow := by
  cases found : truncateContextPayload payload candidate with
  | ok value =>
      obtain ⟨start, _, _, fits, _⟩ :=
        isLongest_of_truncateContextPayload mono found
      rw [mono [] start (List.nil_prefix) fits] at fails
      cases fails
  | error error =>
      unfold truncateContextPayload at found
      split at found
      next => cases found
      next =>
        cases found
        rfl

/-- A message with room for its provenance is cut, not refused. -/
theorem truncateContextPayload_of_fits
    (mono : ∀ shorter longer, shorter <+: longer →
      (candidate longer).2 = true → (candidate shorter).2 = true)
    (fits : (candidate []).2 = true) :
    ∃ value, truncateContextPayload payload candidate = .ok value := by
  have longest := isLongest_searchPayload mono 0 payload.length none le_rfl
    (fun count larger short => absurd short (by omega)) (.inl ⟨rfl, rfl⟩)
  unfold truncateContextPayload
  cases found : searchPayload candidate payload 0 payload.length none with
  | some value => exact ⟨value, rfl⟩
  | none =>
      rw [found] at longest
      have fails := longest [] List.nil_prefix
      rw [fits] at fails
      cases fails

end Search

section Queues

variable {Record : Type} {queue : Queue Record}

/-- The loop takes messages from the front of the queue, each one as it is. -/
theorem Queue.exists_take (queue : Queue Record) {isFirst : Bool}
    (records : List Record) {taken : Taken}
    (started : (taken.values.isEmpty && isFirst) = false)
    (notFull : taken.full = false) :
    ∃ chosen full, chosen <+: records ∧
      queue.take isFirst taken records = .ok
        ⟨taken.values ++ chosen.map queue.whole,
          taken.ids ++ chosen.map queue.messageId, full⟩ ∧
      (full = false → chosen = records) ∧
      ∀ front last, chosen = front ++ [last] →
        queue.fits (taken.values ++ front.map queue.whole)
          (queue.whole last) = true := by
  induction records generalizing taken with
  | nil =>
      refine ⟨[], false, List.nil_prefix, ?_, fun _ => rfl, ?_⟩
      · rw [Queue.take, List.map_nil, List.map_nil, List.append_nil,
          List.append_nil, ← notFull]
      · intro front last isNil
        exact absurd isNil (by simp)
  | cons record rest ih =>
      rw [Queue.take]
      by_cases fits : queue.fits taken.values (queue.whole record) = true
      · rw [if_pos fits]
        obtain ⟨chosen, full, isPrefix, run, whole, last⟩ := @ih
          ⟨taken.values ++ [queue.whole record],
            taken.ids ++ [queue.messageId record], taken.full⟩
          (by simp) notFull
        refine ⟨record :: chosen, full, List.cons_prefix_cons.mpr
          ⟨rfl, isPrefix⟩, ?_, fun notFull => by rw [whole notFull], ?_⟩
        · rw [run]
          simp
        · intro front final isChosen
          cases front with
          | nil =>
              obtain ⟨rfl, rfl⟩ := List.cons.inj isChosen
              simpa using fits
          | cons first others =>
              obtain ⟨rfl, isRest⟩ := List.cons.inj isChosen
              have fitsLast := last others final isRest
              simpa using fitsLast
      · rw [if_neg fits, started, if_neg Bool.false_ne_true]
        refine ⟨[], true, List.nil_prefix, ?_, Bool.noConfusion, ?_⟩
        · simp
        · intro front last isNil
          exact absurd isNil (by simp)

/-- A first message that does not fit is cut. -/
theorem Queue.take_of_not_fits (queue : Queue Record) {record : Record}
    (tooLong : queue.fits [] (queue.whole record) = false)
    (rest : List Record) :
    queue.take true ⟨[], [], false⟩ (record :: rest) =
      (queue.truncated record).map fun value =>
        ⟨[value], [queue.messageId record], true⟩ := by
  rw [Queue.take, if_neg (by simp [tooLong])]
  rfl

/-- The first queue of a selection, if it has a message: that fits as it is, or
it is cut. -/
theorem Queue.take_first (queue : Queue Record) (record : Record)
    (rest : List Record) :
    (∃ chosen full, record :: chosen <+: record :: rest ∧
      queue.take true ⟨[], [], false⟩ (record :: rest) = .ok
        ⟨(record :: chosen).map queue.whole,
          (record :: chosen).map queue.messageId, full⟩ ∧
      (full = false → chosen = rest) ∧
      ∀ front last, record :: chosen = front ++ [last] →
        queue.fits (front.map queue.whole) (queue.whole last) = true) ∨
    queue.take true ⟨[], [], false⟩ (record :: rest) =
      (queue.truncated record).map fun value =>
        ⟨[value], [queue.messageId record], true⟩ := by
  by_cases fits : queue.fits [] (queue.whole record) = true
  · left
    obtain ⟨chosen, full, isPrefix, run, whole, last⟩ := @queue.exists_take _
      true rest ⟨[queue.whole record], [queue.messageId record], false⟩ rfl rfl
    refine ⟨chosen, full, List.cons_prefix_cons.mpr ⟨rfl, isPrefix⟩, ?_, whole,
      ?_⟩
    · rw [Queue.take, if_pos fits]
      exact run
    · intro front final isChosen
      cases front with
      | nil =>
          obtain ⟨rfl, rfl⟩ := List.cons.inj isChosen
          exact fits
      | cons first others =>
          obtain ⟨rfl, isRest⟩ := List.cons.inj isChosen
          exact last others final isRest
  · exact .inr (queue.take_of_not_fits (by simpa using fits) rest)

end Queues

/-- A selected message with what is left of its payload. -/
structure Chosen (Record : Type) where
  record : Record
  payload : List Char
  truncated : Bool

/-- A message as it is. -/
def Chosen.whole {Record : Type} (payload : Record → String)
    (record : Record) : Chosen Record :=
  ⟨record, (payload record).toList, false⟩

/-- The message has the longest part of its payload that fits. -/
structure Chosen.IsCut {Record : Type} (payload : Record → String)
    (fits : Record → List Char → Bool) (chosen : Chosen Record) : Prop where
  flag : chosen.truncated = true
  part : chosen.payload <+: (payload chosen.record).toList
  isFit : fits chosen.record chosen.payload = true
  longest : ∀ longer, longer <+: (payload chosen.record).toList →
    fits chosen.record longer = true → longer <+: chosen.payload

section Selects

variable (numbers : Number → List Char) (prepared : PreparedRun)
  (admission : ThreadRunAdmission)

/-- A cut message fits the lane alone. -/
def returnFits (record : ChildReturnRecord) (payload : List Char) : Bool :=
  contextFits numbers prepared (renderContext admission [] []
    (some (returnContextValue record admission payload true)) none)

def answerFits (record : ParentAnswerRecord) (payload : List Char) : Bool :=
  contextFits numbers prepared (renderContext admission [] [] none
    (some (answerContextValue record admission payload true)))

/-- The selections from two queues: messages from the front of the first and,
behind all of it, of the second, or the first message of all, cut. -/
inductive Selection (returns : List ChildReturnRecord)
    (answers : List ParentAnswerRecord) :
    List (Chosen ChildReturnRecord) → List (Chosen ParentAnswerRecord) →
      Prop where
  | whole {ofReturns : List ChildReturnRecord}
      {ofAnswers : List ParentAnswerRecord}
      (returnsPrefix : ofReturns <+: returns)
      (answersPrefix : ofAnswers <+: answers)
      (order : ofAnswers ≠ [] → ofReturns = returns) :
      Selection returns answers
        (ofReturns.map (.whole fun record => record.payload))
        (ofAnswers.map (.whole fun record => record.payload))
  | cutReturn {chosen : Chosen ChildReturnRecord}
      (isFirst : returns.head? = some chosen.record)
      (isCut : chosen.IsCut (fun record => record.payload)
        (returnFits numbers prepared admission)) :
      Selection returns answers [chosen] []
  | cutAnswer {chosen : Chosen ParentAnswerRecord} (noReturn : returns = [])
      (isFirst : answers.head? = some chosen.record)
      (isCut : chosen.IsCut (fun record => record.payload)
        (answerFits numbers prepared admission)) :
      Selection returns answers [] [chosen]

def chosenReturnValue (chosen : Chosen ChildReturnRecord) : Value :=
  returnContextValue chosen.record admission chosen.payload chosen.truncated

def chosenAnswerValue (chosen : Chosen ParentAnswerRecord) : Value :=
  answerContextValue chosen.record admission chosen.payload chosen.truncated

/-- The context that is made from a selection. -/
structure Selects (returns : List ChildReturnRecord)
    (answers : List ParentAnswerRecord) (selected : SelectedContext)
    (ofReturns : List (Chosen ChildReturnRecord))
    (ofAnswers : List (Chosen ParentAnswerRecord)) : Prop where
  selection : Selection numbers prepared admission returns answers ofReturns
    ofAnswers
  returnIds : selected.childReturnIds =
    ofReturns.map fun chosen => chosen.record.messageId
  answerIds : selected.parentAnswerIds =
    ofAnswers.map fun chosen => chosen.record.messageId
  rendered : selected.rendered =
    if ofReturns.isEmpty && ofAnswers.isEmpty then none
    else some (renderContext admission
      (ofReturns.map (chosenReturnValue admission))
      (ofAnswers.map (chosenAnswerValue admission)) none none)
  added : ∀ text ∈ selected.rendered,
    ∃ run, addSpawnEdgeContext numbers prepared text = .ok run
  nonempty : ofReturns = [] → ofAnswers = [] → returns = [] ∧ answers = []

/-- The first message of all has room for its provenance. -/
def firstFits : List ChildReturnRecord → List ParentAnswerRecord → Bool
  | record :: _, _ => returnFits numbers prepared admission record []
  | [], record :: _ => answerFits numbers prepared admission record []
  | [], [] => true

end Selects

section Selected

variable {numbers : Number → List Char} {prepared : PreparedRun}
  {admission : ThreadRunAdmission}

theorem exists_of_contextFits {rendered : List Char}
    (fits : contextFits numbers prepared rendered = true) :
    ∃ run, addSpawnEdgeContext numbers prepared rendered = .ok run := by
  unfold contextFits at fits
  cases result : addSpawnEdgeContext numbers prepared rendered with
  | ok run => exact ⟨run, rfl⟩
  | error error =>
      rw [result] at fits
      cases fits

theorem isCut_of_truncatedReturnValue {record : ChildReturnRecord}
    {value : Value} (cut : truncatedReturnValue numbers prepared admission
      record = .ok value) :
    ∃ chosen : Chosen ChildReturnRecord, chosen.record = record ∧
      chosen.IsCut (fun record => record.payload)
        (returnFits numbers prepared admission) ∧
      value = chosenReturnValue admission chosen := by
  obtain ⟨start, isPrefix, isValue, fits, longest⟩ :=
    isLongest_of_truncateContextPayload (fun _ _ isPrefix fits =>
      contextFits_return record isPrefix fits) cut
  exact ⟨⟨record, start, true⟩, rfl, ⟨rfl, isPrefix, fits, longest⟩, isValue⟩

theorem isCut_of_truncatedAnswerValue {record : ParentAnswerRecord}
    {value : Value} (cut : truncatedAnswerValue numbers prepared admission
      record = .ok value) :
    ∃ chosen : Chosen ParentAnswerRecord, chosen.record = record ∧
      chosen.IsCut (fun record => record.payload)
        (answerFits numbers prepared admission) ∧
      value = chosenAnswerValue admission chosen := by
  obtain ⟨start, isPrefix, isValue, fits, longest⟩ :=
    isLongest_of_truncateContextPayload (fun _ _ isPrefix fits =>
      contextFits_answer record isPrefix fits) cut
  exact ⟨⟨record, start, true⟩, rfl, ⟨rfl, isPrefix, fits, longest⟩, isValue⟩

/-- Messages that are taken one by one fit together. -/
theorem contextFits_of_last {Record : Type} {chosen : List Record}
    {render : List Record → List Char} (nonempty : chosen ≠ [])
    (last : ∀ front final, chosen = front ++ [final] →
      contextFits numbers prepared (render (front ++ [final])) = true) :
    contextFits numbers prepared (render chosen) = true := by
  rcases List.eq_nil_or_concat chosen with isNil | ⟨front, final, isChosen⟩
  · exact absurd isNil nonempty
  · rw [List.concat_eq_append] at isChosen
    rw [isChosen]
    exact last front final isChosen

theorem ok_bind {First Second : Type} (first : First)
    (continuation : First → Except ContextError Second) :
    (Except.ok first >>= continuation) = continuation first :=
  rfl

theorem selects_nil : Selects numbers prepared admission [] []
    ⟨[], [], none⟩ [] [] where
  selection := .whole List.nil_prefix List.nil_prefix fun more =>
    absurd rfl more
  returnIds := rfl
  answerIds := rfl
  rendered := rfl
  added := by
    intro text isText
    cases isText
  nonempty := fun _ _ => ⟨rfl, rfl⟩

/-- Whole messages from the front of both queues. -/
theorem selects_whole {returns ofReturns : List ChildReturnRecord}
    {answers ofAnswers : List ParentAnswerRecord} {rendered : List Char}
    (returnsPrefix : ofReturns <+: returns)
    (answersPrefix : ofAnswers <+: answers)
    (order : ofAnswers ≠ [] → ofReturns = returns)
    (nonempty : (ofReturns.isEmpty && ofAnswers.isEmpty) = false)
    (isRendered : rendered = renderContext admission
      (ofReturns.map (returnQueue numbers prepared admission).whole)
      (ofAnswers.map (answerQueue numbers prepared admission
        (ofReturns.map (returnQueue numbers prepared admission).whole)).whole)
      none none)
    (fits : contextFits numbers prepared rendered = true) :
    Selects numbers prepared admission returns answers
      ⟨ofReturns.map fun record => record.messageId,
        ofAnswers.map fun record => record.messageId, some rendered⟩
      (ofReturns.map (.whole fun record => record.payload))
      (ofAnswers.map (.whole fun record => record.payload)) where
  selection := .whole returnsPrefix answersPrefix order
  returnIds := by
    rw [List.map_map]
    rfl
  answerIds := by
    rw [List.map_map]
    rfl
  rendered := by
    rw [List.isEmpty_map, List.isEmpty_map, nonempty, List.map_map,
      List.map_map, if_neg Bool.false_ne_true, isRendered]
    rfl
  added := by
    intro text isText
    obtain rfl : rendered = text := Option.some.inj isText
    exact exists_of_contextFits fits
  nonempty := by
    intro noReturn noAnswer
    rw [List.map_eq_nil_iff.mp noReturn, List.map_eq_nil_iff.mp noAnswer]
      at nonempty
    cases nonempty

theorem selects_cutReturn {record : ChildReturnRecord}
    {rest : List ChildReturnRecord} {answers : List ParentAnswerRecord}
    {value : Value} (cut : truncatedReturnValue numbers prepared admission
      record = .ok value) :
    ∃ ofReturns ofAnswers, Selects numbers prepared admission (record :: rest)
      answers ⟨[record.messageId], [],
        some (renderContext admission [value] [] none none)⟩
      ofReturns ofAnswers := by
  obtain ⟨chosen, rfl, isCut, rfl⟩ := isCut_of_truncatedReturnValue cut
  have fits := isCut.isFit
  unfold returnFits at fits
  rw [renderContext_nextReturn] at fits
  have isValue : chosenReturnValue admission chosen =
      returnContextValue chosen.record admission chosen.payload true := by
    rw [chosenReturnValue, isCut.flag]
  refine ⟨[chosen], [], .cutReturn rfl isCut, rfl, rfl, rfl, ?_, ?_⟩
  · intro text isText
    obtain rfl := Option.some.inj isText
    apply exists_of_contextFits
    rw [isValue]
    exact fits
  · intro noReturn
    cases noReturn

theorem selects_cutAnswer {record : ParentAnswerRecord}
    {rest : List ParentAnswerRecord} {value : Value}
    (cut : truncatedAnswerValue numbers prepared admission record =
      .ok value) :
    ∃ ofReturns ofAnswers, Selects numbers prepared admission []
      (record :: rest) ⟨[], [record.messageId],
        some (renderContext admission [] [value] none none)⟩
      ofReturns ofAnswers := by
  obtain ⟨chosen, rfl, isCut, rfl⟩ := isCut_of_truncatedAnswerValue cut
  have fits := isCut.isFit
  unfold answerFits at fits
  rw [renderContext_nextAnswer] at fits
  have isValue : chosenAnswerValue admission chosen =
      answerContextValue chosen.record admission chosen.payload true := by
    rw [chosenAnswerValue, isCut.flag]
  refine ⟨[], [chosen], .cutAnswer rfl rfl isCut, rfl, rfl, rfl, ?_, ?_⟩
  · intro text isText
    obtain rfl := Option.some.inj isText
    apply exists_of_contextFits
    rw [isValue]
    exact fits
  · intro _ noAnswer
    cases noAnswer

/-- The answers behind all returns. -/
theorem selects_answers {returns ofReturns : List ChildReturnRecord}
    {answers ofAnswers : List ParentAnswerRecord}
    (returnsPrefix : ofReturns <+: returns)
    (answersPrefix : ofAnswers <+: answers)
    (order : ofAnswers ≠ [] → ofReturns = returns)
    (nonempty : (ofReturns.isEmpty && ofAnswers.isEmpty) = false)
    (lastReturn : ofAnswers = [] → ∀ front last, ofReturns = front ++ [last] →
      (returnQueue numbers prepared admission).fits
        (front.map (returnQueue numbers prepared admission).whole)
        ((returnQueue numbers prepared admission).whole last) = true)
    (lastAnswer : ∀ front last, ofAnswers = front ++ [last] →
      (answerQueue numbers prepared admission
        (ofReturns.map (returnQueue numbers prepared admission).whole)).fits
        (front.map (answerQueue numbers prepared admission
          (ofReturns.map (returnQueue numbers prepared admission).whole)).whole)
        ((answerQueue numbers prepared admission
          (ofReturns.map (returnQueue numbers prepared
            admission).whole)).whole last) = true) :
    Selects numbers prepared admission returns answers
      ⟨ofReturns.map fun record => record.messageId,
        ofAnswers.map fun record => record.messageId,
        some (renderContext admission
          (ofReturns.map (returnQueue numbers prepared admission).whole)
          (ofAnswers.map (answerQueue numbers prepared admission
            (ofReturns.map (returnQueue numbers prepared
              admission).whole)).whole) none none)⟩
      (ofReturns.map (.whole fun record => record.payload))
      (ofAnswers.map (.whole fun record => record.payload)) := by
  apply selects_whole returnsPrefix answersPrefix order nonempty rfl
  by_cases noAnswer : ofAnswers = []
  · subst noAnswer
    have someReturn : ofReturns ≠ [] := by
      rintro rfl
      cases nonempty
    apply @contextFits_of_last _ _ _ ofReturns (fun chosen =>
      renderContext admission
        (chosen.map (returnQueue numbers prepared admission).whole) [] none
        none) someReturn
    intro front last isChosen
    have fits := lastReturn rfl front last isChosen
    rw [List.map_append]
    exact (renderContext_nextReturn _ _ _) ▸ fits
  · apply @contextFits_of_last _ _ _ ofAnswers (fun chosen =>
      renderContext admission
        (ofReturns.map (returnQueue numbers prepared admission).whole)
        (chosen.map (answerQueue numbers prepared admission
          (ofReturns.map (returnQueue numbers prepared admission).whole)).whole)
        none none) noAnswer
    intro front last isChosen
    have fits := lastAnswer front last isChosen
    rw [List.map_append]
    exact (renderContext_nextAnswer _ _ _) ▸ fits

/-- Every selection is made of messages from the front of the queues. -/
theorem exists_selects {returns : List ChildReturnRecord}
    {answers : List ParentAnswerRecord} {selected : SelectedContext}
    (run : selectContext numbers prepared admission returns answers =
      .ok selected) :
    ∃ ofReturns ofAnswers, Selects numbers prepared admission returns answers
      selected ofReturns ofAnswers := by
  unfold selectContext at run
  cases returns with
  | nil =>
      rw [Queue.take, ok_bind] at run
      cases answers with
      | nil =>
          cases run
          exact ⟨[], [], selects_nil⟩
      | cons record rest =>
          rcases (answerQueue numbers prepared admission []).take_first record
            rest with ⟨chosen, full, isPrefix, ran, _, last⟩ | ran
          · rw [if_neg Bool.false_ne_true, List.isEmpty_nil, ran] at run
            cases run
            exact ⟨_, _, @selects_answers numbers prepared admission [] []
              (record :: rest) (record :: chosen) List.nil_prefix isPrefix
              (fun _ => rfl) rfl (fun none => by cases none) last⟩
          · rw [if_neg Bool.false_ne_true, List.isEmpty_nil, ran] at run
            cases cut : (answerQueue numbers prepared admission []).truncated
                record with
            | error error =>
                rw [cut] at run
                cases run
            | ok value =>
                rw [cut] at run
                cases run
                exact selects_cutAnswer cut
  | cons record rest =>
      rcases (returnQueue numbers prepared admission).take_first record rest
        with ⟨chosen, full, isPrefix, ran, whole, last⟩ | ran
      · rw [ran, ok_bind] at run
        cases full with
        | true =>
            cases run
            exact ⟨_, _, @selects_answers numbers prepared admission
              (record :: rest) (record :: chosen) answers [] isPrefix
              List.nil_prefix (fun more => absurd rfl more) rfl
              (fun _ => last) (fun front last isNil => by simp at isNil)⟩
        | false =>
            obtain rfl := whole rfl
            obtain ⟨more, full, morePrefix, ranMore, _, lastMore⟩ :=
              @Queue.exists_take _ (answerQueue numbers prepared admission
                ((record :: chosen).map
                  (returnQueue numbers prepared admission).whole)) false
                answers ⟨[], [], false⟩ rfl rfl
            rw [if_neg Bool.false_ne_true, List.map_cons, List.isEmpty_cons,
              ← List.map_cons, ranMore] at run
            cases run
            exact ⟨_, _, selects_answers isPrefix morePrefix (fun _ => rfl) rfl
              (fun _ => last) lastMore⟩
      · rw [ran] at run
        cases cut : (returnQueue numbers prepared admission).truncated
            record with
        | error error =>
            rw [cut] at run
            cases run
        | ok value =>
            rw [cut] at run
            cases run
            exact selects_cutReturn cut

/-- Nothing is selected when the first message has no room. -/
theorem selectContext_of_not_firstFits {returns : List ChildReturnRecord}
    {answers : List ParentAnswerRecord}
    (noRoom : firstFits numbers prepared admission returns answers = false) :
    selectContext numbers prepared admission returns answers =
      .error .provenanceOverflow := by
  unfold selectContext
  cases returns with
  | nil =>
      cases answers with
      | nil => cases noRoom
      | cons record rest =>
          have cut : (answerQueue numbers prepared admission []).truncated
              record = .error .provenanceOverflow :=
            truncateContextPayload_of_not_fits (fun _ _ isPrefix fits =>
              contextFits_answer record isPrefix fits) noRoom
          have tooLong : (answerQueue numbers prepared admission []).fits []
              ((answerQueue numbers prepared admission []).whole record) =
                false := by
            by_contra fits
            have room := contextFits_answer record List.nil_prefix
              (Bool.eq_true_of_not_eq_false fits)
            exact absurd (noRoom.symm.trans room) (by decide)
          rw [Queue.take, ok_bind, if_neg Bool.false_ne_true, List.isEmpty_nil,
            Queue.take_of_not_fits _ tooLong, cut]
          rfl
  | cons record rest =>
      have cut : (returnQueue numbers prepared admission).truncated record =
          .error .provenanceOverflow :=
        truncateContextPayload_of_not_fits (fun _ _ isPrefix fits =>
          contextFits_return record isPrefix fits) noRoom
      have tooLong : (returnQueue numbers prepared admission).fits []
          ((returnQueue numbers prepared admission).whole record) = false := by
        by_contra fits
        have room := contextFits_return record List.nil_prefix
          (Bool.eq_true_of_not_eq_false fits)
        exact absurd (noRoom.symm.trans room) (by decide)
      rw [Queue.take_of_not_fits _ tooLong, cut]
      rfl

/-- Something is selected when the first message has room. -/
theorem selectContext_of_firstFits {returns : List ChildReturnRecord}
    {answers : List ParentAnswerRecord}
    (room : firstFits numbers prepared admission returns answers = true) :
    ∃ selected, selectContext numbers prepared admission returns answers =
      .ok selected := by
  unfold selectContext
  cases returns with
  | nil =>
      rw [Queue.take, ok_bind, if_neg Bool.false_ne_true, List.isEmpty_nil]
      cases answers with
      | nil => exact ⟨_, rfl⟩
      | cons record rest =>
          rcases (answerQueue numbers prepared admission []).take_first record
            rest with ⟨chosen, full, _, ran, _⟩ | ran
          · rw [ran]
            exact ⟨_, rfl⟩
          · obtain ⟨value, cut⟩ : ∃ value,
                (answerQueue numbers prepared admission []).truncated record =
                  .ok value :=
              truncateContextPayload_of_fits (fun _ _ isPrefix fits =>
                contextFits_answer record isPrefix fits) room
            rw [ran, cut]
            exact ⟨_, rfl⟩
  | cons record rest =>
      rcases (returnQueue numbers prepared admission).take_first record rest
        with ⟨chosen, full, _, ran, _⟩ | ran
      · rw [ran, ok_bind]
        cases full with
        | true => exact ⟨_, rfl⟩
        | false =>
            obtain ⟨more, full, _, ranMore, _⟩ :=
              @Queue.exists_take _ (answerQueue numbers prepared admission
                ((record :: chosen).map
                  (returnQueue numbers prepared admission).whole)) false
                answers ⟨[], [], false⟩ rfl rfl
            rw [if_neg Bool.false_ne_true, List.map_cons, List.isEmpty_cons,
              ← List.map_cons, ranMore]
            exact ⟨_, rfl⟩
      · obtain ⟨value, cut⟩ : ∃ value,
            (returnQueue numbers prepared admission).truncated record =
              .ok value :=
          truncateContextPayload_of_fits (fun _ _ isPrefix fits =>
            contextFits_return record isPrefix fits) room
        rw [ran, cut]
        exact ⟨_, rfl⟩

/-- The body of the block is the JSON of the selected messages, in order. -/
theorem Selects.reads {returns : List ChildReturnRecord}
    {answers : List ParentAnswerRecord} {selected : SelectedContext}
    {ofReturns : List (Chosen ChildReturnRecord)}
    {ofAnswers : List (Chosen ParentAnswerRecord)}
    (selects : Selects numbers prepared admission returns answers selected
      ofReturns ofAnswers) {text : List Char} (isText : text ∈ selected.rendered) :
    ∃ body, text = contextOpen ++ body ++ contextClose ∧
      fromText (String.ofList body) = some (contextBody admission
        (ofReturns.map (chosenReturnValue admission))
        (ofAnswers.map (chosenAnswerValue admission))) := by
  rw [selects.rendered] at isText
  split at isText
  · cases isText
  · obtain rfl := Option.some.inj isText
    obtain ⟨body, isBlock, _, reads⟩ := renderContext_confined admission
      (ofReturns.map (chosenReturnValue admission))
      (ofAnswers.map (chosenAnswerValue admission)) none none
    exact ⟨body, isBlock, by simpa using reads⟩

end Selected

/-- What is selected fits the lane: messages from the front of the queues, and
the first of them cut as little as possible where it does not fit alone.  The
block reads as these messages, in order. -/
theorem selectContext_spec (numbers : Number → List Char)
    (prepared : PreparedRun) (admission : ThreadRunAdmission)
    (returns : List ChildReturnRecord) (answers : List ParentAnswerRecord) :
    (∀ selected, selectContext numbers prepared admission returns answers =
        .ok selected →
      ∃ ofReturns ofAnswers, Selects numbers prepared admission returns answers
          selected ofReturns ofAnswers ∧
        ∀ text ∈ selected.rendered,
          ∃ body, text = contextOpen ++ body ++ contextClose ∧
            fromText (String.ofList body) = some (contextBody admission
              (ofReturns.map (chosenReturnValue admission))
              (ofAnswers.map (chosenAnswerValue admission)))) ∧
    (firstFits numbers prepared admission returns answers = true →
      ∃ selected, selectContext numbers prepared admission returns answers =
        .ok selected) ∧
    (firstFits numbers prepared admission returns answers = false →
      ∃ error, selectContext numbers prepared admission returns answers =
        .error error) := by
  refine ⟨fun selected run => ?_, selectContext_of_firstFits,
    fun noRoom => ⟨_, selectContext_of_not_firstFits noRoom⟩⟩
  obtain ⟨ofReturns, ofAnswers, selects⟩ := exists_selects run
  exact ⟨ofReturns, ofAnswers, selects, fun _ => selects.reads⟩

def sampleAdmission : ThreadRunAdmission :=
  ⟨"run_2", "workspace", ⟨"default", by decide⟩, "parent", "turn_2", 1, 0⟩

def sampleReturn : ChildReturnRecord where
  messageId := "return_1"
  sequence := 1
  spawnId := "spawn_1"
  profileId := ⟨"default", by decide⟩
  parentThreadId := "parent"
  childThreadId := "child"
  sourceRunId := some "run_1"
  sourceTurnId := some "turn_1"
  kind := .result
  payload := "done"
  artifactRefs := []
  truncated := false
  createdAtMs := 0
  profileRevision := 1
  delivery := .inserted

def sampleAnswer (payload : List Char) : ParentAnswerRecord where
  messageId := "answer_1"
  sequence := 1
  spawnId := "spawn_2"
  profileId := ⟨"default", by decide⟩
  parentThreadId := "root"
  childThreadId := "parent"
  sourceRunId := "run_0"
  sourceTurnId := "turn_0"
  kind := .answer
  payload := String.ofList payload
  createdAtMs := 0
  profileRevision := 1
  delivery := .inserted

/-- A run with one message and room for so many tokens more. -/
def samplePrepared (free : Nat) : PreparedRun :=
  ⟨[.userText "Hello"], .ofNat (4294967295 - free)⟩

/-- What the messages of the sample cost with a text in front of them. -/
theorem length_samplePrepared (free : Nat) (rendered : List Char) :
    ((jsonSpelling numberText).value (.array (((samplePrepared
      free).insertContext rendered).map ModelMessage.toJson))).length =
        119 + weight escapedCost rendered := by
  have escaped : (rendered.flatMap escapeChar).length =
      weight escapedCost rendered := by
    rw [List.length_flatMap]
    rfl
  simp [samplePrepared, PreparedRun.insertContext, ModelMessage.toJson,
    ModelMessage.assistantBlocks, ModelMessage.userText, ModelBlock.toJson,
    ModelRole.toJson, Spelling.value, Spelling.items, Spelling.entry,
    Spelling.entries, Spelling.quoted, jsonSpelling, escaped, escapeChar]
  omega

/-- A text fits the sample while its cost is at most four for each token. -/
theorem contextFits_samplePrepared {free cost : Nat} {rendered : List Char}
    (isCost : weight escapedCost rendered = cost) (small : free ≤ 4096)
    (short : cost < 100000) :
    contextFits numberText (samplePrepared free) rendered = true ↔
      (119 + cost) / 4 ≤ free + 15 := by
  have before : (messageTokens numberText (samplePrepared free).messages).toNat =
      16 := by
    rw [messageTokens, toNat_estimateTokens, String.length_ofList]
    simp [samplePrepared, ModelMessage.toJson, ModelMessage.userText,
      ModelBlock.toJson, ModelRole.toJson, Spelling.value, Spelling.items,
      Spelling.entry, Spelling.entries, Spelling.quoted, jsonSpelling, escapeChar]
  have after : (messageTokens numberText
      ((samplePrepared free).insertContext rendered)).toNat =
        (119 + cost) / 4 + 1 := by
    rw [messageTokens, toNat_estimateTokens, String.length_ofList,
      length_samplePrepared, isCost]
    omega
  have added : (saturatingSub (messageTokens numberText
      ((samplePrepared free).insertContext rendered))
      (messageTokens numberText (samplePrepared free).messages)).toNat =
        (119 + cost) / 4 + 1 - 16 := by
    rw [toNat_saturatingSub, before, after]
  have budget : (samplePrepared free).tokenBudget.toNat = 4294967295 - free := by
    rw [samplePrepared, UInt32.toNat_ofNat_of_lt' (show 4294967295 - free < 2 ^ 32
      by omega)]
  have lane : contextTokenBudget.toNat = 4096 := rfl
  unfold contextFits addSpawnEdgeContext
  dsimp only
  split
  next large =>
    rw [UInt32.lt_iff_toNat_lt, added, lane] at large
    exact ⟨fun fits => (by cases fits), fun fits => by omega⟩
  next inLane =>
    rw [added, budget]
    split
    next inBudget => exact ⟨fun _ => (by omega), fun _ => rfl⟩
    next => exact ⟨fun fits => (by cases fits), fun fits => by omega⟩

theorem selectContext_sample :
    selectContext numberText (samplePrepared 300) sampleAdmission [sampleReturn]
        [sampleAnswer ['g', 'o']] = .ok ⟨["return_1"], ["answer_1"],
      some (renderContext sampleAdmission
        [returnContextValue sampleReturn sampleAdmission
          sampleReturn.payload.toList false]
        [answerContextValue (sampleAnswer ['g', 'o']) sampleAdmission
          (sampleAnswer ['g', 'o']).payload.toList false] none none)⟩ := by
  have ofReturn : (returnQueue numberText (samplePrepared 300)
      sampleAdmission).fits [] ((returnQueue numberText (samplePrepared 300)
        sampleAdmission).whole sampleReturn) = true := by
    have cost : weight escapedCost (renderContext sampleAdmission [] []
        (some (returnContextValue sampleReturn sampleAdmission
          sampleReturn.payload.toList false)) none) = 713 := by
      decide +kernel
    dsimp only [returnQueue]
    rw [contextFits_samplePrepared cost (by decide) (by decide)]
    decide
  have ofAnswer : (answerQueue numberText (samplePrepared 300) sampleAdmission
      [returnContextValue sampleReturn sampleAdmission
        sampleReturn.payload.toList false]).fits []
      ((answerQueue numberText (samplePrepared 300) sampleAdmission
        [returnContextValue sampleReturn sampleAdmission
          sampleReturn.payload.toList false]).whole
        (sampleAnswer ['g', 'o'])) = true := by
    have cost : weight escapedCost (renderContext sampleAdmission
        [returnContextValue sampleReturn sampleAdmission
          sampleReturn.payload.toList false] [] none
        (some (answerContextValue (sampleAnswer ['g', 'o']) sampleAdmission
          (sampleAnswer ['g', 'o']).payload.toList false))) = 1129 := by
      decide +kernel
    dsimp only [answerQueue]
    rw [contextFits_samplePrepared cost (by decide) (by decide)]
    decide
  unfold selectContext
  rw [Queue.take, if_pos ofReturn, Queue.take, ok_bind, if_neg Bool.false_ne_true]
  dsimp only [List.nil_append]
  change Queue.take (answerQueue numberText (samplePrepared 300) sampleAdmission
      [returnContextValue sampleReturn sampleAdmission
        sampleReturn.payload.toList false]) _ _ _ >>= _ = _
  rw [Queue.take, if_pos ofAnswer, Queue.take, ok_bind]
  rfl

def longAnswer : ParentAnswerRecord :=
  sampleAnswer (List.replicate 100 'a')

theorem answerFits_longAnswer :
    answerFits numberText (samplePrepared 200) sampleAdmission longAnswer
        (List.replicate 78 'a') = true ∧
      answerFits numberText (samplePrepared 200) sampleAdmission longAnswer
        (List.replicate 79 'a') = false := by
  constructor
  · have cost : weight escapedCost (renderContext sampleAdmission [] [] none
        (some (answerContextValue longAnswer sampleAdmission
          (List.replicate 78 'a') true))) = 744 := by
      decide +kernel
    exact (contextFits_samplePrepared cost (by decide) (by decide)).mpr
      (by decide)
  · have cost : weight escapedCost (renderContext sampleAdmission [] [] none
        (some (answerContextValue longAnswer sampleAdmission
          (List.replicate 79 'a') true))) = 745 := by
      decide +kernel
    rw [← Bool.not_eq_true]
    exact (contextFits_samplePrepared cost (by decide) (by decide)).not.mpr
      (by decide)

/-- The long answer is not selected as it is. -/
theorem not_contextFits_longAnswer :
    contextFits numberText (samplePrepared 200) (renderContext sampleAdmission []
      [chosenAnswerValue sampleAdmission
        (.whole (fun record => record.payload) longAnswer)] none none) = false := by
  have cost : weight escapedCost (renderContext sampleAdmission []
      [chosenAnswerValue sampleAdmission
        (.whole (fun record => record.payload) longAnswer)] none none) =
        767 := by
    decide +kernel
  rw [← Bool.not_eq_true]
  exact (contextFits_samplePrepared cost (by decide) (by decide)).not.mpr
    (by decide)

theorem payload_of_isCut_longAnswer {chosen : Chosen ParentAnswerRecord}
    (isRecord : chosen.record = longAnswer)
    (isCut : chosen.IsCut (fun record => record.payload)
      (answerFits numberText (samplePrepared 200) sampleAdmission)) :
    chosen.payload = List.replicate 78 'a' := by
  obtain ⟨-, part, isFit, longest⟩ := isCut
  rw [isRecord] at part isFit longest
  have whole : longAnswer.payload.toList = List.replicate 100 'a' :=
    String.toList_ofList
  rw [whole] at part longest
  have prefixes {count : Nat} (few : count ≤ 100) :
      List.replicate count 'a' <+: List.replicate 100 'a' :=
    ⟨List.replicate (100 - count) 'a', by
      rw [List.replicate_append_replicate, Nat.add_sub_cancel' few]⟩
  have longer := longest _ (prefixes (by decide)) answerFits_longAnswer.1
  have isPayload := List.eq_replicate_of_mem (fun character member =>
    List.eq_of_mem_replicate (part.subset member))
  by_contra differs
  have size : 79 ≤ chosen.payload.length := by
    have atLeast := longer.length_le
    rw [List.length_replicate] at atLeast
    by_contra few
    have exactly : chosen.payload.length = 78 := by omega
    rw [exactly] at isPayload
    exact differs isPayload
  have more : List.replicate 79 'a' <+: chosen.payload := by
    rw [isPayload]
    exact ⟨List.replicate (chosen.payload.length - 79) 'a', by
      rw [List.replicate_append_replicate, Nat.add_sub_cancel' size]⟩
  have fits := contextFits_answer longAnswer more isFit
  exact absurd (answerFits_longAnswer.2.symm.trans fits) (by decide)

/-- A result and an answer are selected as they are, and of a long answer a part:
the block reads as what was selected. -/
theorem selectContext_spec_sample :
    (∃ ofReturns ofAnswers selected, selectContext numberText (samplePrepared 300)
        sampleAdmission [sampleReturn] [sampleAnswer ['g', 'o']] = .ok selected ∧
      Selects numberText (samplePrepared 300) sampleAdmission [sampleReturn]
        [sampleAnswer ['g', 'o']] selected ofReturns ofAnswers ∧
      selected.childReturnIds = ["return_1"] ∧
      selected.parentAnswerIds = ["answer_1"] ∧
      ∃ text ∈ selected.rendered, ∃ body,
        text = contextOpen ++ body ++ contextClose ∧
        fromText (String.ofList body) = some (contextBody sampleAdmission
          (ofReturns.map (chosenReturnValue sampleAdmission))
          (ofAnswers.map (chosenAnswerValue sampleAdmission)))) ∧
    ∃ selected, selectContext numberText (samplePrepared 200) sampleAdmission []
        [longAnswer] = .ok selected ∧
      selected.parentAnswerIds = ["answer_1"] ∧
      ∃ text ∈ selected.rendered, ∃ body,
        text = contextOpen ++ body ++ contextClose ∧
        fromText (String.ofList body) = some (contextBody sampleAdmission []
          [answerContextValue longAnswer sampleAdmission (List.replicate 78 'a')
            true]) := by
  constructor
  · obtain ⟨ofReturns, ofAnswers, selects, reads⟩ := (selectContext_spec
      numberText (samplePrepared 300) sampleAdmission [sampleReturn]
      [sampleAnswer ['g', 'o']]).1 _ selectContext_sample
    exact ⟨ofReturns, ofAnswers, _, selectContext_sample, selects, rfl, rfl, _,
      rfl, reads _ rfl⟩
  · obtain ⟨onSuccess, room, -⟩ := selectContext_spec numberText
      (samplePrepared 200) sampleAdmission [] [longAnswer]
    have fits := contextFits_answer longAnswer List.nil_prefix
      answerFits_longAnswer.1
    obtain ⟨selected, run⟩ := room fits
    obtain ⟨ofReturns, ofAnswers, selects, reads⟩ := onSuccess selected run
    refine ⟨selected, run, ?_⟩
    cases selects.selection with
    | cutReturn isFirst => cases isFirst
    | @cutAnswer chosen _ isFirst isCut =>
        have isRecord : chosen.record = longAnswer :=
          (Option.some.inj isFirst).symm
        have isValue : chosenAnswerValue sampleAdmission chosen =
            answerContextValue longAnswer sampleAdmission
              (List.replicate 78 'a') true := by
          rw [chosenAnswerValue, isRecord, isCut.flag,
            payload_of_isCut_longAnswer isRecord isCut]
        have isText := selects.rendered
        refine ⟨?_, _, isText, ?_⟩
        · rw [selects.answerIds, List.map_cons, isRecord]
          rfl
        · obtain ⟨body, isBlock, isBody⟩ := reads _ isText
          refine ⟨body, isBlock, ?_⟩
          rw [isBody, List.map_cons, isValue]
          rfl
    | @whole returns answers returnsPrefix answersPrefix order =>
        obtain rfl := List.prefix_nil.mp returnsPrefix
        cases answers with
        | nil =>
            obtain ⟨-, none⟩ := selects.nonempty rfl rfl
            cases none
        | cons first rest =>
            obtain ⟨rfl, isRest⟩ := List.cons_prefix_cons.mp answersPrefix
            obtain rfl := List.prefix_nil.mp isRest
            obtain ⟨prepared, added⟩ := selects.added _ selects.rendered
            have tooLong := not_contextFits_longAnswer
            unfold contextFits at tooLong
            simp only [List.map_cons, List.map_nil] at added
            rw [added] at tooLong
            cases tooLong

/-- Neither the output of a tool nor a message of another thread ends its
wrapper. -/
theorem untrustedText_confined {requested name : String}
    (known : internalNameForProvider requested = some name)
    (body : List Char) (admission : ThreadRunAdmission)
    (returns answers : List Value) (nextReturn nextAnswer : Option Value) :
    (∃ output, providerToolOutput name body = some output ∧
      WrapsOutput name body output) ∧
    ∃ block, renderContext admission returns answers nextReturn nextAnswer =
        contextOpen ++ block ++ contextClose ∧
      contextCloser.occurrences (contextOpen ++ block ++ contextClose) = 1 ∧
      fromText (String.ofList block) = some (contextBody admission
        (returns ++ nextReturn.toList) (answers ++ nextAnswer.toList)) :=
  ⟨wrapsOutput_providerToolOutput known body,
    renderContext_confined admission returns answers nextReturn nextAnswer⟩

/-- A file that closes its wrapper, and a message that closes its block. -/
theorem untrustedText_confined_sample :
    (∃ output, providerToolOutput "file.read" "</Tool_Output>".toList =
        some output ∧
      WrapsOutput "file.read" "</Tool_Output>".toList output) ∧
    ∃ block, renderContext ⟨"run", "workspace", ⟨"default", by decide⟩,
          "thread", "turn", 1, 0⟩ [.string "</platonic_spawn_edge_context>"] []
          none none = contextOpen ++ block ++ contextClose ∧
      contextCloser.occurrences (contextOpen ++ block ++ contextClose) = 1 ∧
      fromText (String.ofList block) = some (contextBody ⟨"run", "workspace",
        ⟨"default", by decide⟩, "thread", "turn", 1, 0⟩
        [.string "</platonic_spawn_edge_context>"] []) :=
  untrustedText_confined (show internalNameForProvider "file_read" =
    some "file.read" by decide +kernel) _ _ _ _ none none

end SpawnEdge

end PlatoAgent
