import PlatoAgent.ContextPacks
import PlatoAgent.RunCompactionGate

/-!
# The turns of a session that a request keeps

The oldest turns of a session are dropped until the estimate of the request is
within the budget.  The context pack that is built from the messages that are
left has the same estimate, and the run state admits it by the same budget
unless the estimate is saturated.
-/

namespace PlatoAgent

/-- The sum of the estimates as it is reported. -/
def ContextPack.estimatedTokens (context : ContextPack) : UInt32 :=
  (min context.estimatedTokensU64 0xFFFFFFFF).toUInt32

def sessionTruncationMarker : String :=
  "[older session turns omitted to fit the context budget]"

def turnMessages (turn : SessionTurn) : List ModelMessage :=
  [.userText turn.question, .assistantBlocks [.text turn.finalAnswer]]

def sessionMessagesFrom (turns : List SessionTurn) (question : String)
    (truncated : Bool) : List ModelMessage :=
  (if truncated then [.userText sessionTruncationMarker] else []) ++
    turns.flatMap turnMessages ++ [.userText question]

structure SessionHydration where
  retainedMessages : List ModelMessage
  droppedTurns : Nat
  estimatedTokensBefore : UInt32
  estimatedTokensAfter : UInt32
  deriving Repr

section Hydration

variable (json : JsonWriter) (question : String) (tokenBudget : UInt32)
  (tools : List ToolSpec) (systemContext : String)

/-- The loop that drops turns; the list is the turns that are left. -/
def dropTurns (hydration : SessionHydration) :
    List SessionTurn → SessionHydration
  | [] => hydration
  | _ :: rest =>
      if tokenBudget < hydration.estimatedTokensAfter then
        let messages := sessionMessagesFrom rest question true
        dropTurns
          { hydration with
            retainedMessages := messages
            droppedTurns := hydration.droppedTurns + 1
            estimatedTokensAfter :=
              estimatedContextTokens json systemContext messages tools }
          rest
      else hydration

/-- `hydrated_messages`. -/
def hydratedMessages (turns : List SessionTurn) : SessionHydration :=
  let messages := sessionMessagesFrom turns question false
  let before := estimatedContextTokens json systemContext messages tools
  dropTurns json question tokenBudget tools systemContext
    ⟨messages, 0, before, before⟩ turns

/-- The messages without the first turns. -/
def messagesWithout (turns : List SessionTurn) (dropped : Nat) :
    List ModelMessage :=
  sessionMessagesFrom (turns.drop dropped) question (0 < dropped)

def tokensWithout (turns : List SessionTurn) (dropped : Nat) : UInt32 :=
  estimatedContextTokens json systemContext
    (messagesWithout question turns dropped) tools

/-- The fewest turns are dropped that bring the estimate within the budget, or
all of them. -/
structure Hydrates (turns : List SessionTurn) (hydration : SessionHydration) :
    Prop where
  available : hydration.droppedTurns ≤ turns.length
  needed : ∀ dropped < hydration.droppedTurns,
    tokenBudget < tokensWithout json question tools systemContext turns dropped
  enough : hydration.droppedTurns = turns.length ∨
    hydration.estimatedTokensAfter ≤ tokenBudget
  messages : hydration.retainedMessages =
    messagesWithout question turns hydration.droppedTurns
  before : hydration.estimatedTokensBefore =
    tokensWithout json question tools systemContext turns 0
  after : hydration.estimatedTokensAfter =
    tokensWithout json question tools systemContext turns
      hydration.droppedTurns

variable {json question tokenBudget tools systemContext}

theorem dropTurns_hydrates {turns rest : List SessionTurn}
    {hydration : SessionHydration}
    (left : turns.drop hydration.droppedTurns = rest)
    (available : hydration.droppedTurns ≤ turns.length)
    (needed : ∀ dropped < hydration.droppedTurns, tokenBudget <
      tokensWithout json question tools systemContext turns dropped)
    (messages : hydration.retainedMessages =
      messagesWithout question turns hydration.droppedTurns)
    (before : hydration.estimatedTokensBefore =
      tokensWithout json question tools systemContext turns 0)
    (after : hydration.estimatedTokensAfter =
      tokensWithout json question tools systemContext turns
        hydration.droppedTurns) :
    Hydrates json question tokenBudget tools systemContext turns
      (dropTurns json question tokenBudget tools systemContext hydration
        rest) := by
  induction rest generalizing hydration with
  | nil =>
      have all := List.drop_eq_nil_iff.mp left
      exact ⟨available, needed, .inl (by
        rw [dropTurns]
        omega), messages, before, after⟩
  | cons turn rest ih =>
      rw [dropTurns]
      split
      next exceeds =>
        have more : hydration.droppedTurns < turns.length := by
          by_contra none?
          rw [List.drop_eq_nil_of_le (by omega)] at left
          cases left
        have next : turns.drop (hydration.droppedTurns + 1) = rest := by
          rw [← List.drop_drop, left]
          rfl
        have sameMessages : sessionMessagesFrom rest question true =
            messagesWithout question turns (hydration.droppedTurns + 1) := by
          rw [messagesWithout, next, decide_eq_true (Nat.succ_pos _)]
        apply ih
        · exact next
        · exact more
        · intro dropped earlier
          rcases Nat.lt_succ_iff_lt_or_eq.mp earlier with earlier | rfl
          · exact needed dropped earlier
          · rw [← after]
            exact exceeds
        · exact sameMessages
        · exact before
        · dsimp only
          rw [sameMessages, tokensWithout]
      next within =>
        exact ⟨available, needed, .inr (UInt32.not_lt.mp within), messages, before,
          after⟩

theorem hydratedMessages_hydrates (turns : List SessionTurn) :
    Hydrates json question tokenBudget tools systemContext turns
      (hydratedMessages json question tokenBudget tools systemContext
        turns) := by
  apply dropTurns_hydrates
  · rfl
  · exact Nat.zero_le _
  · intro dropped earlier
    cases earlier
  · rfl
  · rfl
  · rfl

end Hydration

/-- A message of one text. -/
def IsText (message : ModelMessage) : Prop :=
  ∃ role content, message = ⟨role, [.text content]⟩

theorem isText_sessionMessagesFrom {turns : List SessionTurn}
    {question : String} {truncated : Bool} {message : ModelMessage}
    (member : message ∈ sessionMessagesFrom turns question truncated) :
    IsText message := by
  rw [sessionMessagesFrom, List.mem_append, List.mem_append] at member
  rcases member with (marker | inTurns) | last
  · split at marker
    · exact ⟨_, _, List.mem_singleton.mp marker⟩
    · cases marker
  · obtain ⟨turn, _, inTurn⟩ := List.mem_flatMap.mp inTurns
    rcases List.mem_cons.mp inTurn with rfl | inTurn
    · exact ⟨_, _, rfl⟩
    · exact ⟨_, _, List.mem_singleton.mp inTurn⟩
  · exact ⟨_, _, List.mem_singleton.mp last⟩

theorem IsText.not_hasFloat {message : ModelMessage} (isText : IsText message) :
    ¬ message.toJson.HasFloat := by
  obtain ⟨role, content, rfl⟩ := isText
  cases role <;>
    simp [ModelMessage.toJson, ModelBlock.toJson, ModelRole.toJson]

/-- The characters of texts with a comma or a bracket for each. -/
def separatedLength {Item : Type} (itemText : Item → List Char)
    (items : List Item) : Nat :=
  (items.map fun item => (itemText item).length + 1).sum

theorem length_separatedText {Item : Type} {itemText : Item → List Char}
    {items : List Item} (some? : items ≠ []) :
    (separatedText itemText items).length + 1 =
      separatedLength itemText items := by
  cases items with
  | nil => exact absurd rfl some?
  | cons first rest =>
      have others : (rest.flatMap fun item => ',' :: itemText item).length =
          separatedLength itemText rest := by
        simp [List.length_flatMap, separatedLength]
      rw [separatedText, List.length_append, others, separatedLength,
        separatedLength, List.map_cons, List.sum_cons]
      omega

def messageText (message : ModelMessage) : List Char :=
  JsonText.valueText message.toJson

theorem length_messagesText (json : JsonWriter) {messages : List ModelMessage}
    (texts : ∀ message ∈ messages, IsText message) (some? : messages ≠ []) :
    (messagesText json messages).length =
      separatedLength messageText messages + 1 := by
  have plain : ¬ (Value.array (messages.map ModelMessage.toJson)).HasFloat := by
    rw [hasFloat_array_iff]
    rintro ⟨_, member, float⟩
    obtain ⟨message, isMessage, rfl⟩ := List.mem_map.mp member
    exact (texts message isMessage).not_hasFloat float
  have length := @length_separatedText _ messageText _ some?
  rw [messagesText, json.toString_eq _ plain, JsonText.toText,
    String.length_ofList, valueText_array, separatedText_map]
  simp only [List.length_append, List.length_cons, List.length_nil]
  change 0 + 1 + (separatedText messageText messages).length + (0 + 1) = _
  omega

/-- The text of a message is its role, its text and what stands around them. -/
theorem length_text (role : ModelRole) (content : String) :
    (messageText ⟨role, [.text content]⟩).length =
      (JsonText.valueText role.toJson).length +
        (JsonText.quoted content).length + 45 := by
  have role_ : (JsonText.quoted "role").length = 6 := by decide
  have content_ : (JsonText.quoted "content").length = 9 := by decide
  have type_ : (JsonText.quoted "type").length = 6 := by decide
  have text_ : (JsonText.quoted "text").length = 6 := by decide
  simp only [messageText, ModelMessage.toJson, ModelBlock.toJson,
    JsonText.valueText, JsonText.itemsText, JsonText.entryText,
    JsonText.entriesText, List.map_cons, List.map_nil, List.length_append,
    List.length_cons, List.length_nil, role_, content_, type_, text_]
  omega

theorem separatedLength_append {Item : Type} (itemText : Item → List Char)
    (first second : List Item) :
    separatedLength itemText (first ++ second) =
      separatedLength itemText first + separatedLength itemText second := by
  simp [separatedLength]

theorem two_le_quoted (content : String) :
    2 ≤ (JsonText.quoted content).length := by
  simp [JsonText.quoted]

/-- The marker and the comma behind it are not longer than any turn. -/
theorem marker_le_turn (turn : SessionTurn) :
    separatedLength messageText [.userText sessionTruncationMarker] ≤
      separatedLength messageText (turnMessages turn) := by
  have marker : (JsonText.quoted sessionTruncationMarker).length = 57 := by
    decide +kernel
  have user : (JsonText.valueText ModelRole.user.toJson).length = 6 := by decide
  have assistant : (JsonText.valueText ModelRole.assistant.toJson).length =
      11 := by decide
  have question := two_le_quoted turn.question
  have answer := two_le_quoted turn.finalAnswer
  simp only [separatedLength, turnMessages, ModelMessage.userText,
    ModelMessage.assistantBlocks, List.map_cons, List.map_nil, List.sum_cons,
    List.sum_nil, length_text, marker, user, assistant]
  omega

/-- Dropping turns does not make the messages longer. -/
theorem separatedLength_messagesWithout (question : String)
    {turns : List SessionTurn} {dropped : Nat}
    (available : dropped ≤ turns.length) :
    separatedLength messageText (messagesWithout question turns dropped) ≤
      separatedLength messageText (messagesWithout question turns 0) := by
  cases dropped with
  | zero => exact le_refl _
  | succ dropped =>
      obtain ⟨turn, others, isTurns⟩ :=
        List.exists_cons_of_length_pos (show 0 < turns.length by omega)
      have behind : turns.drop (dropped + 1) = others.drop dropped := by
        rw [isTurns]
        rfl
      have kept : separatedLength messageText
            (others.flatMap turnMessages) =
          separatedLength messageText
              ((others.take dropped).flatMap turnMessages) +
            separatedLength messageText
              ((others.drop dropped).flatMap turnMessages) := by
        rw [← separatedLength_append, ← List.flatMap_append,
          List.take_append_drop]
      have marker := marker_le_turn turn
      rw [messagesWithout, messagesWithout, behind, List.drop_zero, isTurns]
      simp only [sessionMessagesFrom, Nat.succ_pos, decide_true, if_true,
        Nat.lt_irrefl, decide_false, separatedLength_append, List.flatMap_cons,
        kept]
      simp only [Bool.false_eq_true, if_false]
      have nothing : separatedLength messageText [] = 0 := rfl
      omega

theorem messagesWithout_ne_nil (question : String) (turns : List SessionTurn)
    (dropped : Nat) : messagesWithout question turns dropped ≠ [] := by
  simp [messagesWithout, sessionMessagesFrom]

theorem length_messagesWithout (json : JsonWriter) (question : String)
    (turns : List SessionTurn) (dropped : Nat) :
    (messagesText json (messagesWithout question turns dropped)).length =
      separatedLength messageText (messagesWithout question turns dropped) +
        1 :=
  length_messagesText json
    (fun _ member => isText_sessionMessagesFrom member)
    (messagesWithout_ne_nil _ _ _)

/-- Dropping turns does not make the estimate greater. -/
theorem tokensWithout_le (json : JsonWriter) (question : String)
    (tools : List ToolSpec) (systemContext : String)
    {turns : List SessionTurn} {dropped : Nat}
    (available : dropped ≤ turns.length) :
    tokensWithout json question tools systemContext turns dropped ≤
      tokensWithout json question tools systemContext turns 0 := by
  have length := separatedLength_messagesWithout question available
  have messages := @estimateTokens_mono
    (messagesText json (messagesWithout question turns dropped))
    (messagesText json (messagesWithout question turns 0)) (by
      rw [length_messagesWithout, length_messagesWithout]
      omega)
  rw [UInt32.le_iff_toNat_le] at messages ⊢
  rw [tokensWithout, tokensWithout, toNat_estimatedContextTokens,
    toNat_estimatedContextTokens, contextTokens, contextTokens]
  omega

section TurnOne

variable (json : JsonWriter) (question : String) (tokenBudget : UInt32)
  (tools : List ToolSpec) (turns : List SessionTurn)
  (profileContext : Option PreparedProfileContext)
  (platonicMemory voiceInterruption : Option String)

/-- The system text of a request with these parts. -/
def turnOneSystem : String :=
  providerSystemContext (profileContext.map (·.content)) platonicMemory
    voiceInterruption

def turnOneHydration : SessionHydration :=
  hydratedMessages json question tokenBudget tools
    (turnOneSystem profileContext platonicMemory voiceInterruption) turns

/-- The context that is built for the messages that were kept. -/
def turnOneContext : ContextPack :=
  contextPack json
    ⟨turnOneSystem profileContext platonicMemory voiceInterruption,
      (turnOneHydration json question tokenBudget tools turns profileContext
        platonicMemory voiceInterruption).retainedMessages, tools⟩
    tokenBudget profileContext platonicMemory voiceInterruption

/-- The sum of the estimates of that context. -/
def turnOneTokens : Nat :=
  contextTokens json
    (turnOneSystem profileContext platonicMemory voiceInterruption)
    (turnOneHydration json question tokenBudget tools turns profileContext
      platonicMemory voiceInterruption).retainedMessages tools

/-- The events of a run before the context of its first turn. -/
def turnOneEvents (started : RunStartedEvent) (turnId : TurnId)
    (hydration : SessionHydration) : List HarnessEvent :=
  .runStarted started ::
    if 0 < hydration.droppedTurns then
      [.contextCompacted started.runId turnId hydration.estimatedTokensBefore
        hydration.estimatedTokensAfter 0 (.ofNat hydration.droppedTurns)]
    else []

theorem toNat_tokens_turnOneContext :
    (turnOneContext json question tokenBudget tools turns profileContext
      platonicMemory voiceInterruption).estimatedTokensU64.toNat =
    turnOneTokens json question tokenBudget tools turns profileContext
      platonicMemory voiceInterruption :=
  toNat_tokens_contextPack json _ tools tokenBudget profileContext
    platonicMemory voiceInterruption

theorem toNat_estimatedTokensAfter :
    (turnOneHydration json question tokenBudget tools turns profileContext
      platonicMemory voiceInterruption).estimatedTokensAfter.toNat =
    min (turnOneTokens json question tokenBudget tools turns profileContext
      platonicMemory voiceInterruption) 0xFFFFFFFF := by
  have hydrates : Hydrates json question tokenBudget tools _ turns
      (turnOneHydration json question tokenBudget tools turns profileContext
        platonicMemory voiceInterruption) := hydratedMessages_hydrates turns
  rw [hydrates.after, tokensWithout, ← hydrates.messages,
    toNat_estimatedContextTokens, turnOneTokens]

theorem estimatedTokens_turnOneContext :
    (turnOneContext json question tokenBudget tools turns profileContext
      platonicMemory voiceInterruption).estimatedTokens =
    (turnOneHydration json question tokenBudget tools turns profileContext
      platonicMemory voiceInterruption).estimatedTokensAfter := by
  have sum := toNat_tokens_turnOneContext json question tokenBudget tools turns
    profileContext platonicMemory voiceInterruption
  have after := toNat_estimatedTokensAfter json question tokenBudget tools turns
    profileContext platonicMemory voiceInterruption
  apply UInt32.toNat_inj.mp
  rw [after, ContextPack.estimatedTokens, UInt64.toNat_toUInt32, ← sum]
  generalize (turnOneContext json question tokenBudget tools turns
    profileContext platonicMemory voiceInterruption).estimatedTokensU64 = used
  have limit : (0xFFFFFFFF : UInt64).toNat = 0xFFFFFFFF := rfl
  change (if used ≤ 0xFFFFFFFF then used else 0xFFFFFFFF).toNat % 2 ^ 32 = _
  by_cases small : used ≤ 0xFFFFFFFF
  · rw [if_pos small]
    rw [UInt64.le_iff_toNat_le, limit] at small
    rw [min_eq_left small, Nat.mod_eq_of_lt (by omega)]
  · rw [if_neg small, limit]
    rw [UInt64.le_iff_toNat_le, limit, not_le] at small
    rw [min_eq_right small.le]

end TurnOne

/-- A run before the context of a first turn. -/
structure AwaitsTurnOne (started : RunStartedEvent) (turnId : TurnId)
    (state : RunState) : Prop where
  between : state.phase.betweenTurns = true
  gate : ∀ expected, state.pendingCompactionTurnId = some expected →
    expected = turnId
  fresh : turnId ∉ state.usedTurnIds
  runId : state.runId = some started.runId

theorem awaits_of_started {started : RunStartedEvent}
    {records : List RecordedEvent} {state : RunState}
    (events : RunState.eventsOf records = [.runStarted started])
    (accepted : RunState.replay records = .ok state) (turnId : TurnId) :
    AwaitsTurnOne started turnId state := by
  obtain ⟨front, source, target, frontEvents, frontAccepted, transition, rfl⟩ :=
    RunState.transition_to_last accepted
      (show RunState.eventsOf records = [] ++ [_] from events)
  obtain rfl := List.map_eq_nil_iff.mp frontEvents
  obtain rfl : RunState.new = source := Except.ok.inj frontAccepted
  cases transition
  refine ⟨rfl, ?_, Finset.notMem_empty _, rfl⟩
  intro _ pending
  cases pending

theorem awaits_of_turnOneEvents {started : RunStartedEvent} {turnId : TurnId}
    {hydration : SessionHydration} {records : List RecordedEvent}
    {state : RunState}
    (events : RunState.eventsOf records =
      turnOneEvents started turnId hydration)
    (accepted : RunState.replay records = .ok state) :
    AwaitsTurnOne started turnId state := by
  rw [turnOneEvents] at events
  by_cases compacted : 0 < hydration.droppedTurns
  · rw [if_pos compacted] at events
    obtain ⟨front, source, target, frontEvents, frontAccepted, transition,
      rfl⟩ := RunState.transition_to_last accepted
        (show RunState.eventsOf records = [_] ++ [_] from events)
    have awaits := awaits_of_started frontEvents frontAccepted turnId
    cases transition
    exact ⟨awaits.between, fun _ pending => (Option.some.inj pending).symm,
      awaits.fresh, awaits.runId⟩
  · rw [if_neg compacted] at events
    exact awaits_of_started events accepted turnId

/-- Before its first turn a run admits a context that is within its budget. -/
theorem admits_turnOne {started : RunStartedEvent} {turnId : TurnId}
    {state : RunState} (awaits : AwaitsTurnOne started turnId state)
    (occurredAt : UInt64) (context : ContextPack) :
    (∃ after, state.next ⟨state.nextSeq, occurredAt,
      .contextBuilt started.runId turnId context⟩ = .ok after) ↔
    context.estimatedTokensU64 ≤ context.tokenBudget.toUInt64 := by
  rw [← ContextPack.validateBudget_ok_iff]
  constructor
  · rintro ⟨after, stepped⟩
    obtain ⟨_, middle, transition, _⟩ := RunState.next_ok_iff.mp stepped
    cases transition with
    | contextBuilt _ _ _ _ _ _ budget => exact budget
  · intro budget
    refine ⟨_, RunState.next_ok_iff.mpr ⟨⟨rfl, ?_⟩, _,
      .contextBuilt _ _ _ awaits.between awaits.gate awaits.fresh budget, rfl⟩⟩
    intro expected isExpected
    rw [awaits.runId] at isExpected
    exact Option.some.inj isExpected

/-- The context of turn one is admitted within the budget; the greatest budget
does not admit a sum that the estimate saturates. -/
theorem admits_turnOneContext (json : JsonWriter) (question : String)
    (tokenBudget : UInt32) (tools : List ToolSpec) (turns : List SessionTurn)
    (profileContext : Option PreparedProfileContext)
    (platonicMemory voiceInterruption : Option String)
    {started : RunStartedEvent} {turnId : TurnId} {state : RunState}
    (awaits : AwaitsTurnOne started turnId state) (occurredAt : UInt64) :
    (∃ after, state.next ⟨state.nextSeq, occurredAt,
      .contextBuilt started.runId turnId (turnOneContext json question
        tokenBudget tools turns profileContext platonicMemory
        voiceInterruption)⟩ = .ok after) ↔
    turnOneTokens json question tokenBudget tools turns profileContext
      platonicMemory voiceInterruption ≤ tokenBudget.toNat := by
  rw [admits_turnOne awaits, UInt64.le_iff_toNat_le,
    toNat_tokens_turnOneContext]
  exact Iff.of_eq (congrArg _ (UInt32.toNat_toUInt64 tokenBudget))

/-- What is kept of a session, and the context of turn one that it is kept
for. -/
theorem hydration_matches_context (json : JsonWriter) (question : String)
    (tokenBudget : UInt32) (tools : List ToolSpec) (turns : List SessionTurn) :
    (∀ systemContext : String,
      Hydrates json question tokenBudget tools systemContext turns
        (hydratedMessages json question tokenBudget tools systemContext turns) ∧
      (hydratedMessages json question tokenBudget tools systemContext
        turns).retainedMessages.getLast? = some (.userText question) ∧
      (hydratedMessages json question tokenBudget tools systemContext
          turns).estimatedTokensAfter ≤
        (hydratedMessages json question tokenBudget tools systemContext
          turns).estimatedTokensBefore) ∧
    ∀ (profileContext : Option PreparedProfileContext)
      (platonicMemory voiceInterruption : Option String),
      (turnOneContext json question tokenBudget tools turns profileContext
          platonicMemory voiceInterruption).estimatedTokens =
        (turnOneHydration json question tokenBudget tools turns profileContext
          platonicMemory voiceInterruption).estimatedTokensAfter ∧
      ∀ (started : RunStartedEvent) (turnId : TurnId)
        (records : List RecordedEvent) (state : RunState)
        (occurredAt : UInt64),
        RunState.eventsOf records = turnOneEvents started turnId
          (turnOneHydration json question tokenBudget tools turns
            profileContext platonicMemory voiceInterruption) →
        RunState.replay records = .ok state →
        ((∃ after, state.next ⟨state.nextSeq, occurredAt,
          .contextBuilt started.runId turnId (turnOneContext json question
            tokenBudget tools turns profileContext platonicMemory
            voiceInterruption)⟩ = .ok after) ↔
          (turnOneHydration json question tokenBudget tools turns
            profileContext platonicMemory
            voiceInterruption).estimatedTokensAfter ≤ tokenBudget ∧
          (tokenBudget = 0xFFFFFFFF →
            turnOneTokens json question tokenBudget tools turns profileContext
              platonicMemory voiceInterruption ≤ 0xFFFFFFFF)) := by
  constructor
  · intro systemContext
    have hydrates : Hydrates json question tokenBudget tools systemContext turns
        (hydratedMessages json question tokenBudget tools systemContext
          turns) := hydratedMessages_hydrates turns
    refine ⟨hydrates, ?_, ?_⟩
    · rw [hydrates.messages, messagesWithout, sessionMessagesFrom,
        List.getLast?_concat]
    · rw [hydrates.after, hydrates.before]
      exact tokensWithout_le json question tools systemContext
        hydrates.available
  · intro profileContext platonicMemory voiceInterruption
    refine ⟨estimatedTokens_turnOneContext json question tokenBudget tools
      turns profileContext platonicMemory voiceInterruption, ?_⟩
    intro started turnId records state occurredAt events accepted
    have after := toNat_estimatedTokensAfter json question tokenBudget tools
      turns profileContext platonicMemory voiceInterruption
    have awaits := awaits_of_turnOneEvents events accepted
    rw [admits_turnOneContext json question tokenBudget tools turns
      profileContext platonicMemory voiceInterruption awaits,
      UInt32.le_iff_toNat_le, after]
    have bound := tokenBudget.toNat_lt
    constructor
    · intro within
      exact ⟨by omega, fun _ => by omega⟩
    · rintro ⟨within, greatest⟩
      by_cases isGreatest : tokenBudget = 0xFFFFFFFF
      · have value : tokenBudget.toNat = 0xFFFFFFFF :=
          congrArg UInt32.toNat isGreatest
        have unsaturated := greatest isGreatest
        omega
      · have below : tokenBudget.toNat ≠ 0xFFFFFFFF :=
          fun same => isGreatest (UInt32.toNat_inj.mp same)
        omega

/-- A turn with a long answer. -/
def longTurn : SessionTurn :=
  ⟨"Why?", .ofList (.replicate 100 'a')⟩

theorem length_le_utf8ByteSize (text : String) :
    text.length ≤ text.utf8ByteSize := by
  have each : ∀ characters : List Char, characters.length ≤
      (characters.flatMap String.utf8EncodeChar).length := by
    intro characters
    induction characters with
    | nil => exact le_rfl
    | cons first rest ih =>
        have one : 0 < (String.utf8EncodeChar first).length := by
          rw [String.length_utf8EncodeChar]
          exact first.utf8Size_pos
        rw [List.flatMap_cons, List.length_append, List.length_cons]
        omega
  have bytes : text.utf8ByteSize =
      (text.toList.flatMap String.utf8EncodeChar).length := by
    have encoded := @String.toByteArray_ofList text.toList
    rw [String.ofList_toList] at encoded
    rw [← String.size_toByteArray, encoded, List.utf8Encode,
      List.size_toByteArray]
  rw [bytes, ← String.length_toList]
  exact each _

theorem length_systemPrompt : systemPrompt.length ≤ 10000 :=
  (length_le_utf8ByteSize systemPrompt).trans (by decide +kernel)

/-- The estimates of a request with that turn, and without it. -/
theorem tokens_longTurn {systemContext : String}
    (system : systemContext.length ≤ 10000) :
    contextTokens jsonTextWriter systemContext
        (messagesWithout "What next?" [longTurn] 1) [] <
      contextTokens jsonTextWriter systemContext
        (messagesWithout "What next?" [longTurn] 0) [] ∧
    contextTokens jsonTextWriter systemContext
      (messagesWithout "What next?" [longTurn] 1) [] < 10000 := by
  have marker : (JsonText.quoted sessionTruncationMarker).length = 57 := by
    decide +kernel
  have question : (JsonText.quoted "What next?").length = 12 := by
    decide +kernel
  have short : (JsonText.quoted "Why?").length = 6 := by
    decide +kernel
  have long : (JsonText.quoted longTurn.finalAnswer).length = 102 := by
    rw [JsonText.quoted, longTurn, String.toList_ofList]
    decide +kernel
  have user : (JsonText.valueText ModelRole.user.toJson).length = 6 := by decide
  have assistant : (JsonText.valueText ModelRole.assistant.toJson).length =
      11 := by decide
  have tools : (toolsText jsonTextWriter []).length = 2 := by
    decide +kernel
  have less : separatedLength messageText
      (messagesWithout "What next?" [longTurn] 1) = 173 := by
    simp [messagesWithout, sessionMessagesFrom, separatedLength,
      ModelMessage.userText, length_text, marker, question, user]
  have more : separatedLength messageText
      (messagesWithout "What next?" [longTurn] 0) = 281 := by
    simp [messagesWithout, sessionMessagesFrom, separatedLength, turnMessages,
      ModelMessage.userText, ModelMessage.assistantBlocks, length_text,
      question, short, long, user, assistant, show longTurn.question = "Why?"
        from rfl]
  have before := length_messagesWithout jsonTextWriter "What next?" [longTurn] 0
  have after := length_messagesWithout jsonTextWriter "What next?" [longTurn] 1
  simp only [contextTokens, toNat_estimateTokens, before, after, less, more,
    tools]
  -- `omega` is given the numbers alone, not the texts they are lengths of.
  clear marker question short long user assistant tools less more before after
  omega

/-- The budget leaves no room for the turn, and the context without it is
admitted. -/
theorem hydration_matches_context_dropped :
    ∃ (tokenBudget : UInt32) (records : List RecordedEvent)
        (state after : RunState),
      (turnOneHydration jsonTextWriter "What next?" tokenBudget [] [longTurn]
        none none none).retainedMessages =
          [.userText sessionTruncationMarker, .userText "What next?"] ∧
      RunState.replay records = .ok state ∧
      state.next ⟨state.nextSeq, 0, .contextBuilt RunState.sampleRun
        RunState.sampleTurn (turnOneContext jsonTextWriter "What next?"
          tokenBudget [] [longTurn] none none none)⟩ = .ok after := by
  obtain ⟨fewer, small⟩ :=
    @tokens_longTurn (turnOneSystem none none none) length_systemPrompt
  obtain ⟨budget, sameBudget⟩ : ∃ budget, budget = tokensWithout jsonTextWriter
    "What next?" [] (turnOneSystem none none none) [longTurn] 1 := ⟨_, rfl⟩
  have isBudget : budget.toNat = contextTokens jsonTextWriter
      (turnOneSystem none none none)
      (messagesWithout "What next?" [longTurn] 1) [] := by
    rw [sameBudget, tokensWithout, toNat_estimatedContextTokens]
    omega
  obtain ⟨hydrated, contexts⟩ := hydration_matches_context jsonTextWriter
    "What next?" budget [] [longTurn]
  obtain ⟨hydrates, -, -⟩ := hydrated (turnOneSystem none none none)
  obtain ⟨-, admits⟩ := contexts none none none
  have oneDropped : (hydratedMessages jsonTextWriter "What next?" budget []
      (turnOneSystem none none none) [longTurn]).droppedTurns = 1 := by
    rcases hydrates.enough with all | enough
    · exact all
    by_contra other
    have zero : (hydratedMessages jsonTextWriter "What next?" budget []
        (turnOneSystem none none none) [longTurn]).droppedTurns = 0 := by
      have available := hydrates.available
      change _ ≤ 1 at available
      omega
    rw [hydrates.after, zero, tokensWithout, UInt32.le_iff_toNat_le,
      toNat_estimatedContextTokens, isBudget] at enough
    omega
  have after := hydrates.after
  rw [oneDropped, ← sameBudget] at after
  obtain ⟨state, accepted⟩ : ∃ state, RunState.replay (RunState.recordAll
      [RunState.sampleStart, .contextCompacted RunState.sampleRun
        RunState.sampleTurn _ _ 0 1]) = .ok state := ⟨_, rfl⟩
  have notGreatest : budget ≠ 0xFFFFFFFF := by
    intro greatest
    rw [greatest, show (0xFFFFFFFF : UInt32).toNat = 0xFFFFFFFF from rfl]
      at isBudget
    omega
  have events := admits _ RunState.sampleTurn _ state 0 (by
    rw [turnOneEvents, turnOneHydration, oneDropped]
    rfl) accepted
  obtain ⟨next, admitted⟩ := events.mpr
    ⟨UInt32.le_of_eq after, fun greatest => absurd greatest notGreatest⟩
  refine ⟨budget, _, state, next, ?_, accepted, admitted⟩
  rw [turnOneHydration, hydrates.messages, oneDropped]
  rfl

theorem length_le_quoted (content : String) :
    content.length ≤ (JsonText.quoted content).length := by
  have escaped : ∀ character, 1 ≤ (JsonText.escapeChar character).length := by
    intro character
    unfold JsonText.escapeChar
    split_ifs <;> simp
  have characters : ∀ text : List Char,
      text.length ≤ (text.flatMap JsonText.escapeChar).length := by
    intro text
    induction text with
    | nil => exact le_refl _
    | cons first rest ih =>
        have one := escaped first
        rw [List.flatMap_cons, List.length_append, List.length_cons]
        omega
  have inside := characters content.toList
  rw [String.length_toList] at inside
  simp only [JsonText.quoted, List.length_append, List.length_cons,
    List.length_nil]
  omega

/-- There are texts of any length. -/
theorem exists_long_question (length : Nat) :
    ∃ question : String, length ≤ question.length := by
  refine ⟨.ofList (.replicate length 'a'), ?_⟩
  rw [String.length_ofList, List.length_replicate]

/-- The tokens of a request with such a question alone. -/
theorem saturated_tokens {question : String}
    (long : 2 ^ 34 ≤ question.length) (systemContext : String) :
    0xFFFFFFFF < contextTokens jsonTextWriter systemContext
      (messagesWithout question [] 0) [] := by
  have messages : (messagesText jsonTextWriter
      (messagesWithout question [] 0)).length =
        separatedLength messageText (messagesWithout question [] 0) + 1 :=
    length_messagesWithout _ _ _ _
  have one : separatedLength messageText (messagesWithout question [] 0) =
      (messageText (.userText question)).length + 1 := rfl
  have user := length_text .user question
  have quoted := length_le_quoted question
  have estimate := toNat_estimateTokens (messagesText jsonTextWriter
    (messagesWithout question [] 0))
  rw [messages, one, ModelMessage.userText, user] at estimate
  rw [contextTokens, estimate, toNat_estimateTokens systemContext]
  omega

/-- A context with a saturated estimate is refused by the greatest budget. -/
theorem saturated_context_refused :
    ¬ ∀ (json : JsonWriter) (question : String) (tokenBudget : UInt32)
        (tools : List ToolSpec) (turns : List SessionTurn)
        (profileContext : Option PreparedProfileContext)
        (platonicMemory voiceInterruption : Option String)
        (started : RunStartedEvent) (turnId : TurnId)
        (records : List RecordedEvent) (state : RunState)
        (occurredAt : UInt64),
      RunState.eventsOf records = turnOneEvents started turnId
        (turnOneHydration json question tokenBudget tools turns profileContext
          platonicMemory voiceInterruption) →
      RunState.replay records = .ok state →
      ((∃ after, state.next ⟨state.nextSeq, occurredAt,
        .contextBuilt started.runId turnId (turnOneContext json question
          tokenBudget tools turns profileContext platonicMemory
          voiceInterruption)⟩ = .ok after) ↔
        (turnOneHydration json question tokenBudget tools turns profileContext
          platonicMemory voiceInterruption).estimatedTokensAfter ≤
            tokenBudget) := by
  intro admits
  obtain ⟨question, long⟩ := exists_long_question (2 ^ 34)
  have started : RunState.eventsOf
      (RunState.recordAll [RunState.sampleStart]) = [RunState.sampleStart] := rfl
  obtain ⟨state, accepted⟩ : ∃ state, RunState.replay
      (RunState.recordAll [RunState.sampleStart]) = .ok state := ⟨_, rfl⟩
  have awaits := awaits_of_started started accepted RunState.sampleTurn
  have hydrates : Hydrates jsonTextWriter question 0xFFFFFFFF [] _ []
      (turnOneHydration jsonTextWriter question 0xFFFFFFFF [] [] none none
        none) := hydratedMessages_hydrates []
  have noneDropped : ¬ 0 < (turnOneHydration jsonTextWriter question 0xFFFFFFFF
      [] [] none none none).droppedTurns :=
    not_lt.mpr hydrates.available
  have iff := admits jsonTextWriter question 0xFFFFFFFF [] [] none none none
    _ RunState.sampleTurn _ _ 0
    (started.trans (by rw [turnOneEvents, if_neg noneDropped]; rfl)) accepted
  rw [admits_turnOneContext _ _ _ _ _ _ _ _ awaits] at iff
  have limit : (0xFFFFFFFF : UInt32).toNat = 0xFFFFFFFF := rfl
  have greatest := (turnOneHydration jsonTextWriter question 0xFFFFFFFF [] []
    none none none).estimatedTokensAfter.toNat_lt
  have tokens : 0xFFFFFFFF < turnOneTokens jsonTextWriter question 0xFFFFFFFF []
      [] none none none := by
    rw [turnOneTokens, hydrates.messages, Nat.le_zero.mp hydrates.available]
    exact saturated_tokens long _
  have admitted := iff.mpr (by
    rw [UInt32.le_iff_toNat_le, limit]
    omega)
  rw [limit] at admitted
  omega

end PlatoAgent
