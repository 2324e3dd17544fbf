import PlatoAgent.ComputerHandler

/-!
# No look into a window without an approval

A call of a desktop tool is first decided on.  A lease allows it; otherwise an
approval is asked for, and an approval leases the window.  The history of a run
says which approval stands, and the leases of the handler never say more.
-/

namespace PlatoAgent

namespace Computer

open FallibleCall

inductive HandlerError where
  | tool (error : ComputerError)
  | json (text : String)
  | run (reason : String)
  deriving DecidableEq, Repr

abbrev CallM := ExceptT HandlerError (StateM ComputerToolHandler)

/-- The window that a call looks into. -/
def observedRef (tool : String) (input : Value) : Option String :=
  if tool = computerObserve then
    (parseObserveInput input).toOption.map (·.windowRef)
  else none

/-- The test of `policy_decision`. -/
def ComputerToolHandler.allows (handler : ComputerToolHandler) (now : Nat)
    (windowRef : String) : Bool :=
  (handler.leases.lookup windowRef).any (·.active now) &&
    (handler.registry.lookup windowRef).isSome

def approvalReason (tool : String) : PolicyDecision :=
  .requireApproval s!"{tool} requires explicit local approval"

def policyDecision (call : ToolCall) (now : Nat) : CallM PolicyDecision := do
  let handler ← get
  match observedRef call.tool.value call.input with
  | none => return approvalReason call.tool.value
  | some windowRef =>
      if handler.allows now windowRef then return .allow
      else do
        modify fun handler =>
          { handler with leases := handler.leases.erase windowRef }
        return approvalReason call.tool.value

def approvalGranted (call : ToolCall) (now : Nat) : CallM Unit :=
  if call.tool.value ≠ computerObserve then pure ()
  else
    match parseObserveInput call.input with
    | .error error => throw (.tool error)
    | .ok input => do
        let handler ← get
        if (handler.registry.lookup input.windowRef).isNone then
          throw (.tool .staleWindowRef)
        else
          modify fun handler =>
            { handler with
              leases := handler.leases.insert input.windowRef ⟨now, now⟩ }

def approvalDenied : CallM Unit :=
  modify fun handler => { handler with leases := ∅ }

def approvalPreview (handler : ComputerToolHandler) (tool : String)
    (input : Value) : Except HandlerError String :=
  if tool = computerWindows then
    match parseWindowsInput input with
    | .error text => .error (.json text)
    | .ok () => .ok ("app: all visible applications\n" ++
        "title: all visible window titles\n" ++
        "window_ref: host-minted after approval")
  else if tool = computerObserve then
    match parseObserveInput input with
    | .error error => .error (.tool error)
    | .ok input =>
        match handler.registry.lookup input.windowRef with
        | none => .error (.tool .staleWindowRef)
        | some binding => .ok (s!"app: {binding.window.app}\n" ++
            s!"title: {binding.window.title}\n" ++
            s!"window_ref: {input.windowRef}")
  else .error (.tool .disabled)

/-- The failures after which the driver is ended. -/
def ComputerError.isFatal : ComputerError → Bool
  | .canceled | .timeout | .protocol | .outputTooLarge | .unexpectedImage =>
      true
  | _ => false

/-- The name in the input of a look, before the input is parsed. -/
def observeRef (tool : String) (input : Value) : Option String :=
  if tool = computerObserve then (input.entry "window_ref").bind asStr else none

/-- A failed look ends the lease, and a fatal failure ends the driver. -/
def afterFailure (windowRef : Option String) (error : ComputerError)
    (handler : ComputerToolHandler) : ComputerToolHandler :=
  let handler := { handler with
    leases := windowRef.elim handler.leases handler.leases.erase }
  if error.isFatal then
    { handler with registry := ∅, leases := ∅, child := false }
  else handler

def settle (windowRef : Option String) (call : HandlerM ToolResult) :
    CallM ToolResult := do
  let result ← attempt call
  match result with
  | .ok result => return result
  | .error error => do
      modify (afterFailure windowRef error)
      throw (.tool error)

structure ExecuteTurn where
  windows : WindowsTurn
  observe : ObserveTurn

variable (sha256 : List UInt8 → List UInt8) (json : JsonWriter)

def execute (turn : ExecuteTurn) (callId : ToolCallId) (tool : String)
    (input : Value) : CallM ToolResult := do
  modify fun handler => { handler with cleaned := false }
  if tool = computerWindows then
    match parseWindowsInput input with
    | .error text => throw (.json text)
    | .ok () => settle none (windows sha256 json turn.windows callId)
  else if tool = computerObserve then
    match parseObserveInput input with
    | .error error => throw (.tool error)
    | .ok parsed =>
        settle (observeRef tool input) (observe json turn.observe callId parsed)
  else settle none (throw .disabled)

/-- `cleanup`, with how the driver ends. -/
def cleanup (stopped : Except ComputerError Unit) : CallM Unit := do
  modify clearLeases
  let handler ← get
  if handler.cleaned then pure ()
  else do
    modify fun handler => { handler with cleaned := true, child := false }
    match stopped with
    | .ok () => pure ()
    | .error error => if handler.child then throw (.tool error) else pure ()

/-- A window that may be looked into, as it was when that was approved. -/
structure Approval where
  binding : WindowBinding
  lease : ObserveLease
  deriving DecidableEq, Repr

/-- What happened to the handler of a run.  A call is written down with the
window that it names, and with what the driver was asked meanwhile. -/
inductive Event where
  | decided (call : ToolCall) (now : Nat) (decision : PolicyDecision)
  | granted (call : ToolCall) (now : Nat) (binding : Option WindowBinding)
  | denied
  | executed (tool : String) (input : Value) (turn : ObserveTurn)
      (binding : Option WindowBinding) (asked : List (String × Value))
      (result : Except HandlerError ToolResult)
  | cleaned

/-- The input of a look is parsed, and other inputs are not looked at. -/
def inputParses (tool : String) (input : Value) : Bool :=
  tool ≠ computerObserve || (parseObserveInput input).toBool

/-- What is left of an approval after an event. -/
def Event.approvalAfter (windowRef : String) (old : Option Approval) :
    Event → Option Approval
  | .decided call _ decision =>
      if observedRef call.tool.value call.input = some windowRef ∧
          decision ≠ .allow then none
      else old
  | .granted call now binding =>
      if observedRef call.tool.value call.input = some windowRef then
        binding.map (⟨·, ⟨now, now⟩⟩)
      else old
  | .denied => none
  | .cleaned => none
  | .executed tool input turn _ _ (.ok _) =>
      if tool = computerWindows then none
      else if observedRef tool input = some windowRef then
        old.map fun approval =>
          { approval with
            lease := { approval.lease with lastUsed := turn.now } }
      else old
  | .executed tool input _ _ _ (.error (.tool error)) =>
      if inputParses tool input &&
          (error.isFatal || observeRef tool input == some windowRef) then none
      else old
  | .executed _ _ _ _ _ (.error _) => old

/-- The approval that stands after a history, last event first. -/
def standing : List Event → String → Option Approval
  | [], _ => none
  | event :: earlier, windowRef =>
      event.approvalAfter windowRef (standing earlier windowRef)

/-- The approval that the handler acts on. -/
def ComputerToolHandler.approval (handler : ComputerToolHandler)
    (windowRef : String) : Option Approval :=
  (handler.leases.lookup windowRef).bind fun lease =>
    (handler.registry.lookup windowRef).map (⟨·, lease⟩)

/-- An event that permits a look into a window: its lease was found active, or
its approval was given. -/
def Event.permits (windowRef : String) (approval : Approval) : Event → Prop
  | .decided call now decision =>
      observedRef call.tool.value call.input = some windowRef ∧
        decision = .allow ∧ approval.lease.active now = true
  | .granted call _ binding =>
      observedRef call.tool.value call.input = some windowRef ∧
        binding = some approval.binding
  | _ => False

/-- A message that may be written to the driver while a call with this window
is executed. -/
def Permitted (binding : Option WindowBinding) (message : String × Value) :
    Prop :=
  message = initializeRequest ∨ message = initializedNotification ∨
    message = toolRequest "list_windows" listArguments ∨
      ∃ found maxElements, binding = some found ∧
        message = toolRequest "get_window_state"
          (stateArguments found.window maxElements)

/-- The driver is only asked what is permitted, and for the window of a look
that is permitted an approval stands. -/
def Event.Approved (earlier : List Event) : Event → Prop
  | .executed tool input _ binding asked _ =>
      (∀ call ∈ asked, Permitted binding call) ∧
        ∀ windowRef, observedRef tool input = some windowRef →
          ∃ approval, standing earlier windowRef = some approval ∧
            binding = some approval.binding ∧
              ∃ last ∈ earlier.head?, last.permits windowRef approval
  | _ => True

/-- What a look showed is what the driver answered about the window of the
event: as many of its elements as were asked for and fit, each with the fields
that are kept and no visual data. -/
structure FaithfulLook (json : JsonWriter) (turn : ObserveTurn)
    (look : ObserveInput) (binding : WindowBinding) (result : ToolResult) :
    Prop where
  observed : ∃ evidence, Observed json turn look evidence binding result
  elements : ∃ structured items kept,
    answered turn.state.response = .ok structured ∧
      structured.entry "elements" = some (.array items) ∧
      kept ≤ look.maxElements.getD defaultMaxElements ∧
      kept ≤ maxElementsLimit ∧
      ∃ elements, result.data.entry "elements" = some (.array elements) ∧
        List.Forall₂ KeptElement (items.take kept) elements
  /-- No more of the elements would fit. -/
  most : ∃ structured elements evidence kept,
    answered turn.state.response = .ok structured ∧
      normalizeObservation structured
        (look.maxElements.getD defaultMaxElements) binding.window.pid
        binding.window.windowId = .ok elements ∧
      result.data = observationData turn.elapsed look.windowRef elements
        evidence kept ∧
      ∀ more, kept < more → more ≤ elements.values.length →
        maxResultBytes < serializedLen json
          (observationData turn.elapsed look.windowRef elements evidence more)
  noVisualData : hasVisualData result.data = false
  fits : serializedLen json result.data ≤ maxResultBytes

def Event.Shown (json : JsonWriter) : Event → Prop
  | .executed tool input turn binding _ (.ok result) =>
      ∀ look, tool = computerObserve → parseObserveInput input = .ok look →
        ∃ found, binding = some found ∧
          FaithfulLook json turn look found result
  | _ => True

/-- Every event of a history is approved by what was before it. -/
def Approved : List Event → Prop
  | [] => True
  | event :: earlier => event.Approved earlier ∧ Approved earlier

structure Session where
  handler : ComputerToolHandler
  history : List Event

abbrev RunM := ExceptT HandlerError (StateM Session)

/-- A call of the handler, with what is written down of it. -/
def perform {Result : Type}
    (event : ComputerToolHandler → ComputerToolHandler →
      Except HandlerError Result → Option Event)
    (call : CallM Result) : RunM Result :=
  ExceptT.mk fun session =>
    ((outcome call session.handler).1,
      ⟨(outcome call session.handler).2,
        (event session.handler (outcome call session.handler).2
          (outcome call session.handler).1).toList ++ session.history⟩)

def decideOn (call : ToolCall) (now : Nat) : RunM PolicyDecision :=
  perform (fun _ _ result => result.toOption.map (.decided call now))
    (policyDecision call now)

def grant (call : ToolCall) (now : Nat) : RunM Unit :=
  perform (fun before _ result => result.toOption.map fun _ =>
      .granted call now ((observedRef call.tool.value call.input).bind
        before.registry.lookup))
    (approvalGranted call now)

def deny : RunM Unit :=
  perform (fun _ _ _ => some .denied) approvalDenied

/-- What was written to the driver from one state to another. -/
def newMessages (before after : ComputerToolHandler) : List (String × Value) :=
  after.sent.take (after.sent.length - before.sent.length)

def runTool (turn : ExecuteTurn) (call : ToolCall) : RunM ToolResult :=
  perform (fun before after result => some
      (.executed call.tool.value call.input turn.observe
        ((observedRef call.tool.value call.input).bind before.registry.lookup)
        (newMessages before after) result))
    (execute sha256 json turn call.id call.tool.value call.input)

def clean (stopped : Except ComputerError Unit) : RunM Unit :=
  perform (fun _ _ _ => some .cleaned) (cleanup stopped)

/-- `Drop` of the handler. -/
def dropHandler : RunM Unit :=
  perform (fun _ _ _ => some .cleaned) (modify fun handler =>
    { handler with registry := ∅, leases := ∅, child := false })

/-- Who answers when an approval is asked for. -/
inductive ApprovalAnswer where
  | automatic
  | unavailable
  | asked (granted : Bool)
  deriving DecidableEq, Repr

/-- A call that the model makes, with what it meets.  A run that is canceled, or
that cannot be recorded, ends before the tool starts. -/
structure CallInput where
  call : ToolCall
  decidedAt : Nat
  answer : ApprovalAnswer
  grantedAt : Nat
  interruption : Option HandlerError
  turn : ExecuteTurn

/-- `execute_and_record_tool`: a failure is told to the model. -/
def startTool (input : CallInput) : RunM Unit :=
  match input.interruption with
  | some error => throw error
  | none => do
      let _ ← attempt (runTool sha256 json input.turn input.call)

def grantAndStart (input : CallInput) : RunM Unit := do
  grant input.call input.grantedAt
  startTool sha256 json input

/-- A tool call of the run.  A failed grant ends the run, and a preview that
fails denies the call. -/
def computerCall (input : CallInput) : RunM Unit := do
  let decision ← decideOn input.call input.decidedAt
  match decision with
  | .allow => startTool sha256 json input
  | .requireApproval _ =>
      match input.answer with
      | .automatic => grantAndStart sha256 json input
      | .unavailable => deny
      | .asked granted => do
          let session ← get
          match approvalPreview session.handler input.call.tool.value
              input.call.input with
          | .error _ => pure ()
          | .ok _ => if granted then grantAndStart sha256 json input else deny
  | .deny _ => pure ()

/-- The calls of a run up to the first that ends it, and the end of the run,
which may come to the cleanup and always drops the handler. -/
def runCalls (inputs : List CallInput) (cleans : Bool)
    (stopped : Except ComputerError Unit) : RunM Unit := do
  let _ ← attempt (inputs.forM (computerCall sha256 json))
  if cleans then
    let _ ← attempt (clean stopped)
    dropHandler
  else dropHandler

/-- The run of a handler that was just built. -/
def sessionAfter (displayIdentity : String) (evidence : DriverEvidence)
    (seed : List UInt8) (inputs : List CallInput) (cleans : Bool)
    (stopped : Except ComputerError Unit) : Session :=
  (outcome (runCalls sha256 json inputs cleans stopped)
    ⟨.build displayIdentity evidence seed, []⟩).2

section Calls

variable {found after : ComputerToolHandler} {windowRef : String}
  {approval : Approval}

theorem approval_eq_some :
    found.approval windowRef = some approval ↔
      found.leases.lookup windowRef = some approval.lease ∧
        found.registry.lookup windowRef = some approval.binding := by
  unfold ComputerToolHandler.approval
  rw [Option.bind_eq_some_iff]
  constructor
  · rintro ⟨lease, leased, same⟩
    obtain ⟨binding, registered, rfl⟩ := Option.map_eq_some_iff.mp same
    exact ⟨leased, registered⟩
  · rintro ⟨leased, registered⟩
    exact ⟨_, leased, by rw [registered]; rfl⟩

theorem approval_of_unleased (unleased : found.leases = ∅) :
    found.approval windowRef = none := by
  simp [ComputerToolHandler.approval, unleased]

theorem approval_of_shrinks (shrinks : Shrinks found after)
    (isApproval : after.approval windowRef = some approval) :
    found.approval windowRef = some approval := by
  obtain ⟨leased, registered⟩ := approval_eq_some.mp isApproval
  have kept := shrinks windowRef _ leased
  exact approval_eq_some.mpr ⟨kept.1, kept.2 ▸ registered⟩

/-- The handler acts on no more than what is left of its approvals. -/
def Refines (event : Event) (before after : ComputerToolHandler) : Prop :=
  ∀ windowRef approval, after.approval windowRef = some approval →
    event.approvalAfter windowRef (before.approval windowRef) = some approval

/-- Less before an event leaves less after it. -/
theorem approvalAfter_mono {event : Event} {old other : Option Approval}
    (less : ∀ approval, old = some approval → other = some approval)
    (left : event.approvalAfter windowRef old = some approval) :
    event.approvalAfter windowRef other = some approval := by
  cases old with
  | some previous => rwa [less previous rfl]
  | none =>
      unfold Event.approvalAfter at left ⊢
      split at left <;> simp_all

theorem outcome_settle_ok {name : Option String} {call : HandlerM ToolResult}
    {result : ToolResult} (ran : outcome call found = (.ok result, after)) :
    outcome (settle name call) found = (.ok result, after) := by
  have tried : outcome (attempt call : CallM (Except ComputerError ToolResult))
      found = (.ok (.ok result), after) := by
    rw [outcome_attempt, ran]
  rw [settle, outcome_bind_ok tried]
  rfl

theorem outcome_settle_error {name : Option String}
    {call : HandlerM ToolResult} {error : ComputerError}
    (ran : outcome call found = (.error error, after)) :
    outcome (settle name call) found =
      (.error (.tool error), afterFailure name error after) := by
  have tried : outcome (attempt call : CallM (Except ComputerError ToolResult))
      found = (.ok (.error error), after) := by
    rw [outcome_attempt, ran]
  rw [settle, outcome_bind_ok tried]
  rfl

theorem allowsStart_permitted (binding : Option WindowBinding) :
    AllowsStart (Permitted binding) :=
  ⟨.inl rfl, .inr (.inl rfl)⟩

theorem newMessages_of_asked {allowed : String × Value → Prop}
    (asked : Asked allowed found after) :
    ∀ message ∈ newMessages found after, allowed message := by
  obtain ⟨messages, sent, each⟩ := asked
  have same : newMessages found after = messages := by
    simp [newMessages, sent]
  rw [same]
  exact each

/-- A failed call leaves no more than its event says. -/
theorem afterFailure_spec {allowed : String × Value → Prop} {tool : String}
    {input : Value} {error : ComputerError}
    (keeping : Keeping allowed found after) (turn : ObserveTurn)
    (binding : Option WindowBinding) (asked : List (String × Value)) :
    let ended := afterFailure (observeRef tool input) error after
    Consistent ended ∧ Asked allowed found ended ∧
      Refines (.executed tool input turn binding asked (.error (.tool error)))
        found ended := by
  intro ended
  by_cases fatal : error.isFatal = true
  · have clears : Keeping allowed found ended := by
      apply keeping.asked.keeping <;> simp [ended, afterFailure, fatal]
    refine ⟨clears.consistent, clears.asked, ?_⟩
    intro windowRef approval isApproval
    rw [approval_of_unleased (by simp [ended, afterFailure, fatal])]
      at isApproval
    cases isApproval
  · have leases : ended.leases = (observeRef tool input).elim after.leases
        after.leases.erase := by
      simp [ended, afterFailure, fatal]
    have registry : ended.registry = after.registry := by
      simp [ended, afterFailure, fatal]
    have fewer : ∀ windowRef lease,
        ended.leases.lookup windowRef = some lease →
        observeRef tool input ≠ some windowRef ∧
          after.leases.lookup windowRef = some lease := by
      intro windowRef lease found
      rw [leases] at found
      cases name : observeRef tool input with
      | none =>
          rw [name] at found
          exact ⟨by simp, found⟩
      | some other =>
          rw [name] at found
          obtain ⟨different, found⟩ :=
            FiniteMap.lookup_erase_eq_some_iff.mp found
          exact ⟨by simpa using Ne.symm different, found⟩
    refine ⟨⟨?_, ?_⟩, ?_, ?_⟩
    · intro windowRef lease leased
      rw [registry]
      exact keeping.consistent.leased _ _ (fewer _ _ leased).2
    · intro windowRef binding registered
      rw [registry] at registered
      have bound := keeping.consistent.bound _ _ registered
      simpa [ended, afterFailure, fatal] using bound
    · obtain ⟨calls, sent, each⟩ := keeping.asked
      exact ⟨calls, by simpa [ended, afterFailure, fatal] using sent, each⟩
    · intro windowRef approval isApproval
      obtain ⟨leased, registered⟩ := approval_eq_some.mp isApproval
      rw [registry] at registered
      have kept := fewer _ _ leased
      have before := approval_of_shrinks keeping.shrinks
        (approval_eq_some.mpr ⟨kept.2, registered⟩)
      rw [Event.approvalAfter, if_neg]
      · exact before
      · simp [fatal, kept.1]

/-- A call leaves the handler consistent, with no more approvals than its event
says and with no more written to the driver than is permitted; and what it
shows of a window is what the driver answered about it. -/
structure Executes (json : JsonWriter) (tool : String) (input : Value)
    (turn : ObserveTurn) (found : ComputerToolHandler)
    (result : Except HandlerError ToolResult) (after : ComputerToolHandler) : Prop where
  consistent : Consistent after
  refines : ∀ binding asked,
    Refines (.executed tool input turn binding asked result) found after
  asked : Asked
    (Permitted ((observedRef tool input).bind found.registry.lookup)) found
    after
  shows : ∀ shown look, result = .ok shown → tool = computerObserve →
    parseObserveInput input = .ok look →
      ∃ binding, found.registry.lookup look.windowRef = some binding ∧
        Observed json turn look found.evidence binding shown

theorem parseObserveInput_bound {input : Value} {look : ObserveInput}
    (parsed : parseObserveInput input = .ok look) :
    look.maxElements.getD defaultMaxElements ≤ maxElementsLimit := by
  unfold parseObserveInput at parsed
  split at parsed
  · cases parsed
  next look isRead =>
    split at parsed
    · cases parsed
    next accepted =>
      cases parsed
      simp only [Bool.or_eq_true, not_or] at accepted
      cases asked : look.maxElements with
      | none => decide
      | some limit =>
          have bounded := accepted.2
          rw [asked] at bounded
          simp at bounded
          exact bounded.2

theorem Executes.faithful {json : JsonWriter} {tool : String} {input : Value}
    {turn : ObserveTurn} {result : Except HandlerError ToolResult}
    (executes : Executes json tool input turn found result after)
    (asked : List (String × Value)) :
    Event.Shown json (.executed tool input turn
      ((observedRef tool input).bind found.registry.lookup) asked result) := by
  cases result with
  | error error => trivial
  | ok shown =>
      intro look isObserve parsed
      obtain ⟨binding, registered, observed⟩ :=
        executes.shows shown look rfl isObserve parsed
      have named : observedRef tool input = some look.windowRef := by
        rw [observedRef, if_pos isObserve, parsed]
        rfl
      obtain ⟨structured, items, kept, answers, areItems, few, areKept⟩ :=
        observed.elements
      refine ⟨binding, by rw [named]; exact registered, ⟨_, observed⟩,
        ⟨structured, items, kept, answers, areItems, few,
          few.trans (parseObserveInput_bound parsed), areKept⟩, ?_,
        observed.noVisualData, observed.fits⟩
      obtain ⟨structured, elements, kept, answers, accepted, fits, data⟩ :=
        observed.shown
      exact ⟨structured, elements, _, kept, answers, accepted, data,
        (keptCount_spec fits).2.2⟩

theorem executes_failed {json : JsonWriter} {tool : String} {input : Value}
    {error : ComputerError}
    (keeping : Keeping
      (Permitted ((observedRef tool input).bind found.registry.lookup)) found
      after) (turn : ObserveTurn) :
    Executes json tool input turn found (.error (.tool error))
      (afterFailure (observeRef tool input) error after) :=
  have spec := fun binding asked =>
    @afterFailure_spec _ _ _ tool input error keeping turn binding asked
  ⟨(spec none []).1, fun binding asked => (spec binding asked).2.2,
    (spec none []).2.1, fun _ _ isOk => nomatch isOk⟩

/-- A call that is refused before anything is done. -/
theorem executes_refused {json : JsonWriter} {tool : String} {input : Value}
    {error : HandlerError} (consistent : Consistent found) (turn : ObserveTurn)
    (leaves : ∀ binding asked old windowRef,
      (Event.executed tool input turn binding asked (.error error)).approvalAfter
        windowRef old = old) :
    Executes json tool input turn found (.error error)
      { found with cleaned := false } := by
  refine ⟨⟨consistent.leased, consistent.bound⟩, ?_, ⟨[], rfl, by simp⟩,
    fun _ _ isOk => nomatch isOk⟩
  intro binding asked windowRef approval isApproval
  rw [leaves]
  exact isApproval

/-- The lease that was used is the only one that changes. -/
theorem approval_useLease {windowRef : String} {now : Nat} (other : String) :
    (useLease windowRef now found).approval other =
      if other = windowRef then
        (found.approval other).map fun approval =>
          { approval with lease := { approval.lease with lastUsed := now } }
      else found.approval other := by
  unfold useLease ComputerToolHandler.approval
  cases leased : found.leases.lookup windowRef with
  | none =>
      split
      next same =>
        subst same
        simp [leased]
      next => rfl
  | some lease =>
      dsimp only [Option.elim]
      split
      next same =>
        subst same
        rw [AList.lookup_insert, leased]
        cases found.registry.lookup other <;> rfl
      next different => rw [AList.lookup_insert_ne different]

theorem consistent_useLease {windowRef : String} {now : Nat}
    (consistent : Consistent found) :
    Consistent (useLease windowRef now found) := by
  refine ⟨?_, consistent.bound⟩
  intro other lease leased
  unfold useLease at leased ⊢
  cases before : found.leases.lookup windowRef with
  | none =>
      rw [before] at leased
      exact consistent.leased other lease leased
  | some old =>
      rw [before] at leased
      rcases FiniteMap.lookup_insert_eq_some_iff.mp leased with
        ⟨rfl, _⟩ | ⟨_, leased⟩
      · exact consistent.leased _ old before
      · exact consistent.leased other lease leased

theorem execute_spec {sha256 : List UInt8 → List UInt8} {json : JsonWriter}
    (turn : ExecuteTurn) (callId : ToolCallId) (tool : String) (input : Value)
    (consistent : Consistent found) :
    Executes json tool input turn.observe found
      (outcome (execute sha256 json turn callId tool input) found).1
      (outcome (execute sha256 json turn callId tool input) found).2 := by
  have started : outcome (modify (fun handler : ComputerToolHandler =>
        { handler with cleaned := false }) : CallM Unit) found =
      (.ok (), { found with cleaned := false }) := rfl
  have consistent' : Consistent { found with cleaned := false } :=
    ⟨consistent.leased, consistent.bound⟩
  rw [execute, outcome_bind_ok started]
  by_cases isWindows : tool = computerWindows
  · have unnamed : observeRef tool input = none := by
      rw [observeRef, if_neg (by rw [isWindows]; decide)]
    rw [if_pos isWindows]
    cases parsed : parseWindowsInput input with
    | error text =>
        exact executes_refused consistent _ fun _ _ _ _ => rfl
    | ok =>
        have lists := @ensures_windows _ _ sha256 json
          (allowsStart_permitted _) turn.windows callId
          (.inr (.inr (.inl rfl))) _ (Keeping.refl (Permitted
            ((observedRef tool input).bind found.registry.lookup)) consistent')
        rcases ran : outcome (windows sha256 json turn.windows callId)
          { found with cleaned := false } with ⟨error | result, handler⟩
        · rw [ran] at lists
          have keeping := lists.2 error rfl
          have keeps : Keeping
              (Permitted ((observedRef tool input).bind found.registry.lookup))
              found handler :=
            ⟨keeping.consistent, keeping.shrinks, keeping.asked⟩
          dsimp only
          rw [outcome_settle_error ran, ← unnamed]
          exact executes_failed keeps _
        · rw [ran] at lists
          obtain ⟨keeping, unleased⟩ := lists.1 result rfl
          dsimp only
          rw [outcome_settle_ok ran]
          refine ⟨keeping.consistent, ?_, keeping.asked, ?_⟩
          · intro binding asked windowRef approval isApproval
            rw [approval_of_unleased unleased] at isApproval
            cases isApproval
          · intro _ _ _ isObserve
            exact absurd (isWindows.symm.trans isObserve) (by decide)
  · rw [if_neg isWindows]
    by_cases isObserve : tool = computerObserve
    · rw [if_pos isObserve]
      cases parsed : parseObserveInput input with
      | error error =>
          refine executes_refused consistent _ fun _ _ _ _ => ?_
          simp [Event.approvalAfter, inputParses, isObserve, parsed,
            Except.toBool]
      | ok look =>
          have named : observedRef tool input = some look.windowRef := by
            rw [observedRef, if_pos isObserve, parsed]
            rfl
          have looks := @ensures_observe
            (Permitted ((observedRef tool input).bind found.registry.lookup))
            { found with cleaned := false } json turn.observe callId look
            consistent' (.inr (.inr (.inl rfl)))
            (fun binding maxElements registered => .inr (.inr (.inr
              ⟨binding, maxElements, by rw [named]; exact registered, rfl⟩)))
            _ rfl
          rcases ran : outcome (observe json turn.observe callId look)
            { found with cleaned := false } with ⟨error | result, handler⟩
          · rw [ran] at looks
            have keeping := looks.2 error rfl
            have keeps : Keeping
                (Permitted
                  ((observedRef tool input).bind found.registry.lookup))
                found handler :=
              ⟨keeping.consistent, keeping.shrinks, keeping.asked⟩
            dsimp only
            rw [outcome_settle_error ran]
            exact executes_failed keeps _
          · rw [ran] at looks
            obtain ⟨binding, registered, observed, rfl⟩ := looks.1 result rfl
            dsimp only
            rw [outcome_settle_ok ran]
            refine ⟨?_, ?_, ?_, ?_⟩
            · exact consistent_useLease ⟨consistent.leased, consistent.bound⟩
            · intro _ asked windowRef approval isApproval
              rw [afterLook, approval_useLease] at isApproval
              rw [Event.approvalAfter, if_neg isWindows, named]
              by_cases same : windowRef = look.windowRef
              · rw [if_pos same] at isApproval
                rw [if_pos (by rw [same])]
                exact isApproval
              · rw [if_neg same] at isApproval
                rw [if_neg (by simpa using Ne.symm same)]
                exact isApproval
            · refine ⟨[toolRequest "get_window_state"
                (stateArguments binding.window
                  (look.maxElements.getD defaultMaxElements)),
                toolRequest "list_windows" listArguments], rfl, ?_⟩
              simp only [List.forall_mem_cons]
              exact ⟨.inr (.inr (.inr
                  ⟨binding, _, by rw [named]; exact registered, rfl⟩)),
                .inr (.inr (.inl rfl)), by simp⟩
            · rintro _ _ ⟨⟩ _ isParsed
              cases parsed.symm.trans isParsed
              exact ⟨binding, registered, observed⟩
    · rw [if_neg isObserve]
      have unnamed : observeRef tool input = none :=
        if_neg isObserve
      have failed : outcome (settle none (throw .disabled))
          { found with cleaned := false } =
          (.error (.tool .disabled), { found with cleaned := false }) := rfl
      rw [failed]
      apply executes_refused consistent
      intro binding asked old windowRef
      simp [Event.approvalAfter, ComputerError.isFatal, unnamed]

end Calls

/-- What is known of a run at any time. -/
structure Sound (json : JsonWriter) (session : Session) : Prop where
  consistent : Consistent session.handler
  approved : Approved session.history
  shown : ∀ event ∈ session.history, event.Shown json
  stands : ∀ windowRef approval,
    session.handler.approval windowRef = some approval →
      standing session.history windowRef = some approval

/-- The look of a call is permitted. -/
def Ready (json : JsonWriter) (call : ToolCall) (session : Session) : Prop :=
  Sound json session ∧ ∀ windowRef,
    observedRef call.tool.value call.input = some windowRef →
      ∃ approval, session.handler.approval windowRef = some approval ∧
        ∃ last ∈ session.history.head?, last.permits windowRef approval

theorem sound_build (json : JsonWriter) (displayIdentity : String)
    (evidence : DriverEvidence) (seed : List UInt8) :
    Sound json ⟨.build displayIdentity evidence seed, []⟩ := by
  refine ⟨consistent_build .., trivial, by simp, ?_⟩
  intro windowRef approval isApproval
  rw [approval_of_unleased rfl] at isApproval
  cases isApproval

section Steps

variable {json : JsonWriter} {handler after : ComputerToolHandler}
  {history : List Event}

/-- An event that is written down with what it leaves. -/
theorem Sound.step (sound : Sound json ⟨handler, history⟩) {event : Event}
    (consistent : Consistent after) (approved : event.Approved history)
    (shown : event.Shown json) (refines : Refines event handler after) :
    Sound json ⟨after, event :: history⟩ := by
  refine ⟨consistent, ⟨approved, sound.approved⟩,
    List.forall_mem_cons.mpr ⟨shown, sound.shown⟩, ?_⟩
  intro windowRef approval isApproval
  exact approvalAfter_mono (sound.stands windowRef)
    (refines windowRef approval isApproval)

/-- A handler without leases acts on no approval. -/
theorem refines_of_unleased {event : Event} (unleased : after.leases = ∅) :
    Refines event handler after := by
  intro windowRef approval isApproval
  rw [approval_of_unleased unleased] at isApproval
  cases isApproval

theorem consistent_of_unleased (consistent : Consistent handler)
    (unleased : after.leases = ∅) (registry : after.registry = handler.registry)
    (child : after.child = handler.child)
    (generation : after.generation = handler.generation)
    (display : after.displayIdentity = handler.displayIdentity) :
    Consistent after := by
  refine ⟨by simp [unleased], ?_⟩
  rw [registry, child, generation, display]
  exact consistent.bound

theorem consistent_of_unregistered (unleased : after.leases = ∅)
    (unregistered : after.registry = ∅) : Consistent after :=
  ⟨by simp [unleased], by simp [unregistered]⟩

/-- What a call does and what is written down of it. -/
theorem ensures_perform {Result : Type} {call : CallM Result}
    {event : ComputerToolHandler → ComputerToolHandler →
      Except HandlerError Result → Option Event}
    {before failed : Session → Prop} {returned : Result → Session → Prop}
    (returns : ∀ handler history reached result, before ⟨handler, history⟩ →
      outcome call handler = (.ok result, reached) →
      returned result
        ⟨reached, (event handler reached (.ok result)).toList ++ history⟩)
    (fails : ∀ handler history reached error, before ⟨handler, history⟩ →
      outcome call handler = (.error error, reached) →
      failed ⟨reached, (event handler reached (.error error)).toList ++ history⟩) :
    Ensures before (perform event call) returned failed := by
  rintro ⟨handler, history⟩ start
  rcases ran : outcome call handler with ⟨error | result, reached⟩
  · have ends := fails handler history reached error start ran
    have performed : outcome (perform event call) ⟨handler, history⟩ =
        (.error error, ⟨reached,
          (event handler reached (.error error)).toList ++ history⟩) := by
      unfold perform
      change (_, _) = _
      rw [ran]
    rw [performed]
    exact ⟨fun _ isOk => (nomatch isOk), fun _ _ => ends⟩
  · have ends := returns handler history reached result start ran
    have performed : outcome (perform event call) ⟨handler, history⟩ =
        (.ok result, ⟨reached,
          (event handler reached (.ok result)).toList ++ history⟩) := by
      unfold perform
      change (_, _) = _
      rw [ran]
    rw [performed]
    refine ⟨?_, fun _ isError => nomatch isError⟩
    rintro _ ⟨⟩
    exact ends

theorem allows_iff {now : Nat} {windowRef : String} :
    handler.allows now windowRef = true ↔
      ∃ approval, handler.approval windowRef = some approval ∧
        approval.lease.active now = true := by
  simp only [ComputerToolHandler.allows, Bool.and_eq_true, Option.any_eq_true,
    Option.isSome_iff_exists, approval_eq_some]
  constructor
  · rintro ⟨⟨lease, leased, active⟩, binding, registered⟩
    exact ⟨⟨binding, lease⟩, ⟨leased, registered⟩, active⟩
  · rintro ⟨approval, ⟨leased, registered⟩, active⟩
    exact ⟨⟨_, leased, active⟩, _, registered⟩

/-- A decision that changes nothing. -/
theorem Sound.undecided (sound : Sound json ⟨handler, history⟩) {call : ToolCall}
    {now : Nat} {decision : PolicyDecision}
    (unchanged : ∀ windowRef,
      observedRef call.tool.value call.input = some windowRef →
        decision = .allow) :
    Sound json ⟨handler, .decided call now decision :: history⟩ := by
  refine sound.step sound.consistent trivial trivial ?_
  intro windowRef approval isApproval
  rw [Event.approvalAfter, if_neg]
  · exact isApproval
  · rintro ⟨observed, refused⟩
    exact refused (unchanged windowRef observed)

theorem ensures_decideOn (call : ToolCall) (now : Nat) :
    Ensures (Sound json) (decideOn call now)
      (fun decision session => Sound json session ∧
        (decision = .allow → Ready json call session)) (Sound json) := by
  apply ensures_perform
  · intro handler history reached decision sound ran
    rw [policyDecision, outcome_bind_ok (rfl : outcome get handler = _)] at ran
    cases observed : observedRef call.tool.value call.input with
    | none =>
        rw [observed] at ran
        cases ran
        exact ⟨sound.undecided (by simp [observed]), fun isAllow =>
          nomatch isAllow⟩
    | some windowRef =>
        rw [observed] at ran
        dsimp only at ran
        split at ran
        next allowed =>
          cases ran
          have decided : Sound json
              ⟨handler, .decided call now .allow :: history⟩ :=
            sound.undecided fun _ _ => rfl
          refine ⟨decided, fun _ => ⟨decided, ?_⟩⟩
          intro other same
          cases observed.symm.trans same
          obtain ⟨approval, isApproval, active⟩ := allows_iff.mp allowed
          exact ⟨approval, isApproval, _, rfl, observed, rfl, active⟩
        next refused =>
          cases ran
          refine ⟨sound.step ?_ trivial trivial ?_, fun isAllow => nomatch isAllow⟩
          · refine ⟨?_, sound.consistent.bound⟩
            intro other lease leased
            exact sound.consistent.leased other lease
              (FiniteMap.lookup_erase_eq_some_iff.mp leased).2
          · intro other approval isApproval
            obtain ⟨leased, registered⟩ := approval_eq_some.mp isApproval
            obtain ⟨different, leased⟩ :=
              FiniteMap.lookup_erase_eq_some_iff.mp leased
            rw [Event.approvalAfter, if_neg]
            · exact approval_eq_some.mpr ⟨leased, registered⟩
            · rintro ⟨same, _⟩
              cases observed.symm.trans same
              exact different rfl
  · intro handler history reached error sound ran
    rw [policyDecision, outcome_bind_ok (rfl : outcome get handler = _)] at ran
    split at ran
    · cases ran
    · split at ran
      · cases ran
      · cases ran

theorem ensures_grant (call : ToolCall) (now : Nat) :
    Ensures (Sound json) (grant call now) (fun _ => Ready json call)
      (Sound json) := by
  apply ensures_perform
  · intro handler history reached result sound ran
    rw [approvalGranted] at ran
    split at ran
    next notObserve =>
      cases ran
      have unobserved : observedRef call.tool.value call.input = none :=
        if_neg notObserve
      refine ⟨sound.step sound.consistent trivial trivial ?_, by simp [unobserved]⟩
      intro windowRef approval isApproval
      rw [Event.approvalAfter, if_neg (by simp [unobserved])]
      exact isApproval
    next isObserve =>
      cases parsed : parseObserveInput call.input with
      | error error =>
          rw [parsed] at ran
          cases ran
      | ok input =>
          have observed : observedRef call.tool.value call.input =
              some input.windowRef := by
            rw [observedRef, if_pos (not_not.mp isObserve), parsed]
            rfl
          rw [parsed] at ran
          dsimp only at ran
          rw [outcome_bind_ok (rfl : outcome get handler = _)] at ran
          split at ran
          · cases ran
          next isRegistered =>
            cases ran
            have registered : ∃ binding,
                handler.registry.lookup input.windowRef = some binding := by
              simpa [Option.isNone_iff_eq_none, ← ne_eq,
                Option.ne_none_iff_exists'] using isRegistered
            obtain ⟨binding, registered⟩ := registered
            refine ⟨sound.step ?_ trivial trivial ?_, ?_⟩
            · refine ⟨?_, sound.consistent.bound⟩
              intro other lease leased
              rcases FiniteMap.lookup_insert_eq_some_iff.mp leased with
                ⟨rfl, _⟩ | ⟨_, leased⟩
              · exact ⟨binding, registered⟩
              · exact sound.consistent.leased other lease leased
            · intro other approval isApproval
              obtain ⟨leased, bound⟩ := approval_eq_some.mp isApproval
              rcases FiniteMap.lookup_insert_eq_some_iff.mp leased with
                ⟨rfl, same⟩ | ⟨different, leased⟩
              · rw [Event.approvalAfter, if_pos observed, observed]
                simp only [Option.bind_some, bound, Option.map_some, same]
              · rw [Event.approvalAfter, if_neg]
                · exact approval_eq_some.mpr ⟨leased, bound⟩
                · rw [observed, Option.some_inj]
                  exact Ne.symm different
            · intro other same
              cases observed.symm.trans same
              refine ⟨⟨binding, ⟨now, now⟩⟩, approval_eq_some.mpr ⟨?_, ?_⟩,
                _, rfl, observed, ?_⟩
              · exact AList.lookup_insert _
              · exact registered
              · rw [observed, Option.bind_some, registered]
  · intro handler history reached error sound ran
    rw [approvalGranted] at ran
    split at ran
    · cases ran
    · split at ran
      · cases ran
        exact sound
      · rw [outcome_bind_ok (rfl : outcome get handler = _)] at ran
        split at ran
        · cases ran
          exact sound
        · cases ran

theorem keeps_deny : Keeps (Sound json) deny := by
  apply ensures_perform
  · rintro handler history _ _ sound ⟨⟩
    exact sound.step (consistent_of_unleased sound.consistent rfl rfl rfl rfl rfl)
      trivial trivial (refines_of_unleased rfl)
  · rintro handler history _ _ _ ⟨⟩

/-- Nothing is registered and nothing is leased. -/
def Cleared (handler : ComputerToolHandler) : Prop :=
  handler.registry = ∅ ∧ handler.leases = ∅

theorem keeps_clean (stopped : Except ComputerError Unit) :
    Keeps (Sound json) (clean stopped) := by
  have steps : ∀ handler reached result,
      outcome (cleanup stopped) handler = (result, reached) →
      Consistent reached ∧ reached.leases = ∅ := by
    intro handler reached result ran
    have clears : Ensures (fun _ => True) (cleanup stopped)
        (fun _ handler => Cleared handler) Cleared := by
      have begins : Ensures (fun _ => True) (modify clearLeases : CallM Unit)
          (fun _ => Cleared) Cleared :=
        ensures_modify fun _ _ => ⟨rfl, rfl⟩
      apply ensures_bind begins
      intro _
      apply ensures_bind_get
      intro found cleared
      apply ensures_ite
      · exact fun _ => (keeps_pure ()).start cleared
      · intro _
        refine Ensures.start ?_ cleared
        refine keeps_bind (keeps_modify ?_) fun _ => ?_
        · exact fun _ cleared => cleared
        split
        · exact keeps_pure ()
        · exact keeps_ite (keeps_throw _) (keeps_pure ())
    have ends := clears handler trivial
    rw [ran] at ends
    have cleared : Cleared reached := by
      cases result with
      | ok value => exact ends.1 value rfl
      | error error => exact ends.2 error rfl
    exact ⟨consistent_of_unregistered cleared.2 cleared.1, cleared.2⟩
  apply ensures_perform
  · intro handler history reached result sound ran
    exact sound.step (steps _ _ _ ran).1 trivial trivial
      (refines_of_unleased (steps _ _ _ ran).2)
  · intro handler history reached error sound ran
    exact sound.step (steps _ _ _ ran).1 trivial trivial
      (refines_of_unleased (steps _ _ _ ran).2)

theorem ensures_dropHandler :
    Ensures (Sound json) dropHandler
      (fun _ session => Sound json session ∧ Cleared session.handler ∧
        session.handler.child = false) fun _ => False := by
  apply ensures_perform
  · rintro handler history _ _ sound ⟨⟩
    exact ⟨sound.step (consistent_of_unregistered rfl rfl) trivial trivial
      (refines_of_unleased rfl), ⟨rfl, rfl⟩, rfl⟩
  · rintro handler history _ _ _ ⟨⟩

variable {sha256 : List UInt8 → List UInt8}

theorem ensures_runTool (turn : ExecuteTurn) (call : ToolCall) :
    Ensures (Ready json call) (runTool sha256 json turn call)
      (fun _ => Sound json) (Sound json) := by
  have steps : ∀ handler history reached result,
      Ready json call ⟨handler, history⟩ →
      outcome (execute sha256 json turn call.id call.tool.value call.input)
        handler = (result, reached) →
      Sound json ⟨reached, .executed call.tool.value call.input turn.observe
        ((observedRef call.tool.value call.input).bind handler.registry.lookup)
        (newMessages handler reached) result :: history⟩ := by
    rintro handler history reached result ⟨sound, ready⟩ ran
    have spec := @execute_spec handler sha256 json turn call.id call.tool.value
      call.input sound.consistent
    rw [ran] at spec
    refine sound.step spec.consistent ⟨newMessages_of_asked spec.asked, ?_⟩
      (spec.faithful _) (spec.refines _ _)
    intro windowRef observed
    obtain ⟨approval, isApproval, permitted⟩ := ready windowRef observed
    refine ⟨approval, sound.stands _ _ isApproval, ?_, permitted⟩
    rw [observed]
    exact (approval_eq_some.mp isApproval).2
  apply ensures_perform
  · exact fun handler history reached result => steps handler history reached _
  · exact fun handler history reached error => steps handler history reached _

theorem ensures_startTool (input : CallInput) :
    Ensures (Ready json input.call) (startTool sha256 json input)
      (fun _ => Sound json) (Sound json) := by
  unfold startTool
  split
  · exact ensures_throw _ fun _ ready => ready.1
  · refine ensures_bind (ensures_attempt ?_) fun _ => keeps_pure ()
    exact (ensures_runTool _ _).weaken (fun _ ready => ready)
      (fun _ _ sound => sound) fun _ sound _ => sound

theorem keeps_grantAndStart (input : CallInput) :
    Keeps (Sound json) (grantAndStart sha256 json input) :=
  ensures_bind (ensures_grant _ _) fun _ => ensures_startTool input

theorem keeps_computerCall (input : CallInput) :
    Keeps (Sound json) (computerCall sha256 json input) := by
  apply ensures_bind (ensures_decideOn _ _)
  intro decision
  have sounds : ∀ {before : RunM Unit}, Keeps (Sound json) before →
      Ensures (fun session => Sound json session ∧
        (decision = .allow → Ready json input.call session)) before
        (fun _ => Sound json) (Sound json) :=
    fun keeps => keeps.weaken (fun _ known => known.1)
      (fun _ _ sound => sound) fun _ sound => sound
  cases decision with
  | allow =>
      exact (ensures_startTool input).weaken (fun _ known => known.2 rfl)
        (fun _ _ sound => sound) fun _ sound => sound
  | deny => exact sounds (keeps_pure ())
  | requireApproval =>
      apply sounds
      cases input.answer with
      | automatic => exact keeps_grantAndStart input
      | unavailable => exact keeps_deny
      | asked granted =>
          apply keeps_bind keeps_get
          intro session
          split
          · exact keeps_pure ()
          · exact keeps_ite (keeps_grantAndStart input) keeps_deny

theorem keeps_calls (inputs : List CallInput) :
    Keeps (Sound json) (inputs.forM (computerCall sha256 json)) := by
  induction inputs with
  | nil => exact keeps_pure ()
  | cons input rest ih =>
      exact keeps_bind (keeps_computerCall input) fun _ => ih

theorem ensures_runCalls (inputs : List CallInput) (cleans : Bool)
    (stopped : Except ComputerError Unit) :
    Ensures (Sound json) (runCalls sha256 json inputs cleans stopped)
      (fun _ session => Sound json session ∧ Cleared session.handler ∧
        session.handler.child = false) fun _ => False := by
  apply ensures_bind (keeps_calls inputs).tried
  intro _
  apply ensures_ite
  · intro _
    apply ensures_bind (keeps_clean stopped).tried
    exact fun _ => ensures_dropHandler
  · exact fun _ => ensures_dropHandler

/-- Every run comes to its end. -/
theorem sessionAfter_sound (sha256 : List UInt8 → List UInt8)
    (json : JsonWriter) (displayIdentity : String) (evidence : DriverEvidence)
    (seed : List UInt8) (inputs : List CallInput) (cleans : Bool)
    (stopped : Except ComputerError Unit) :
    let session := sessionAfter sha256 json displayIdentity evidence seed inputs
      cleans stopped
    Sound json session ∧ Cleared session.handler ∧
      session.handler.child = false := by
  have ends := @ensures_runCalls json sha256 inputs cleans stopped _
    (sound_build json displayIdentity evidence seed)
  rcases ran : (outcome (runCalls sha256 json inputs cleans stopped)
    ⟨.build displayIdentity evidence seed, []⟩).1 with error | result
  · exact (ends.2 error ran).elim
  · exact ends.1 result ran

end Steps

/-- In every run, each look into a window is permitted by an approval that
stands, nothing else is asked of the driver, and no lease outlives the run. -/
theorem sessionAfter_approved (sha256 : List UInt8 → List UInt8)
    (json : JsonWriter) (displayIdentity : String) (evidence : DriverEvidence)
    (seed : List UInt8) (inputs : List CallInput) (cleans : Bool)
    (stopped : Except ComputerError Unit) :
    Approved (sessionAfter sha256 json displayIdentity evidence seed inputs
        cleans stopped).history ∧
      Cleared (sessionAfter sha256 json displayIdentity evidence seed inputs
        cleans stopped).handler ∧
      (sessionAfter sha256 json displayIdentity evidence seed inputs
        cleans stopped).handler.child = false := by
  have ends := sessionAfter_sound sha256 json displayIdentity evidence seed
    inputs cleans stopped
  exact ⟨ends.1.approved, ends.2⟩

/-- In every run, what a look shows is faithful. -/
theorem sessionAfter_shown (sha256 : List UInt8 → List UInt8)
    (json : JsonWriter) (displayIdentity : String) (evidence : DriverEvidence)
    (seed : List UInt8) (inputs : List CallInput) (cleans : Bool)
    (stopped : Except ComputerError Unit) :
    ∀ event ∈ (sessionAfter sha256 json displayIdentity evidence seed inputs
      cleans stopped).history, event.Shown json :=
  (sessionAfter_sound sha256 json displayIdentity evidence seed inputs cleans
    stopped).1.shown

def lookNumber (value : UInt64) : Value :=
  .number (.posInt value)

def lookBounds : List (String × Value) :=
  [("height", lookNumber 4), ("width", lookNumber 3), ("x", lookNumber 0),
    ("y", lookNumber 0)]

def lookWindow : Value :=
  .object ([("app_name", .string "app"), ("bounds", .object lookBounds),
    ("is_on_screen", .bool true), ("pid", lookNumber 5),
    ("title", .string "title"), ("window_id", lookNumber 7),
    ("z_index", .null)] ++ lookBounds)

def lookAnswer (structured : Value) : Value :=
  .object [("content", .array []), ("structuredContent", structured)]

def lookStart : StartTurn where
  canceled := false
  executableSha256 := .ok "digest"
  spawned := .ok ()
  initialized := .ok (.object [
    ("capabilities", .object [("tools", .object [])]),
    ("protocolVersion", .string mcpProtocolVersion),
    ("serverInfo", .object [("name", .string "cua-driver"),
      ("version", .string driverVersion)])])
  notified := .ok ()
  canceledAfter := false

def lookList : CallTurn where
  start := lookStart
  canceled := false
  response := .ok (lookAnswer (.object [("windows", .array [lookWindow])]))

def lookState : CallTurn where
  start := lookStart
  canceled := false
  response := .ok (lookAnswer (.object [
    ("element_count", lookNumber 1),
    ("elements", .array [.object [("depth", lookNumber 1),
      ("element_index", lookNumber 0), ("role", .string "button")]]),
    ("pid", lookNumber 5), ("returned_element_count", lookNumber 1),
    ("total_element_count", lookNumber 1), ("window_id", lookNumber 7)]))

def lookTurn : ExecuteTurn where
  windows := ⟨false, lookList, fun _ _ => some ⟨"1", "app"⟩, fun _ => 0, false⟩
  observe := ⟨false, .ok "display", lookList, fun _ => some ⟨"1", "app"⟩,
    lookState, fun _ => 0, false, 20⟩

/-- The digest that the name of the window is made of. -/
def lookDigest : List UInt8 :=
  [122, 9, 147, 112, 60, 233, 220, 163, 98, 89, 16, 98, 32, 55, 116, 191, 140,
    72, 242, 120, 65, 160, 2, 17, 101, 179, 208, 66, 27, 132, 129, 9]

def lookCall (tool : ToolName) (input : Value) (time : Nat)
    (answer : ApprovalAnswer) : CallInput where
  call := ⟨⟨"call_look", by decide⟩, tool, .secretAccess, input⟩
  decidedAt := time
  answer := answer
  grantedAt := time
  interruption := none
  turn := lookTurn

def lookInputs : List CallInput :=
  [lookCall ⟨computerWindows, by decide⟩ (.object []) 0 .automatic,
    lookCall ⟨computerObserve, by decide⟩ (.object [("window_ref",
      .string (String.ofList (base64urlNoPad (lookDigest.take 24))))]) 10
      (.asked true)]

def lookSession : Session :=
  sessionAfter (fun _ => lookDigest) jsonTextWriter "display"
    ⟨driverVersion, "digest", "path", "x11"⟩ (.replicate 32 0) lookInputs true
    (.ok ())

def Event.isLook : Event → Bool
  | .executed tool _ _ _ _ (.ok _) => tool == computerObserve
  | _ => false

theorem sessionAfter_shown_look :
    ∃ event ∈ lookSession.history, event.isLook = true ∧
      event.Shown jsonTextWriter := by
  have looks : lookSession.history.any Event.isLook = true := by
    decide +kernel
  obtain ⟨event, member, isLook⟩ := List.any_eq_true.mp looks
  exact ⟨event, member, isLook, sessionAfter_shown (fun _ => lookDigest)
    jsonTextWriter "display" ⟨driverVersion, "digest", "path", "x11"⟩
    (.replicate 32 0) lookInputs true (.ok ()) event member⟩

end Computer

end PlatoAgent
