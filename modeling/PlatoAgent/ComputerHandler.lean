import PlatoAgent.ComputerReplies
import PlatoAgent.FiniteMap
import PlatoAgent.FramedBytes
import PlatoAgent.JsonText

/-!
# The windows that a run may look at

A run may list the windows of the desktop and look into one of them.  A listed
window has a name that is minted for it, and the name is bound to the process
and the driver that it was listed by.  To look into a window needs an approval,
and an approval lasts as long as the window's lease.
-/

namespace PlatoAgent

namespace Computer

open FallibleCall

def computerWindows : String := "computer.windows"

def computerObserve : String := "computer.observe"

def maxResultBytes : Nat := 64 * 1024 - 256

/-- Instants are nanoseconds. -/
def leaseIdle : Nat := 60 * 10 ^ 9

def leaseAbsolute : Nat := 5 * 60 * 10 ^ 9

structure DriverEvidence where
  version : String
  executableSha256 : String
  executablePathFingerprint : String
  displayKind : String
  deriving DecidableEq, Repr

def DriverEvidence.toJson (evidence : DriverEvidence) : Value :=
  .object [("display_kind", .string evidence.displayKind),
    ("driver_version", .string evidence.version),
    ("executable_path_fingerprint",
      .string evidence.executablePathFingerprint),
    ("executable_sha256", .string evidence.executableSha256)]

/-- When a process started, and a digest of its executable. -/
structure ProcessIdentity where
  processStart : String
  executableIdentity : String
  deriving DecidableEq, Repr

structure WindowBinding where
  generation : UInt64
  displayIdentity : String
  process : ProcessIdentity
  window : RawWindow
  deriving DecidableEq, Repr

structure ObserveLease where
  grantedAt : Nat
  lastUsed : Nat
  deriving DecidableEq, Repr

def ObserveLease.active (lease : ObserveLease) (now : Nat) : Bool :=
  now - lease.lastUsed ≤ leaseIdle && now - lease.grantedAt ≤ leaseAbsolute

structure ObserveInput where
  windowRef : String
  maxElements : Option Nat
  deriving DecidableEq, Repr

/-- The state of the handler; of the driver only whether it runs and what was
written to it, the methods and their parameters, last one first. -/
structure ComputerToolHandler where
  displayIdentity : String
  evidence : DriverEvidence
  seed : List UInt8
  tokenCounter : UInt64
  generation : UInt64
  child : Bool
  registry : FiniteMap String WindowBinding
  leases : FiniteMap String ObserveLease
  cleaned : Bool
  sent : List (String × Value)

/-- The handler of a run that begins. -/
def ComputerToolHandler.build (displayIdentity : String)
    (evidence : DriverEvidence) (seed : List UInt8) : ComputerToolHandler :=
  ⟨displayIdentity, evidence, seed, 0, 0, false, ∅, ∅, false, []⟩

abbrev HandlerM := ExceptT ComputerError (StateM ComputerToolHandler)

/-- The start of a driver. -/
structure StartTurn where
  canceled : Bool
  executableSha256 : Except ComputerError String
  spawned : Except ComputerError Unit
  initialized : Except ComputerError Value
  notified : Except ComputerError Unit
  canceledAfter : Bool

/-- A call of the driver, with its start when none runs. -/
structure CallTurn where
  start : StartTurn
  canceled : Bool
  response : Except ComputerError Value

structure WindowsTurn where
  canceled : Bool
  list : CallTurn
  /-- What is read of the process of each listed window. -/
  processIdentity : Nat → UInt32 → Option ProcessIdentity
  /-- Milliseconds since the call began, at each attempt to fit. -/
  elapsed : Nat → UInt64
  canceledAfter : Bool

structure ObserveTurn where
  canceled : Bool
  currentDisplay : Except ComputerError String
  list : CallTurn
  processIdentity : UInt32 → Option ProcessIdentity
  state : CallTurn
  elapsed : Nat → UInt64
  canceledAfter : Bool
  now : Nat

/-- Deriving `Deserialize` for a struct without fields. -/
def parseWindowsInput (input : Value) : Except String Unit :=
  (readStruct [] true false input).map fun _ => ()

def deserializeObserveInput (input : Value) : Except String ObserveInput := do
  let fields ← readStruct ["window_ref", "max_elements"] true false input
  let windowRef ← fields.required "window_ref" (expecting "a string" asStr)
  let maxElements ← fields.optional "max_elements" (expecting "usize" asU64)
  return ⟨windowRef, maxElements.map UInt64.toNat⟩

def isRefCharacter (character : Char) : Bool :=
  character.isAlphanum || character == '_' || character == '-'

def parseObserveInput (input : Value) : Except ComputerError ObserveInput :=
  match deserializeObserveInput input with
  | .error _ => .error .protocol
  | .ok input =>
      if input.windowRef = "" || 96 < input.windowRef.utf8ByteSize ||
          !input.windowRef.toList.all isRefCharacter ||
          input.maxElements.any fun value =>
            value < 1 || maxElementsLimit < value then
        .error .protocol
      else .ok input

/-- A window as the model sees it. -/
structure ShownWindow where
  windowRef : String
  app : String
  title : String
  bounds : Bounds
  focused : Bool
  deriving DecidableEq, Repr

def ShownWindow.toJson (window : ShownWindow) : Value :=
  .object [("app", .string window.app), ("bounds", window.bounds.toJson),
    ("focused", .bool window.focused), ("title", .string window.title),
    ("window_ref", .string window.windowRef)]

def count (value : Nat) : Value :=
  .number (.posInt (UInt64.ofNat value))

def windowsResult (windows : List ShownWindow) (totalVisible : Nat)
    (evidence : DriverEvidence) (elapsed : UInt64) : Value :=
  .object [("elapsed_ms", .number (.posInt elapsed)),
    ("host", evidence.toJson), ("returned", count windows.length),
    ("total_visible", count totalVisible),
    ("truncated", .bool (windows.length < totalVisible)),
    ("windows", .array (windows.map ShownWindow.toJson))]

def observationResult (windowRef : String) (elements : List Value)
    (available : Nat) (evidence : DriverEvidence) (elapsed : UInt64) : Value :=
  .object [("available", count available),
    ("elapsed_ms", .number (.posInt elapsed)),
    ("elements", .array elements), ("host", evidence.toJson),
    ("returned", count elements.length),
    ("truncated", .bool (elements.length < available)),
    ("window_ref", .string windowRef)]

def serializedLen (json : JsonWriter) (value : Value) : Nat :=
  (json.toVec value).length

def uniqueFrontmostZ (windows : List RawWindow) : Option Int64 :=
  match (windows.filterMap (·.zIndex)).max? with
  | some maximum =>
      if (windows.filter (·.zIndex == some maximum)).length = 1 then
        some maximum
      else none
  | none => none

/-- `Option::cmp`: nothing comes before something. -/
def compareZ : Option Int64 → Option Int64 → Ordering
  | none, none => .eq
  | none, some _ => .lt
  | some _, none => .gt
  | some first, some second => compare first second

/-- The order of a list of windows, the front first. -/
def compareWindows (left right : RawWindow) : Ordering :=
  (compareZ right.zIndex left.zIndex).then
    ((compare left.app right.app).then
      ((compare left.title right.title).then
        ((compare left.pid right.pid).then
          (compare left.windowId right.windowId))))

def base64Alphabet : List Char :=
  "ABCDEFGHIJKLMNOPQRSTUVWXYZabcdefghijklmnopqrstuvwxyz0123456789-_".toList

def base64Digit (value : Nat) : Char :=
  base64Alphabet.getD (value % 64) 'A'

def base64urlNoPad : List UInt8 → List Char
  | [] => []
  | [first] =>
      let value := first.toNat * 2 ^ 16
      [base64Digit (value / 2 ^ 18), base64Digit (value / 2 ^ 12)]
  | [first, second] =>
      let value := first.toNat * 2 ^ 16 + second.toNat * 2 ^ 8
      [base64Digit (value / 2 ^ 18), base64Digit (value / 2 ^ 12),
        base64Digit (value / 2 ^ 6)]
  | first :: second :: third :: rest =>
      let value := first.toNat * 2 ^ 16 + second.toNat * 2 ^ 8 + third.toNat
      base64Digit (value / 2 ^ 18) :: base64Digit (value / 2 ^ 12) ::
        base64Digit (value / 2 ^ 6) :: base64Digit value ::
        base64urlNoPad rest

/-- An outcome that is not of this state. -/
def liftExcept {Result : Type} (outcome : Except ComputerError Result) :
    HandlerM Result :=
  match outcome with
  | .ok result => pure result
  | .error error => throw error

def checkCancelFlag (canceled : Bool) : HandlerM Unit :=
  if canceled then throw .canceled else pure ()

/-- `ComputerToolHandler::stop_child`; how the driver ends is not read here. -/
def stopChild : HandlerM Unit :=
  modify fun handler =>
    { handler with registry := ∅, leases := ∅, child := false }

def revokeRef (windowRef : String) : HandlerM Unit :=
  modify fun handler =>
    { handler with
      registry := handler.registry.erase windowRef
      leases := handler.leases.erase windowRef }

def clearLeases (handler : ComputerToolHandler) : ComputerToolHandler :=
  { handler with registry := ∅, leases := ∅ }

/-- The number of the next driver. -/
def nextGeneration (generation : UInt64) : UInt64 :=
  max (generation + 1) 1

def initializeRequest : String × Value :=
  ("initialize", .object [("capabilities", .object []),
    ("clientInfo", .object [("name", .string "platonic"),
      ("version", .string "0.2.0")]),
    ("protocolVersion", .string mcpProtocolVersion)])

def initializedNotification : String × Value :=
  ("notifications/initialized", .object [])

def toolRequest (name : String) (arguments : Value) : String × Value :=
  ("tools/call",
    .object [("arguments", arguments), ("name", .string name)])

/-- The message is written to the driver. -/
def ComputerToolHandler.send (handler : ComputerToolHandler)
    (message : String × Value) : ComputerToolHandler :=
  { handler with sent := message :: handler.sent }

def ensureChild (turn : StartTurn) : HandlerM Unit := do
  let handler ← get
  if handler.child then pure ()
  else
    checkCancelFlag turn.canceled
    let digest ← liftExcept turn.executableSha256
    if digest ≠ handler.evidence.executableSha256 then
      throw .driverVersionMismatch
    else
      modify fun handler => clearLeases
        { handler with generation := nextGeneration handler.generation }
      liftExcept turn.spawned
      modify (·.send initializeRequest)
      let response ← liftExcept turn.initialized
      liftExcept (validateInitialize response)
      modify (·.send initializedNotification)
      liftExcept turn.notified
      checkCancelFlag turn.canceledAfter
      modify fun handler => { handler with child := true }

def request (message : String × Value)
    (response : Except ComputerError Value) : HandlerM Value := do
  let handler ← get
  if handler.child then
    modify (·.send message)
    liftExcept response
  else throw .driverStartFailed

def callTool (turn : CallTurn) (name : String) (arguments : Value) :
    HandlerM Value :=
  if name ∉ ["list_windows", "get_window_state"] then throw .protocol
  else do
    ensureChild turn.start
    checkCancelFlag turn.canceled
    let response ← attempt (request (toolRequest name arguments) turn.response)
    match response with
    | .ok response => liftExcept (parseToolResult response)
    | .error .permissionDenied => throw .permissionDenied
    | .error error => do
        stopChild
        throw error

/-- An answer that cannot be used ends the driver. -/
def orStop {Result : Type} (parsed : Except ComputerError Result) :
    HandlerM Result :=
  match parsed with
  | .ok result => pure result
  | .error error => do
      stopChild
      throw error

def listArguments : Value :=
  .object [("on_screen_only", .bool true)]

def listWindows (turn : CallTurn) : HandlerM (List RawWindow) := do
  let response ← callTool turn "list_windows" listArguments
  orStop (parseWindows response)

/-- The last item is dropped until the result fits. -/
def keptCount (json : JsonWriter) (data : Nat → Value) : Nat → Option Nat
  | 0 => if serializedLen json (data 0) ≤ maxResultBytes then some 0 else none
  | left + 1 =>
      if serializedLen json (data (left + 1)) ≤ maxResultBytes then
        some (left + 1)
      else keptCount json data left

section Minting

variable (sha256 : List UInt8 → List UInt8)

/-- What the name of a window is the digest of. -/
def refInput (seed : List UInt8) (generation tokenCounter : UInt64)
    (window : RawWindow) : List UInt8 :=
  "platonic-window-ref-v1\x00".toUTF8.toList ++ seed ++
    bigEndian 8 generation.toNat ++ bigEndian 8 tokenCounter.toNat ++
    bigEndian 4 window.pid.toNat ++ bigEndian 8 window.windowId.toNat

def refText (bytes : List UInt8) : String :=
  String.ofList (base64urlNoPad ((sha256 bytes).take 24))

def mintRef (window : RawWindow) : HandlerM String := do
  modify fun handler =>
    { handler with tokenCounter := handler.tokenCounter + 1 }
  let handler ← get
  return refText sha256
    (refInput handler.seed handler.generation handler.tokenCounter window)

/-- A window is listed under a new name when its process can be identified. -/
def showWindow (identity : Option ProcessIdentity) (focusedZ : Option Int64)
    (window : RawWindow) : HandlerM (Option ShownWindow) :=
  match identity with
  | none => pure none
  | some process => do
      let windowRef ← mintRef sha256 window
      modify fun handler =>
        { handler with
          registry := handler.registry.insert windowRef
            ⟨handler.generation, handler.displayIdentity, process, window⟩ }
      return some ⟨windowRef, window.app, window.title, window.bounds,
        focusedZ.any fun z => window.zIndex = some z⟩

def showWindows (processIdentity : Nat → UInt32 → Option ProcessIdentity)
    (focusedZ : Option Int64) :
    Nat → List RawWindow → HandlerM (List ShownWindow)
  | _, [] => pure []
  | index, window :: rest => do
      let shown ← showWindow sha256 (processIdentity index window.pid) focusedZ
        window
      let others ← showWindows processIdentity focusedZ (index + 1) rest
      return shown.toList ++ others

/-- The result with this number of windows. -/
def windowsData (elapsed : Nat → UInt64) (totalVisible : Nat)
    (visible : List ShownWindow) (evidence : DriverEvidence)
    (kept : Nat) : Value :=
  windowsResult (visible.take kept) totalVisible evidence
    (elapsed (visible.length - kept))

/-- The names of windows are forgotten, the last one first. -/
def forgetWindows (dropped : List ShownWindow)
    (handler : ComputerToolHandler) : ComputerToolHandler :=
  { handler with
    registry := dropped.foldr
      (fun window registry => registry.erase window.windowRef)
      handler.registry }

/-- The last windows are dropped until the result fits; the name of a window
that is dropped is forgotten. -/
def fitWindows (json : JsonWriter) (elapsed : Nat → UInt64)
    (totalVisible : Nat) (visible : List ShownWindow) :
    HandlerM (List ShownWindow × Value) := do
  let handler ← get
  let data := windowsData elapsed totalVisible visible handler.evidence
  match keptCount json data visible.length with
  | none => do
      modify (forgetWindows visible)
      throw .outputTooLarge
  | some kept => do
      modify (forgetWindows (visible.drop kept))
      return (visible.take kept, data kept)

def windows (json : JsonWriter) (turn : WindowsTurn) (callId : ToolCallId) :
    HandlerM ToolResult := do
  checkCancelFlag turn.canceled
  let listed ← listWindows turn.list
  let sorted := listed.mergeSort fun left right =>
    (compareWindows left right).isLE
  modify clearLeases
  let visible ← showWindows sha256 turn.processIdentity
    (uniqueFrontmostZ sorted) 0 (sorted.take maxWindows)
  let (shown, data) ← fitWindows json turn.elapsed sorted.length visible
  checkCancelFlag turn.canceledAfter
  return ⟨callId, s!"listed {shown.length} of {sorted.length} visible windows",
    data, [], .both⟩

end Minting

/-- The result with this number of elements. -/
def observationData (elapsed : Nat → UInt64) (windowRef : String)
    (elements : NormalizedElements) (evidence : DriverEvidence)
    (kept : Nat) : Value :=
  observationResult windowRef (elements.values.take kept) elements.available
    evidence (elapsed (elements.values.length - kept))

/-- The last elements are dropped until the result fits. -/
def fitElements (json : JsonWriter) (elapsed : Nat → UInt64)
    (windowRef : String) (elements : NormalizedElements) :
    HandlerM (List Value × Value) := do
  let handler ← get
  let data := observationData elapsed windowRef elements handler.evidence
  match keptCount json data elements.values.length with
  | none => do
      revokeRef windowRef
      throw .outputTooLarge
  | some kept => return (elements.values.take kept, data kept)

def stateArguments (window : RawWindow) (maxElements : Nat) : Value :=
  .object [("include_screenshot", .bool false),
    ("max_depth", .number (.posInt maxDepth)),
    ("max_elements", count maxElements),
    ("pid", .number (.posInt window.pid.toUInt64)),
    ("window_id", .number (.posInt window.windowId))]

/-- The window is still the one that was listed, and the only one. -/
def sameWindow (binding : WindowBinding) (listed : List RawWindow)
    (identity : Option ProcessIdentity) : Bool :=
  listed.filter (fun window => window.pid = binding.window.pid &&
    window.windowId = binding.window.windowId) = [binding.window] &&
    identity = some binding.process

/-- A look is a use of the lease, when there is one. -/
def useLease (windowRef : String) (now : Nat) (handler : ComputerToolHandler) :
    ComputerToolHandler :=
  { handler with
    leases := (handler.leases.lookup windowRef).elim handler.leases fun lease =>
      handler.leases.insert windowRef { lease with lastUsed := now } }

def observe (json : JsonWriter) (turn : ObserveTurn) (callId : ToolCallId)
    (input : ObserveInput) : HandlerM ToolResult := do
  checkCancelFlag turn.canceled
  let handler ← get
  match handler.registry.lookup input.windowRef with
  | none => throw .staleWindowRef
  | some binding =>
      if binding.generation ≠ handler.generation ∨
          binding.displayIdentity ≠ handler.displayIdentity ∨
          handler.child = false then do
        revokeRef input.windowRef
        throw .staleWindowRef
      else do
        let currentDisplay ← liftExcept turn.currentDisplay
        if currentDisplay ≠ binding.displayIdentity then do
          modify clearLeases
          throw .staleWindowRef
        else do
          let listed ← listWindows turn.list
          if !sameWindow binding listed
              (turn.processIdentity binding.window.pid) then do
            revokeRef input.windowRef
            throw .staleWindowRef
          else do
            let maxElements := input.maxElements.getD defaultMaxElements
            let response ← callTool turn.state "get_window_state"
              (stateArguments binding.window maxElements)
            let elements ← orStop (normalizeObservation response maxElements
              binding.window.pid binding.window.windowId)
            let (shown, data) ← fitElements json turn.elapsed input.windowRef
              elements
            checkCancelFlag turn.canceledAfter
            modify (useLease input.windowRef turn.now)
            return ⟨callId,
              s!"observed {shown.length} of {elements.available} semantic elements",
              data, [], .both⟩

/-- Only a registered window is leased, and a registered window was listed by
the driver that runs. -/
structure Consistent (handler : ComputerToolHandler) : Prop where
  leased : ∀ ref lease, handler.leases.lookup ref = some lease →
    ∃ binding, handler.registry.lookup ref = some binding
  bound : ∀ ref binding, handler.registry.lookup ref = some binding →
    handler.child = true ∧ binding.generation = handler.generation ∧
      binding.displayIdentity = handler.displayIdentity

/-- No lease is new, and the windows that are leased are the same. -/
def Shrinks (start handler : ComputerToolHandler) : Prop :=
  ∀ ref lease, handler.leases.lookup ref = some lease →
    start.leases.lookup ref = some lease ∧
      handler.registry.lookup ref = start.registry.lookup ref

/-- Only these messages were written to the driver. -/
def Asked (allowed : String × Value → Prop)
    (start handler : ComputerToolHandler) : Prop :=
  ∃ messages, handler.sent = messages ++ start.sent ∧
    ∀ message ∈ messages, allowed message

/-- The messages that start a driver. -/
def AllowsStart (allowed : String × Value → Prop) : Prop :=
  allowed initializeRequest ∧ allowed initializedNotification

/-- What a call keeps, up to its end or to its failure. -/
structure Keeping (allowed : String × Value → Prop)
    (start handler : ComputerToolHandler) : Prop where
  consistent : Consistent handler
  shrinks : Shrinks start handler
  asked : Asked allowed start handler

theorem consistent_build (displayIdentity : String) (evidence : DriverEvidence)
    (seed : List UInt8) :
    Consistent (.build displayIdentity evidence seed) := by
  constructor <;> simp [ComputerToolHandler.build]

theorem Shrinks.refl (handler : ComputerToolHandler) :
    Shrinks handler handler :=
  fun _ _ found => ⟨found, rfl⟩

theorem Asked.refl (allowed : String × Value → Prop)
    (handler : ComputerToolHandler) : Asked allowed handler handler :=
  ⟨[], rfl, by simp⟩

theorem Keeping.refl {handler : ComputerToolHandler}
    (allowed : String × Value → Prop) (consistent : Consistent handler) :
    Keeping allowed handler handler :=
  ⟨consistent, .refl _, .refl ..⟩

/-- Nothing is registered and nothing is leased any more. -/
theorem Asked.keeping {allowed : String × Value → Prop}
    {start handler other : ComputerToolHandler}
    (asked : Asked allowed start handler) (sent : other.sent = handler.sent)
    (registry : other.registry = ∅) (leases : other.leases = ∅) :
    Keeping allowed start other := by
  refine ⟨⟨?_, ?_⟩, ?_, ?_⟩
  · simp [leases]
  · simp [registry]
  · intro ref lease found
    simp [leases] at found
  · rw [Asked, sent]
    exact asked

/-- Whatever is known of the fields that these calls leave alone. -/
theorem Keeping.congr {allowed : String × Value → Prop}
    {start handler other : ComputerToolHandler}
    (keeping : Keeping allowed start handler)
    (registry : other.registry = handler.registry)
    (leases : other.leases = handler.leases)
    (generation : other.generation = handler.generation)
    (display : other.displayIdentity = handler.displayIdentity)
    (child : handler.child = true → other.child = true)
    (asked : Asked allowed start other) : Keeping allowed start other := by
  obtain ⟨⟨leased, bound⟩, shrinks, _⟩ := keeping
  refine ⟨⟨?_, ?_⟩, ?_, asked⟩
  · rw [registry, leases]
    exact leased
  · rw [registry, generation, display]
    exact fun ref binding found =>
      ⟨child (bound ref binding found).1, (bound ref binding found).2⟩
  · unfold Shrinks
    rw [registry, leases]
    exact shrinks

theorem Keeping.send {allowed : String × Value → Prop}
    {start handler : ComputerToolHandler} {message : String × Value}
    (keeping : Keeping allowed start handler) (isAllowed : allowed message) :
    Keeping allowed start (handler.send message) := by
  obtain ⟨messages, sent, each⟩ := keeping.asked
  refine keeping.congr rfl rfl rfl rfl id ⟨message :: messages, ?_, ?_⟩
  · simp [ComputerToolHandler.send, sent]
  · exact List.forall_mem_cons.mpr ⟨isAllowed, each⟩

section Keeps

variable {Result : Type} {invariant : ComputerToolHandler → Prop}
  {allowed : String × Value → Prop} {start : ComputerToolHandler}

theorem keeps_liftExcept (outcome : Except ComputerError Result) :
    Keeps invariant (liftExcept outcome) := by
  cases outcome with
  | error failure => exact keeps_throw failure
  | ok result => exact keeps_pure result

theorem keeps_checkCancelFlag (canceled : Bool) :
    Keeps invariant (checkCancelFlag canceled) :=
  keeps_ite (keeps_throw _) (keeps_pure _)

theorem keeping_revokeRef (windowRef : String) :
    Keeps (Keeping allowed start) (revokeRef windowRef) := by
  apply keeps_modify
  rintro handler ⟨⟨leased, bound⟩, shrinks, asked⟩
  refine ⟨⟨?_, ?_⟩, ?_, asked⟩
  · intro ref lease found
    obtain ⟨other, found⟩ := FiniteMap.lookup_erase_eq_some_iff.mp found
    obtain ⟨binding, registered⟩ := leased ref lease found
    exact ⟨binding, FiniteMap.lookup_erase_eq_some_iff.mpr
      ⟨other, registered⟩⟩
  · intro ref binding found
    exact bound ref binding (FiniteMap.lookup_erase_eq_some_iff.mp found).2
  · intro ref lease found
    obtain ⟨other, found⟩ := FiniteMap.lookup_erase_eq_some_iff.mp found
    have kept := shrinks ref lease found
    refine ⟨kept.1, ?_⟩
    dsimp only
    rw [AList.lookup_erase_ne other]
    exact kept.2

/-- A driver runs after its start, and a start forgets what was listed. -/
theorem ensures_ensureChild (starts : AllowsStart allowed) (turn : StartTurn) :
    Ensures (Keeping allowed start) (ensureChild turn)
      (fun _ handler => Keeping allowed start handler ∧ handler.child = true)
      (Keeping allowed start) := by
  apply ensures_bind_get
  intro found known
  apply ensures_ite
  · intro runs
    exact ensures_pure _ fun _ same => same ▸ ⟨known, runs⟩
  · intro _
    refine Ensures.start ?_ known
    apply ensures_bind (keeps_checkCancelFlag _)
    intro _
    apply ensures_bind (keeps_liftExcept _)
    intro digest
    apply ensures_ite
    · exact fun _ => ensures_throw _ fun _ known => known
    · intro _
      apply ensures_bind (keeps_modify fun _ known =>
        known.asked.keeping rfl rfl rfl)
      intro _
      apply ensures_bind (keeps_liftExcept _)
      intro _
      apply ensures_bind (keeps_modify fun _ known => known.send starts.1)
      intro _
      apply ensures_bind (keeps_liftExcept _)
      intro response
      apply ensures_bind (keeps_liftExcept _)
      intro _
      apply ensures_bind (keeps_modify fun _ known => known.send starts.2)
      intro _
      apply ensures_bind (keeps_liftExcept _)
      intro _
      apply ensures_bind (keeps_checkCancelFlag _)
      intro _
      apply ensures_modify
      exact fun handler keeping =>
        ⟨keeping.congr rfl rfl rfl rfl (fun _ => rfl) keeping.asked, rfl⟩

/-- What holds while a driver runs. -/
def Running (allowed : String × Value → Prop)
    (start handler : ComputerToolHandler) : Prop :=
  Keeping allowed start handler ∧ handler.child = true

theorem keeps_request {message : String × Value} (isAllowed : allowed message)
    (response : Except ComputerError Value) :
    Keeps (Running allowed start) (request message response) := by
  apply ensures_bind_get
  intro found known
  apply ensures_ite
  · intro _
    refine Ensures.start (keeps_bind (keeps_modify ?_) fun _ =>
      keeps_liftExcept _) known
    exact fun handler runs => ⟨runs.1.send isAllowed, runs.2⟩
  · exact fun _ => (keeps_throw _).start known

theorem ensures_stop {before : ComputerToolHandler → Prop}
    {after : Result → ComputerToolHandler → Prop}
    (known : ∀ handler, before handler → Keeping allowed start handler)
    (error : ComputerError) :
    Ensures before
      (do
        stopChild
        throw error)
      after (Keeping allowed start) := by
  apply ensures_bind (ensures_modify fun _ before => ?_)
  · exact fun _ => ensures_throw _ fun _ known => known
  · exact (known _ before).asked.keeping rfl rfl rfl

theorem ensures_callTool (starts : AllowsStart allowed) (turn : CallTurn)
    {name : String} {arguments : Value}
    (isAllowed : allowed (toolRequest name arguments)) :
    Ensures (Keeping allowed start) (callTool turn name arguments)
      (fun _ => Running allowed start) (Keeping allowed start) := by
  apply ensures_ite
  · exact fun _ => ensures_throw _ fun _ known => known
  · intro _
    apply ensures_bind (ensures_ensureChild starts _)
    intro _
    have runs : ∀ {Result : Type} {call : HandlerM Result}
        {after : Result → ComputerToolHandler → Prop},
        Ensures (Running allowed start) call after (Running allowed start) →
        Ensures (Running allowed start) call after (Keeping allowed start) :=
      fun ensures => ensures.weaken (fun _ holds => holds)
        (fun _ _ holds => holds) fun _ holds => holds.1
    apply ensures_bind (runs (keeps_checkCancelFlag _))
    intro _
    apply ensures_bind (runs (keeps_attempt (keeps_request isAllowed _)))
    rintro (error | response)
    · cases error with
      | permissionDenied => exact runs (keeps_throw _)
      | _ => exact ensures_stop (fun _ known => known.1) _
    · exact runs (keeps_liftExcept _)

theorem ensures_orStop (parsed : Except ComputerError Result) :
    Ensures (Running allowed start) (orStop parsed) (fun _ => Running allowed start)
      (Keeping allowed start) := by
  cases parsed with
  | ok result => exact ensures_pure _ fun _ known => known
  | error error => exact ensures_stop (fun _ known => known.1) error

theorem ensures_listWindows (starts : AllowsStart allowed) (turn : CallTurn)
    (isAllowed : allowed (toolRequest "list_windows" listArguments)) :
    Ensures (Keeping allowed start) (listWindows turn)
      (fun _ => Running allowed start) (Keeping allowed start) :=
  ensures_bind (ensures_callTool starts _ isAllowed) fun _ => ensures_orStop _

/-- A listing in progress: a driver runs and nothing is leased. -/
structure Listing (allowed : String × Value → Prop)
    (start handler : ComputerToolHandler) : Prop where
  consistent : Consistent handler
  runs : handler.child = true
  unleased : handler.leases = ∅
  asked : Asked allowed start handler

theorem Listing.keeping {handler : ComputerToolHandler}
    (listing : Listing allowed start handler) :
    Keeping allowed start handler := by
  refine ⟨listing.consistent, ?_, listing.asked⟩
  intro ref lease found
  simp [listing.unleased] at found

theorem keeps_showWindow {sha256 : List UInt8 → List UInt8}
    (identity : Option ProcessIdentity) (focusedZ : Option Int64)
    (window : RawWindow) :
    Keeps (Listing allowed start) (showWindow sha256 identity focusedZ window) := by
  cases identity with
  | none => exact keeps_pure _
  | some process =>
      refine keeps_bind (keeps_bind (keeps_modify ?_) fun _ =>
        keeps_bind keeps_get fun _ => keeps_pure _) fun ref =>
          keeps_bind (keeps_modify ?_) fun _ => keeps_pure _
      · exact fun handler listing =>
          ⟨⟨listing.consistent.leased, listing.consistent.bound⟩,
            listing.runs, listing.unleased, listing.asked⟩
      · rintro handler ⟨⟨leased, bound⟩, runs, none, asked⟩
        refine ⟨⟨?_, ?_⟩, runs, none, asked⟩
        · intro other lease found
          simp [none] at found
        · intro other binding found
          rcases FiniteMap.lookup_insert_eq_some_iff.mp found with
            ⟨_, rfl⟩ | ⟨_, before⟩
          · exact ⟨runs, rfl, rfl⟩
          · exact bound other binding before

theorem keeps_showWindows {sha256 : List UInt8 → List UInt8}
    (processIdentity : Nat → UInt32 → Option ProcessIdentity)
    (focusedZ : Option Int64) (index : Nat) (listed : List RawWindow) :
    Keeps (Listing allowed start)
      (showWindows sha256 processIdentity focusedZ index listed) := by
  induction listed generalizing index with
  | nil => exact keeps_pure _
  | cons window rest ih =>
      exact keeps_bind (keeps_showWindow _ _ _) fun _ =>
        keeps_bind (ih _) fun _ => keeps_pure _

/-- A name that is not among these is not forgotten with them. -/
theorem lookup_forgetWindows {dropped : List ShownWindow}
    {handler : ComputerToolHandler} {ref : String} {binding : WindowBinding} :
    (forgetWindows dropped handler).registry.lookup ref = some binding ↔
      ref ∉ dropped.map (·.windowRef) ∧
        handler.registry.lookup ref = some binding := by
  unfold forgetWindows
  dsimp only
  induction dropped with
  | nil => simp
  | cons window rest ih =>
      rw [List.foldr_cons, FiniteMap.lookup_erase_eq_some_iff, ih]
      simp [and_assoc]

theorem keeps_forgetWindows (dropped : List ShownWindow) :
    Keeps (Listing allowed start) (modify (forgetWindows dropped) : HandlerM Unit) := by
  apply keeps_modify
  rintro handler ⟨⟨leased, bound⟩, runs, none, asked⟩
  refine ⟨⟨?_, ?_⟩, runs, none, asked⟩
  · intro ref lease found
    simp [forgetWindows, none] at found
  · intro ref binding found
    exact bound ref binding (lookup_forgetWindows.mp found).2

theorem keeps_fitWindows (json : JsonWriter) (elapsed : Nat → UInt64)
    (totalVisible : Nat) (visible : List ShownWindow) :
    Keeps (Listing allowed start)
      (fitWindows json elapsed totalVisible visible) := by
  apply keeps_bind keeps_get
  intro handler
  dsimp only
  split
  · exact keeps_bind (keeps_forgetWindows _) fun _ => keeps_throw _
  · exact keeps_bind (keeps_forgetWindows _) fun _ => keeps_pure _

/-- After a list nothing is leased. -/
theorem ensures_windows {sha256 : List UInt8 → List UInt8} (json : JsonWriter)
    (starts : AllowsStart allowed) (turn : WindowsTurn) (callId : ToolCallId)
    (isAllowed : allowed (toolRequest "list_windows" listArguments)) :
    Ensures (Keeping allowed start) (windows sha256 json turn callId)
      (fun _ handler => Keeping allowed start handler ∧ handler.leases = ∅)
      (Keeping allowed start) := by
  apply ensures_bind (keeps_checkCancelFlag _)
  intro _
  apply ensures_bind (ensures_listWindows starts _ isAllowed)
  intro listed
  dsimp only
  have lists : ∀ {Result : Type} {call : HandlerM Result}
      {after : Result → ComputerToolHandler → Prop},
      Ensures (Listing allowed start) call after (Listing allowed start) →
      Ensures (Listing allowed start) call after (Keeping allowed start) :=
    fun ensures => ensures.weaken (fun _ holds => holds)
      (fun _ _ holds => holds) fun _ holds => holds.keeping
  have cleared : Ensures (Running allowed start) (modify clearLeases : HandlerM Unit)
      (fun _ => Listing allowed start) (Keeping allowed start) :=
    ensures_modify fun handler runs =>
      have clears : Keeping allowed start (clearLeases handler) :=
        runs.1.asked.keeping rfl rfl rfl
      ⟨clears.consistent, runs.2, rfl, clears.asked⟩
  apply ensures_bind cleared
  intro _
  apply ensures_bind (lists (keeps_showWindows _ _ _ _))
  intro visible
  apply ensures_bind (lists (keeps_fitWindows _ _ _ _))
  intro shown
  apply ensures_bind (lists (keeps_checkCancelFlag _))
  intro _
  exact ensures_pure _ fun _ listing => ⟨listing.keeping, listing.unleased⟩

/-- What a driver's answer says. -/
def answered (response : Except ComputerError Value) :
    Except ComputerError Value :=
  response >>= parseToolResult

section Exact

variable {found : ComputerToolHandler}

/-- A failure in a known state. -/
theorem ensures_of_found {failed : ComputerToolHandler → Prop}
    {call : HandlerM Result} {after : Result → ComputerToolHandler → Prop}
    (ensures : Ensures (fun handler => handler = found) call after
      fun handler => handler = found)
    (fails : failed found) :
    Ensures (fun handler => handler = found) call after failed :=
  ensures.weaken (fun _ same => same) (fun _ _ holds => holds)
    fun _ same => same ▸ fails

theorem ensures_liftExcept (outcome : Except ComputerError Result) :
    Ensures (fun handler => handler = found) (liftExcept outcome)
      (fun result handler => handler = found ∧ outcome = .ok result)
      fun handler => handler = found := by
  cases outcome with
  | error failure => exact ensures_throw _ fun _ same => same
  | ok result => exact ensures_pure _ fun _ same => ⟨same, rfl⟩

theorem ensures_request (runs : found.child = true) (message : String × Value)
    (response : Except ComputerError Value) :
    Ensures (fun handler => handler = found) (request message response)
      (fun result handler => handler = found.send message ∧
        response = .ok result)
      fun handler => handler = found.send message := by
  apply ensures_bind_get
  rintro found rfl
  apply ensures_ite
  · intro _
    have writes : Ensures (fun handler => handler = found)
        (modify (·.send message) : HandlerM Unit)
        (fun _ handler => handler = found.send message)
        fun handler => handler = found.send message :=
      ensures_modify fun _ same => same ▸ rfl
    exact ensures_bind writes fun _ => ensures_liftExcept response
  · exact fun stopped => absurd runs stopped

/-- A driver that runs is not started again. -/
theorem ensures_callTool_running (keeping : Keeping allowed start found)
    (runs : found.child = true) (turn : CallTurn) {name : String}
    {arguments : Value} (isAllowed : allowed (toolRequest name arguments)) :
    Ensures (fun handler => handler = found) (callTool turn name arguments)
      (fun result handler =>
        handler = found.send (toolRequest name arguments) ∧
          answered turn.response = .ok result)
      (Keeping allowed start) := by
  have sends : Keeping allowed start
      (found.send (toolRequest name arguments)) :=
    keeping.send isAllowed
  apply ensures_ite
  · exact fun _ => ensures_throw _ fun _ same => same ▸ keeping
  · intro _
    have started : Ensures (fun handler => handler = found)
        (ensureChild turn.start) (fun _ handler => handler = found)
        (Keeping allowed start) := by
      apply ensures_bind_get
      rintro _ rfl
      apply ensures_ite
      · exact fun _ => ensures_pure _ fun _ same => same
      · exact fun stopped => absurd runs stopped
    apply ensures_bind started
    intro _
    apply ensures_bind (ensures_of_found (keeps_checkCancelFlag _) keeping)
    intro _
    have asked : Ensures (fun handler => handler = found)
        (attempt (request (toolRequest name arguments) turn.response) :
          HandlerM (Except ComputerError Value))
        (fun result handler =>
          handler = found.send (toolRequest name arguments) ∧
            ∀ response, result = .ok response →
              turn.response = .ok response)
        (Keeping allowed start) := by
      apply ensures_attempt
      refine (ensures_request runs _ turn.response).weaken
        (fun _ same => same) ?_ ?_
      · rintro response handler ⟨same, reads⟩
        refine ⟨same, ?_⟩
        rintro _ ⟨⟩
        exact reads
      · exact fun handler same failure => ⟨same, fun _ isOk => nomatch isOk⟩
    apply ensures_bind asked
    rintro (error | response)
    · cases error with
      | permissionDenied => exact ensures_throw _ fun _ known => known.1 ▸ sends
      | _ => exact ensures_stop (fun _ known => known.1 ▸ sends) _
    · apply ensures_and
      intro reads
      refine (ensures_of_found (ensures_liftExcept _) sends).weaken
        (fun _ same => same) ?_ fun _ known => known
      rintro result handler ⟨same, parsed⟩
      refine ⟨same, ?_⟩
      rw [answered, reads response rfl]
      exact parsed

theorem ensures_orStop_exact (keeping : Keeping allowed start found)
    (parsed : Except ComputerError Result) :
    Ensures (fun handler => handler = found) (orStop parsed)
      (fun result handler => handler = found ∧ parsed = .ok result)
      (Keeping allowed start) := by
  cases parsed with
  | ok result => exact ensures_pure _ fun _ same => ⟨same, rfl⟩
  | error error => exact ensures_stop (fun _ same => same ▸ keeping) error

theorem ensures_listWindows_running (keeping : Keeping allowed start found)
    (runs : found.child = true) (turn : CallTurn)
    (isAllowed : allowed (toolRequest "list_windows" listArguments)) :
    Ensures (fun handler => handler = found) (listWindows turn)
      (fun listed handler =>
        handler = found.send (toolRequest "list_windows" listArguments) ∧
          answered turn.response >>= parseWindows = .ok listed)
      (Keeping allowed start) := by
  apply ensures_bind (ensures_callTool_running keeping runs turn isAllowed)
  intro response
  apply ensures_and
  intro answers
  refine (ensures_orStop_exact (keeping.send isAllowed) _).weaken (fun _ same => same) ?_
    fun _ known => known
  rintro listed handler ⟨same, parsed⟩
  refine ⟨same, ?_⟩
  rw [answers]
  exact parsed

theorem ensures_fitElements (json : JsonWriter)
    (keeping : Keeping allowed start found) (elapsed : Nat → UInt64)
    (windowRef : String) (elements : NormalizedElements) :
    Ensures (fun handler => handler = found)
      (fitElements json elapsed windowRef elements)
      (fun result handler => handler = found ∧ ∃ kept,
        keptCount json
            (observationData elapsed windowRef elements found.evidence)
            elements.values.length = some kept ∧
          result = (elements.values.take kept,
            observationData elapsed windowRef elements found.evidence kept))
      (Keeping allowed start) := by
  apply ensures_bind_get
  rintro found rfl
  dsimp only
  cases fits : keptCount json
      (observationData elapsed windowRef elements found.evidence)
      elements.values.length with
  | none =>
      refine Ensures.start (ensures_bind (keeping_revokeRef windowRef) ?_)
        keeping
      exact fun _ => ensures_throw _ fun _ known => known
  | some kept =>
      exact ensures_pure _ fun handler same => ⟨same, kept, rfl, rfl⟩

theorem keptCount_spec {json : JsonWriter} {data : Nat → Value}
    {limit kept : Nat} (fits : keptCount json data limit = some kept) :
    kept ≤ limit ∧ serializedLen json (data kept) ≤ maxResultBytes ∧
      ∀ more, kept < more → more ≤ limit →
        maxResultBytes < serializedLen json (data more) := by
  induction limit with
  | zero =>
      unfold keptCount at fits
      split at fits
      next small =>
        cases fits
        exact ⟨le_rfl, small, fun more above below => by omega⟩
      · cases fits
  | succ limit ih =>
      unfold keptCount at fits
      split at fits
      next small =>
        cases fits
        exact ⟨le_rfl, small, fun more above below => by omega⟩
      next large =>
        obtain ⟨below, small, others⟩ := ih fits
        refine ⟨by omega, small, fun more above most => ?_⟩
        rcases Nat.lt_or_ge limit more with last | earlier
        · obtain rfl : more = limit + 1 := by omega
          exact not_le.mp large
        · exact others more above earlier

theorem sameWindow_iff {binding : WindowBinding} {listed : List RawWindow}
    {identity : Option ProcessIdentity} :
    sameWindow binding listed identity = true ↔
      listed.filter (fun window => window.pid = binding.window.pid &&
        window.windowId = binding.window.windowId) = [binding.window] ∧
      identity = some binding.process := by
  simp [sameWindow]

/-- What a look into a window is: the window is the one that is registered, and
what is shown of it is as much as fits of what the driver answered. -/
structure Observed (json : JsonWriter) (turn : ObserveTurn)
    (input : ObserveInput) (evidence : DriverEvidence) (binding : WindowBinding)
    (result : ToolResult) : Prop where
  display : turn.currentDisplay = .ok binding.displayIdentity
  listed : ∃ windows,
    answered turn.list.response >>= parseWindows = .ok windows ∧
      windows.filter (fun window => window.pid = binding.window.pid &&
        window.windowId = binding.window.windowId) = [binding.window]
  process : turn.processIdentity binding.window.pid = some binding.process
  shown : ∃ structured elements kept,
    answered turn.state.response = .ok structured ∧
      normalizeObservation structured
        (input.maxElements.getD defaultMaxElements) binding.window.pid
        binding.window.windowId = .ok elements ∧
      keptCount json
        (observationData turn.elapsed input.windowRef elements evidence)
        elements.values.length = some kept ∧
      result.data = observationData turn.elapsed input.windowRef elements
        evidence kept

/-- The calls of a look, and the use of the lease. -/
def afterLook (turn : ObserveTurn) (input : ObserveInput) (window : RawWindow)
    (handler : ComputerToolHandler) : ComputerToolHandler :=
  useLease input.windowRef turn.now
    ((handler.send (toolRequest "list_windows" listArguments)).send
      (toolRequest "get_window_state"
        (stateArguments window (input.maxElements.getD defaultMaxElements))))

theorem ensures_observe (json : JsonWriter) (turn : ObserveTurn)
    (callId : ToolCallId) (input : ObserveInput) (consistent : Consistent found)
    (listAllowed : allowed (toolRequest "list_windows" listArguments))
    (stateAllowed : ∀ binding maxElements,
      found.registry.lookup input.windowRef = some binding →
        allowed (toolRequest "get_window_state"
          (stateArguments binding.window maxElements))) :
    Ensures (fun handler => handler = found) (observe json turn callId input)
      (fun result handler => ∃ binding,
        found.registry.lookup input.windowRef = some binding ∧
          Observed json turn input found.evidence binding result ∧
          handler = afterLook turn input binding.window found)
      (Keeping allowed found) := by
  have keeping : Keeping allowed found found := .refl allowed consistent
  apply ensures_bind (ensures_of_found (keeps_checkCancelFlag _) keeping)
  intro _
  apply ensures_bind_get
  rintro found rfl
  cases registered : found.registry.lookup input.windowRef with
  | none => exact ensures_throw _ fun _ same => same ▸ keeping
  | some binding =>
      have runs := (consistent.bound _ _ registered).1
      apply ensures_ite
      · intro _
        refine Ensures.start (ensures_bind (keeping_revokeRef _) ?_) keeping
        exact fun _ => ensures_throw _ fun _ known => known
      · intro _
        apply ensures_bind (ensures_of_found (ensures_liftExcept _) keeping)
        intro display
        apply ensures_and
        intro isDisplay
        apply ensures_ite
        · intro _
          refine Ensures.start (ensures_bind
            (keeps_modify fun _ known =>
              known.asked.keeping rfl rfl rfl) ?_) keeping
          exact fun _ => ensures_throw _ fun _ known => known
        · intro sameDisplay
          apply ensures_bind
            (ensures_listWindows_running keeping runs _ listAllowed)
          intro listed
          apply ensures_and
          intro isListed
          have sends : Keeping allowed found
              (found.send (toolRequest "list_windows" listArguments)) :=
            keeping.send listAllowed
          apply ensures_ite
          · intro _
            refine Ensures.start (ensures_bind (keeping_revokeRef _) ?_) sends
            exact fun _ => ensures_throw _ fun _ known => known
          · intro same
            dsimp only
            have isAllowed := stateAllowed binding
              (input.maxElements.getD defaultMaxElements) registered
            apply ensures_bind
              (ensures_callTool_running sends runs _ isAllowed)
            intro structured
            apply ensures_and
            intro answers
            have asks := sends.send isAllowed
            apply ensures_bind (ensures_orStop_exact asks _)
            intro elements
            apply ensures_and
            intro accepted
            apply ensures_bind (ensures_fitElements json asks _ _ _)
            rintro ⟨shown, data⟩
            apply ensures_and
            rintro ⟨kept, fits, result⟩
            apply ensures_bind
              (ensures_of_found (keeps_checkCancelFlag _) asks)
            intro _
            have used : Ensures
                (fun handler => handler =
                  (found.send (toolRequest "list_windows" listArguments)).send
                    (toolRequest "get_window_state"
                      (stateArguments binding.window
                        (input.maxElements.getD defaultMaxElements))))
                (modify (useLease input.windowRef turn.now) : HandlerM Unit)
                (fun _ handler => handler =
                  afterLook turn input binding.window found)
                (Keeping allowed found) :=
              ensures_modify fun _ same => same ▸ rfl
            apply ensures_bind used
            intro _
            apply ensures_pure
            intro handler after
            have matching := sameWindow_iff.mp (by simpa using same)
            refine ⟨binding, rfl, ⟨?_, ?_, ?_, ?_⟩, after⟩
            · rw [isDisplay, not_not.mp sameDisplay]
            · exact ⟨listed, isListed, matching.1⟩
            · exact matching.2
            · cases result
              exact ⟨structured, elements, kept, answers, accepted, fits, rfl⟩

end Exact

end Keeps

theorem DriverEvidence.noVisualData (evidence : DriverEvidence) :
    hasVisualData evidence.toJson = false := by
  apply hasVisualData_object
  simp only [List.forall_mem_cons, hasVisualData]
  decide +kernel

section Shown

variable {json : JsonWriter} {turn : ObserveTurn} {input : ObserveInput}
  {evidence : DriverEvidence} {binding : WindowBinding} {result : ToolResult}

theorem Observed.fits
    (observed : Observed json turn input evidence binding result) :
    serializedLen json result.data ≤ maxResultBytes := by
  obtain ⟨_, _, kept, _, _, fits, data⟩ := observed.shown
  rw [data]
  exact (keptCount_spec fits).2.1

/-- As many elements are shown as were asked for at most, and each is an element
of the driver's answer with the fields that are kept. -/
theorem Observed.elements
    (observed : Observed json turn input evidence binding result) :
    ∃ structured items kept, answered turn.state.response = .ok structured ∧
      structured.entry "elements" = some (.array items) ∧
      kept ≤ input.maxElements.getD defaultMaxElements ∧
      ∃ elements,
        result.data.entry "elements" = some (.array elements) ∧
        List.Forall₂ KeptElement (items.take kept) elements := by
  obtain ⟨structured, elements, kept, answers, accepted, fits, data⟩ :=
    observed.shown
  obtain ⟨_, _, items, areItems, _, areKept⟩ :=
    normalizeObservation_spec accepted
  have few := (keptCount_spec fits).1
  have count := areKept.length_eq
  rw [List.length_take] at count
  refine ⟨structured, items, kept, answers, areItems, by omega,
    elements.values.take kept, by rw [data]; rfl, ?_⟩
  have cut := List.forall₂_take kept areKept
  rwa [List.take_take, min_eq_left (by omega)] at cut

theorem keptElements_noVisualData {items values : List Value}
    (areKept : List.Forall₂ KeptElement items values) :
    ∀ value ∈ values, hasVisualData value = false := by
  induction areKept with
  | nil => simp
  | cons first _ ih => exact List.forall_mem_cons.mpr ⟨first.noVisualData, ih⟩

theorem Observed.noVisualData
    (observed : Observed json turn input evidence binding result) :
    hasVisualData result.data = false := by
  obtain ⟨_, elements, kept, _, accepted, _, data⟩ := observed.shown
  obtain ⟨_, _, items, _, _, areKept⟩ := normalizeObservation_spec accepted
  have harmless : itemsHaveVisualData (elements.values.take kept) = false := by
    rw [itemsHaveVisualData_eq, List.any_eq_false]
    intro value member
    simp [keptElements_noVisualData areKept value (List.mem_of_mem_take member)]
  rw [data]
  apply hasVisualData_object
  simp only [List.forall_mem_cons, hasVisualData, count, harmless,
    DriverEvidence.noVisualData]
  decide +kernel

end Shown

end Computer

end PlatoAgent
