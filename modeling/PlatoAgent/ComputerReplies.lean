import Mathlib
import PlatoAgent.FallibleCalls
import PlatoAgent.SerdeStructs
import PlatoAgent.Utf8Prefixes

/-!
# What the desktop driver answers

The driver is a program of its own, and nothing that it answers is taken over
as it is.  Every object may only have known fields, anything that looks like an
image is refused, and of the elements of a window only some fields are kept, cut
to a length.
-/

namespace PlatoAgent

namespace Computer

inductive ComputerError where
  | disabled | unsupportedPlatform | unsupportedDisplayServer | driverMissing
  | driverVersionMismatch | driverStartFailed | permissionDenied | noDisplay
  | protocol | outputTooLarge | unexpectedImage | staleWindowRef | timeout
  | canceled | cleanupFailed
  deriving DecidableEq, Repr

def ComputerError.code : ComputerError → String
  | .disabled => "computer_disabled"
  | .unsupportedPlatform => "computer_unsupported_platform"
  | .unsupportedDisplayServer => "computer_unsupported_display_server"
  | .driverMissing => "computer_driver_missing"
  | .driverVersionMismatch => "computer_driver_version_mismatch"
  | .driverStartFailed => "computer_driver_start_failed"
  | .permissionDenied => "computer_permission_denied"
  | .noDisplay => "computer_no_display"
  | .protocol => "computer_protocol_error"
  | .outputTooLarge => "computer_output_too_large"
  | .unexpectedImage => "computer_unexpected_image"
  | .staleWindowRef => "stale_window_ref"
  | .timeout => "computer_timeout"
  | .canceled => "computer_canceled"
  | .cleanupFailed => "computer_cleanup_failed"

def driverVersion : String := "0.19.3"

def mcpProtocolVersion : String := "2025-06-18"

def maxWindows : Nat := 200

def defaultMaxElements : Nat := 100

def maxElementsLimit : Nat := 200

def maxDepth : UInt64 := 32

def maxStringBytes : Nat := 1024

/-- `Value::as_str`. -/
def asStr : Value → Option String
  | .string text => some text
  | _ => none

/-- `Value::as_bool`. -/
def asBool : Value → Option Bool
  | .bool value => some value
  | _ => none

/-- `Value::as_u64`. -/
def asU64 : Value → Option UInt64
  | .number (.posInt value) => some value
  | _ => none

/-- `Value::as_i64`. -/
def asI64 : Value → Option Int64
  | .number (.posInt value) =>
      if value.toNat < 2 ^ 63 then some value.toInt64 else none
  | .number (.negInt value) => some value
  | _ => none

/-- `Value::as_array`. -/
def asArray : Value → Option (List Value)
  | .array items => some items
  | _ => none

/-- `ok_or(ComputerError::Protocol)`. -/
def orProtocol {Result : Type} : Option Result → Except ComputerError Result
  | some result => .ok result
  | none => .error .protocol

/-- An early return with this error. -/
def refuseIf (condition : Prop) [Decidable condition] (error : ComputerError) :
    Except ComputerError Unit :=
  if condition then .error error else .ok ()

/-- The field is missing, or it is read. -/
def isMissingOr {Result : Type} (value : Value) (field : String)
    (read : Value → Option Result) : Bool :=
  (value.entry field).all fun entry => (read entry).isSome

def strictObject (value : Value) (allowed : List String) :
    Except ComputerError Value :=
  match value with
  | .object entries =>
      if entries.any fun entry => entry.1 ∉ allowed then .error .protocol
      else .ok (.object entries)
  | _ => .error .protocol

def truncateUtf8 (value : String) (maxBytes : Nat) : String :=
  if value.utf8ByteSize ≤ maxBytes then value
  else String.ofList (Utf8.takeBytes value.toList
    (Utf8.boundaryBelow value.toList maxBytes))

/-- `str::contains`. -/
def containsText (needle : String) (text : String) : Bool :=
  text.toList.tails.any fun rest => needle.toList.isPrefixOf rest

/-- `str::to_ascii_lowercase`. -/
def toAsciiLowercase (text : String) : String :=
  String.ofList (text.toList.map Char.toLower)

def isVisualKey (key : String) : Bool :=
  let key := toAsciiLowercase key
  containsText "screenshot" key || key == "image" || key == "images" ||
    containsText "media" key

/- The test of `reject_visual_data`, following the structure. -/
mutual
def hasVisualData : Value → Bool
  | .object entries =>
      entries.any (fun entry => isVisualKey entry.1) ||
        (!entries.isEmpty && (entries.reverse.lookup "type").any fun value =>
          asStr value = some "image") ||
        entriesHaveVisualData entries
  | .array items => itemsHaveVisualData items
  | _ => false

def itemsHaveVisualData : List Value → Bool
  | [] => false
  | item :: rest => hasVisualData item || itemsHaveVisualData rest

def entriesHaveVisualData : List (String × Value) → Bool
  | [] => false
  | (_, value) :: rest => hasVisualData value || entriesHaveVisualData rest
end

def rejectVisualData (value : Value) : Except ComputerError Unit :=
  if hasVisualData value then .error .unexpectedImage else .ok ()

def permissionMessage (message : String) : Bool :=
  ["permission", "denied", "outside the bounded", "not authorized"].any
    fun needle => containsText needle (toAsciiLowercase message)

mutual
def valueMentionsPermission : Value → Bool
  | .string text => permissionMessage text
  | .array items => itemsMentionPermission items
  | .object entries => entriesMentionPermission entries
  | _ => false

def itemsMentionPermission : List Value → Bool
  | [] => false
  | item :: rest => valueMentionsPermission item || itemsMentionPermission rest

def entriesMentionPermission : List (String × Value) → Bool
  | [] => false
  | (_, value) :: rest =>
      valueMentionsPermission value || entriesMentionPermission rest
end

def validateInitialize (result : Value) : Except ComputerError Unit := do
  let result ← strictObject result
    ["protocolVersion", "capabilities", "serverInfo", "instructions"]
  refuseIf ((result.entry "protocolVersion").bind asStr ≠
    some mcpProtocolVersion) .protocol
  let capabilities ← strictObject
    (← orProtocol (result.entry "capabilities")) ["tools"]
  let tools ← strictObject (← orProtocol (capabilities.entry "tools")) []
  refuseIf (tools != .object []) .protocol
  let server ← strictObject (← orProtocol (result.entry "serverInfo"))
    ["name", "version"]
  refuseIf ((server.entry "name").bind asStr ≠ some "cua-driver" ∨
    (server.entry "version").bind asStr ≠ some driverVersion ∨
    !isMissingOr result "instructions" asStr) .driverVersionMismatch

/-- A text block of the content, without annotations. -/
def checkBlock (block : Value) : Except ComputerError Unit := do
  let block ← strictObject block ["type", "text", "annotations"]
  refuseIf ((block.entry "type").bind asStr ≠ some "text" ∨
    ((block.entry "text").bind asStr).isNone ∨
    (block.entry "annotations").any (· != .null)) .unexpectedImage

def parseToolResult (result : Value) : Except ComputerError Value := do
  rejectVisualData result
  let result ← strictObject result ["content", "isError", "structuredContent"]
  let content ← orProtocol ((result.entry "content").bind asArray)
  content.forM checkBlock
  refuseIf (!isMissingOr result "isError" asBool) .protocol
  let permission := content.any valueMentionsPermission ||
    (result.entry "structuredContent").any valueMentionsPermission
  refuseIf ((result.entry "isError").bind asBool = some true)
    (if permission then .permissionDenied else .protocol)
  orProtocol (result.entry "structuredContent")

structure Bounds where
  x : Int64
  y : Int64
  width : UInt64
  height : UInt64
  deriving DecidableEq, Repr

def parseBounds (value : Value) (width height : String) :
    Except ComputerError Bounds := do
  let bounds ← strictObject value ["x", "y", width, height]
  let x ← orProtocol ((bounds.entry "x").bind asI64)
  let y ← orProtocol ((bounds.entry "y").bind asI64)
  let width ← orProtocol ((bounds.entry width).bind asU64)
  let height ← orProtocol ((bounds.entry height).bind asU64)
  return ⟨x, y, width, height⟩

structure RawWindow where
  pid : UInt32
  windowId : UInt64
  app : String
  title : String
  bounds : Bounds
  zIndex : Option Int64
  deriving DecidableEq, Repr

/-- The fields of a window that the driver lists. -/
def windowFields : List String :=
  ["window_id", "pid", "app_name", "title", "bounds", "is_on_screen",
    "z_index", "x", "y", "width", "height"]

/-- `u32::try_from` and a test for zero. -/
def positivePid (value : UInt64) : Option UInt32 :=
  if 0 < value.toNat ∧ value.toNat < 2 ^ 32 then some value.toUInt32 else none

/-- A window of the list; one that is not shown is left out. -/
def parseWindow (value : Value) : Except ComputerError (Option RawWindow) := do
  let window ← strictObject value windowFields
  let bounds ← parseBounds (← orProtocol (window.entry "bounds")) "width"
    "height"
  refuseIf ((window.entry "x").bind asI64 ≠ some bounds.x ∨
    (window.entry "y").bind asI64 ≠ some bounds.y ∨
    (window.entry "width").bind asU64 ≠ some bounds.width ∨
    (window.entry "height").bind asU64 ≠ some bounds.height) .protocol
  let isOnScreen ← orProtocol ((window.entry "is_on_screen").bind asBool)
  let zIndex ← match window.entry "z_index" with
    | some .null => pure none
    | some value => (orProtocol (asI64 value)).map some
    | none => throw .protocol
  let app ← orProtocol ((window.entry "app_name").bind asStr)
  let title ← orProtocol ((window.entry "title").bind asStr)
  match ((window.entry "pid").bind asU64).bind positivePid,
      (window.entry "window_id").bind asU64 with
  | some pid, some windowId =>
      if isOnScreen ∧ 0 < bounds.width ∧ 0 < bounds.height ∧ 0 < windowId then
        return some ⟨pid, windowId, truncateUtf8 app maxStringBytes,
          truncateUtf8 title maxStringBytes, bounds, zIndex⟩
      else return none
  | _, _ => return none

def parseWindows (structured : Value) :
    Except ComputerError (List RawWindow) := do
  let structured ← strictObject structured ["windows"]
  let windows ← orProtocol ((structured.entry "windows").bind asArray)
  let parsed ← windows.mapM parseWindow
  return parsed.reduceOption

/-- `Map::insert`; the map keeps its keys in order. -/
def insertEntry (key : String) (value : Value) :
    List (String × Value) → List (String × Value)
  | [] => [(key, value)]
  | (other, present) :: rest =>
      if key < other then (key, value) :: (other, present) :: rest
      else if key = other then (key, value) :: rest
      else (other, present) :: insertEntry key value rest

/-- The map into which these entries are put one after the other. -/
def mapOf (entries : List (String × Value)) : List (String × Value) :=
  entries.foldl (fun map entry => insertEntry entry.1 entry.2 map) []

theorem mem_insertEntry {key : String} {value : Value}
    {entries : List (String × Value)} {entry : String × Value}
    (member : entry ∈ insertEntry key value entries) :
    entry = (key, value) ∨ entry ∈ entries := by
  induction entries with
  | nil => simpa [insertEntry] using member
  | cons first rest ih =>
      rw [insertEntry] at member
      split at member
      · simpa using member
      · split at member
        · rcases List.mem_cons.mp member with same | later
          · exact .inl same
          · exact .inr (List.mem_cons_of_mem _ later)
        · rcases List.mem_cons.mp member with same | later
          · exact .inr (by simp [same])
          · exact (ih later).imp id (List.mem_cons_of_mem _)

/-- A map has no entries but those that are put into it. -/
theorem mem_mapOf {entries : List (String × Value)} {entry : String × Value}
    (member : entry ∈ mapOf entries) : entry ∈ entries := by
  suffices loop : ∀ map : List (String × Value),
      entry ∈ entries.foldl
        (fun map entry => insertEntry entry.1 entry.2 map) map →
      entry ∈ map ∨ entry ∈ entries by
    simpa using loop [] member
  clear member
  induction entries with
  | nil => exact fun _ known => .inl known
  | cons first rest ih =>
      intro map known
      rcases ih _ known with present | later
      · rcases mem_insertEntry present with same | before
        · exact .inr (by simp [same])
        · exact .inl before
      · exact .inr (List.mem_cons_of_mem _ later)

theorem key_mem_insertEntry {key other : String} {value : Value}
    {entries : List (String × Value)}
    (member : other = key ∨ other ∈ entries.map (·.1)) :
    other ∈ (insertEntry key value entries).map (·.1) := by
  induction entries with
  | nil => simpa [insertEntry] using member
  | cons first rest ih =>
      rw [insertEntry]
      rw [List.map_cons, List.mem_cons] at member
      split
      · simpa using member
      · split
        next same =>
          simpa [same] using member
        next =>
          rw [List.map_cons, List.mem_cons]
          rcases member with here | first | later
          · exact .inr (ih (.inl here))
          · exact .inl first
          · exact .inr (ih (.inr later))

/-- A map has every key that is put into it. -/
theorem key_mem_mapOf {entries : List (String × Value)} {key : String}
    (member : key ∈ entries.map (·.1)) : key ∈ (mapOf entries).map (·.1) := by
  suffices loop : ∀ map : List (String × Value),
      key ∈ map.map (·.1) ∨ key ∈ entries.map (·.1) →
      key ∈ (entries.foldl
        (fun map entry => insertEntry entry.1 entry.2 map) map).map (·.1) from
    loop [] (.inr member)
  clear member
  induction entries with
  | nil => simp
  | cons first rest ih =>
      intro map known
      apply ih
      rw [List.map_cons, List.mem_cons] at known
      rcases known with before | here | later
      · exact .inl (key_mem_insertEntry (.inr before))
      · exact .inl (key_mem_insertEntry (.inl here))
      · exact .inr later

def signed (value : Int64) : Value :=
  if 0 ≤ value then .number (.posInt value.toUInt64)
  else .number (.negInt value)

def Bounds.toJson (bounds : Bounds) : Value :=
  .object [("height", .number (.posInt bounds.height)),
    ("width", .number (.posInt bounds.width)),
    ("x", signed bounds.x), ("y", signed bounds.y)]

/-- The fields of an element of a window. -/
def elementFields : List String :=
  ["element_index", "element_token", "in_web_content", "role", "name", "label",
    "value", "description", "enabled", "focused", "selected", "parent_index",
    "depth", "frame"]

/-- A field that is kept when the element has it. -/
def keepField (element : Value) (key : String)
    (keep : Value → Except ComputerError Value) (name : String) :
    Except ComputerError (List (String × Value)) :=
  match element.entry key with
  | some value => (keep value).map fun kept => [(name, kept)]
  | none => .ok []

def keepText (value : Value) : Except ComputerError Value :=
  (orProtocol (asStr value)).map fun text =>
    .string (truncateUtf8 text maxStringBytes)

def keepFlag (value : Value) : Except ComputerError Value :=
  (orProtocol (asBool value)).map .bool

def keepFrame (value : Value) : Except ComputerError Value :=
  (parseBounds value "w" "h").map Bounds.toJson

def normalizeElement (element : Value) : Except ComputerError Value := do
  let element ← strictObject element elementFields
  refuseIf (((element.entry "element_index").bind asU64).isNone ||
    !isMissingOr element "element_token" asStr ||
    !isMissingOr element "in_web_content" asBool ||
    !isMissingOr element "parent_index" asU64) .protocol
  let role ← orProtocol ((element.entry "role").bind asStr)
  let depth ← orProtocol ((element.entry "depth").bind asU64)
  refuseIf (maxDepth < depth) .protocol
  let texts ← ["name", "label", "value", "description"].mapM fun key =>
    keepField element key keepText key
  let flags ← ["enabled", "focused", "selected"].mapM fun key =>
    keepField element key keepFlag key
  let bounds ← keepField element "frame" keepFrame "bounds"
  return .object (mapOf
    ([("role", .string (truncateUtf8 role maxStringBytes))] ++ texts.flatten ++
      flags.flatten ++ [("depth", .number (.posInt depth))] ++ bounds))

structure NormalizedElements where
  values : List Value
  available : Nat
  deriving Repr

/-- The fields of an observation. -/
def observationFields : List String :=
  ["window_id", "pid", "element_count", "elements_complete", "tree_markdown",
    "total_element_count", "returned_element_count", "elements", "snapshot_id",
    "_note", "degraded", "degraded_reason", "escalation"]

def normalizeObservation (structured : Value) (maxElements : Nat)
    (expectedPid : UInt32) (expectedWindowId : UInt64) :
    Except ComputerError NormalizedElements := do
  rejectVisualData structured
  let structured ← strictObject structured observationFields
  refuseIf (["window_id", "pid", "element_count", "total_element_count",
    "returned_element_count"].any fun key =>
      ((structured.entry key).bind asU64).isNone) .protocol
  refuseIf ((structured.entry "pid").bind asU64 ≠ some expectedPid.toUInt64 ∨
    (structured.entry "window_id").bind asU64 ≠ some expectedWindowId) .protocol
  refuseIf (!isMissingOr structured "elements_complete" asBool ||
    !isMissingOr structured "tree_markdown" asStr ||
    !isMissingOr structured "snapshot_id" asStr ||
    !isMissingOr structured "_note" asStr ||
    !isMissingOr structured "degraded" asBool ||
    !isMissingOr structured "degraded_reason" asStr) .protocol
  let elements ← orProtocol ((structured.entry "elements").bind asArray)
  let returned ← orProtocol
    ((structured.entry "returned_element_count").bind asU64)
  let available ← orProtocol
    ((structured.entry "total_element_count").bind asU64)
  refuseIf (returned.toNat ≠ elements.length ∨ available < returned) .protocol
  let normalized ← (elements.take maxElements).mapM normalizeElement
  return ⟨normalized, available.toNat⟩

theorem refuseIf_eq_ok {condition : Prop} [Decidable condition]
    {error : ComputerError} (passes : refuseIf condition error = .ok ()) :
    ¬condition := by
  intro holds
  rw [refuseIf, if_pos holds] at passes
  cases passes

theorem orProtocol_eq_ok {Result : Type} {read : Option Result}
    {result : Result} (passes : orProtocol read = .ok result) :
    read = some result := by
  cases read with
  | none => cases passes
  | some value =>
      cases passes
      rfl

theorem exists_of_map_ok {First Second : Type} {change : First → Second}
    {read : Except ComputerError First} {result : Second}
    (returns : read.map change = .ok result) :
    ∃ first, read = .ok first ∧ change first = result := by
  cases read with
  | error failure => cases returns
  | ok first =>
      cases returns
      exact ⟨first, rfl, rfl⟩

theorem strictObject_eq_ok {value object : Value} {allowed : List String}
    (passes : strictObject value allowed = .ok object) : object = value := by
  unfold strictObject at passes
  split at passes
  · split at passes
    · cases passes
    · cases passes
      rfl
  · cases passes

/-- The longest start of a text within a number of bytes. -/
structure LongestStart (whole : String) (maxBytes : Nat) (shown : String) :
    Prop where
  isPrefix : shown.toList <+: whole.toList
  fits : shown.utf8ByteSize ≤ maxBytes
  longest : ∀ start, start <+: whole.toList →
    String.utf8Len start ≤ maxBytes → start <+: shown.toList

theorem truncateUtf8_spec (value : String) (maxBytes : Nat) :
    LongestStart value maxBytes (truncateUtf8 value maxBytes) := by
  unfold truncateUtf8
  split
  next fits => exact ⟨List.prefix_rfl, fits, fun _ isPrefix _ => isPrefix⟩
  next =>
    have below := Utf8.boundaryBelow_le value.toList maxBytes
    have size := Utf8.utf8Len_takeBytes_le value.toList
      (Utf8.boundaryBelow value.toList maxBytes)
    constructor
    · simpa using Utf8.takeBytes_isPrefix _ _
    · rw [String.utf8ByteSize_ofList]
      omega
    · intro start isPrefix fits
      simpa using Utf8.prefix_takeBytes_boundaryBelow isPrefix fits

/-- What may stand in the place of an element: texts cut to their length, flags,
a depth and bounds, each with the value that the driver sent. -/
inductive KeptEntry (element : Value) : String × Value → Prop
  | text {key whole shown : String}
      (known : key ∈ ["role", "name", "label", "value", "description"])
      (field : element.entry key = some (.string whole))
      (cut : LongestStart whole maxStringBytes shown) :
      KeptEntry element (key, .string shown)
  | flag {key : String} {value : Bool}
      (known : key ∈ ["enabled", "focused", "selected"])
      (field : element.entry key = some (.bool value)) :
      KeptEntry element (key, .bool value)
  | depth {value : UInt64}
      (field : element.entry "depth" = some (.number (.posInt value)))
      (fits : value ≤ maxDepth) :
      KeptEntry element ("depth", .number (.posInt value))
  | bounds {frame : Value} {bounds : Bounds}
      (field : element.entry "frame" = some frame)
      (isRead : parseBounds frame "w" "h" = .ok bounds) :
      KeptEntry element ("bounds", bounds.toJson)

/-- The fields that are handed on under their own names. -/
def keptNames : List String :=
  ["role", "name", "label", "value", "description", "enabled", "focused",
    "selected", "depth"]

/-- An element that is handed on: these entries, and none of them left out. -/
def KeptElement (element kept : Value) : Prop :=
  ∃ entries, kept = .object entries ∧
    (∀ entry ∈ entries, KeptEntry element entry) ∧
    (∀ key ∈ keptNames, (element.entry key).isSome →
      key ∈ entries.map (·.1)) ∧
    ((element.entry "frame").isSome → "bounds" ∈ entries.map (·.1))

theorem asStr_eq_some {value : Value} {text : String}
    (isText : asStr value = some text) : value = .string text := by
  cases value <;> simp_all [asStr]

theorem asBool_eq_some {value : Value} {flag : Bool}
    (isFlag : asBool value = some flag) : value = .bool flag := by
  cases value <;> simp_all [asBool]

theorem asU64_eq_some {value : Value} {number : UInt64}
    (isNumber : asU64 value = some number) :
    value = .number (.posInt number) := by
  unfold asU64 at isNumber
  split at isNumber
  · cases isNumber
    rfl
  · cases isNumber

theorem asArray_eq_some {value : Value} {items : List Value}
    (isArray : asArray value = some items) : value = .array items := by
  cases value <;> simp_all [asArray]

theorem keepField_entry {element : Value} {key name : String}
    {keep : Value → Except ComputerError Value}
    {fields : List (String × Value)} {entry : String × Value}
    (keeps : keepField element key keep name = .ok fields)
    (member : entry ∈ fields) :
    ∃ value, element.entry key = some value ∧ entry.1 = name ∧
      keep value = .ok entry.2 := by
  unfold keepField at keeps
  split at keeps
  next value field =>
    cases kept : keep value with
    | error failure =>
        rw [kept] at keeps
        cases keeps
    | ok result =>
        rw [kept] at keeps
        cases keeps
        obtain rfl := List.mem_singleton.mp member
        exact ⟨value, field, rfl, kept⟩
  · cases keeps
    cases member

theorem keepField_present {element : Value} {key name : String}
    {keep : Value → Except ComputerError Value}
    {fields : List (String × Value)}
    (keeps : keepField element key keep name = .ok fields)
    (present : (element.entry key).isSome) : name ∈ fields.map (·.1) := by
  unfold keepField at keeps
  split at keeps
  · obtain ⟨kept, _, same⟩ := exists_of_map_ok keeps
    simp [← same]
  next missing => simp [missing] at present

theorem keepFields_present {element : Value} {keys : List String}
    {keep : Value → Except ComputerError Value}
    {fields : List (List (String × Value))} {key : String}
    (keeps : keys.mapM (fun key => keepField element key keep key) =
      .ok fields) (known : key ∈ keys)
    (present : (element.entry key).isSome) :
    key ∈ fields.flatten.map (·.1) := by
  have each := FallibleCall.forall₂_of_mapM_ok keeps
  clear keeps
  induction each with
  | nil => cases known
  | cons first others ih =>
      rw [List.flatten_cons, List.map_append]
      rcases List.mem_cons.mp known with rfl | later
      · exact List.mem_append_left _ (keepField_present first present)
      · exact List.mem_append_right _ (ih later)

/-- One of several fields that are kept under their own names. -/
theorem keepFields_entry {element : Value} {keys : List String}
    {keep : Value → Except ComputerError Value}
    {fields : List (List (String × Value))} {entry : String × Value}
    (keeps : keys.mapM (fun key => keepField element key keep key) =
      .ok fields) (member : entry ∈ fields.flatten) :
    entry.1 ∈ keys ∧ ∃ value, element.entry entry.1 = some value ∧
      keep value = .ok entry.2 := by
  have each := FallibleCall.forall₂_of_mapM_ok keeps
  clear keeps
  induction each with
  | nil => cases member
  | cons first others ih =>
      rw [List.flatten_cons] at member
      rcases List.mem_append.mp member with here | later
      · obtain ⟨value, field, name, kept⟩ := keepField_entry first here
        rw [name]
        exact ⟨List.mem_cons_self, value, field, kept⟩
      · have found := ih later
        exact ⟨List.mem_cons_of_mem _ found.1, found.2⟩

theorem normalizeElement_kept {element kept : Value}
    (accepted : normalizeElement element = .ok kept) :
    KeptElement element kept := by
  unfold normalizeElement at accepted
  obtain ⟨_, strict, checks⟩ := FallibleCall.exists_of_bind_ok accepted
  obtain rfl := strictObject_eq_ok strict
  obtain ⟨_, _, reads⟩ := FallibleCall.exists_of_bind_ok checks
  obtain ⟨role, isRole, reads⟩ := FallibleCall.exists_of_bind_ok reads
  obtain ⟨depth, isDepth, reads⟩ := FallibleCall.exists_of_bind_ok reads
  obtain ⟨_, shallow, reads⟩ := FallibleCall.exists_of_bind_ok reads
  obtain ⟨texts, areTexts, reads⟩ := FallibleCall.exists_of_bind_ok reads
  obtain ⟨flags, areFlags, reads⟩ := FallibleCall.exists_of_bind_ok reads
  obtain ⟨bounds, areBounds, reads⟩ := FallibleCall.exists_of_bind_ok reads
  cases reads
  refine ⟨_, rfl, fun entry member => ?_, fun key known present => ?_,
    fun present => ?_⟩
  case refine_2 =>
    apply key_mem_mapOf
    simp only [List.map_append, List.mem_append]
    have names : key = "role" ∨
        key ∈ ["name", "label", "value", "description"] ∨
        key ∈ ["enabled", "focused", "selected"] ∨ key = "depth" := by
      simpa [keptNames, or_assoc] using known
    rcases names with rfl | text | flag | rfl
    · simp
    · have listed := keepFields_present areTexts text present
      simp only [listed, true_or, or_true]
    · have listed := keepFields_present areFlags flag present
      simp only [listed, true_or, or_true]
    · simp
  case refine_3 =>
    apply key_mem_mapOf
    simp only [List.map_append, List.mem_append]
    exact .inr (keepField_present areBounds present)
  have listed := mem_mapOf member
  simp only [List.mem_append, List.mem_singleton] at listed
  rcases listed with (((rfl | text) | flag) | rfl) | frame
  · obtain ⟨value, field, isText⟩ :=
      Option.bind_eq_some_iff.mp (orProtocol_eq_ok isRole)
    rw [asStr_eq_some isText] at field
    exact .text (by simp) field (truncateUtf8_spec role maxStringBytes)
  · obtain ⟨known, value, field, keeps⟩ := keepFields_entry areTexts text
    obtain ⟨key, kept⟩ := entry
    obtain ⟨whole, isText, same⟩ := exists_of_map_ok keeps
    rw [asStr_eq_some (orProtocol_eq_ok isText)] at field
    dsimp only at same
    rw [← same]
    exact .text (List.mem_cons_of_mem _ known) field
      (truncateUtf8_spec whole maxStringBytes)
  · obtain ⟨known, value, field, keeps⟩ := keepFields_entry areFlags flag
    obtain ⟨key, kept⟩ := entry
    obtain ⟨whole, isFlag, same⟩ := exists_of_map_ok keeps
    rw [asBool_eq_some (orProtocol_eq_ok isFlag)] at field
    dsimp only at same
    rw [← same]
    exact .flag known field
  · obtain ⟨value, field, isNumber⟩ :=
      Option.bind_eq_some_iff.mp (orProtocol_eq_ok isDepth)
    rw [asU64_eq_some isNumber] at field
    exact .depth field (UInt64.not_lt.mp (refuseIf_eq_ok shallow))
  · obtain ⟨value, field, name, keeps⟩ := keepField_entry areBounds frame
    obtain ⟨key, kept⟩ := entry
    obtain ⟨bounds, isRead, same⟩ := exists_of_map_ok keeps
    dsimp only at name same
    rw [name, ← same]
    exact .bounds field isRead

theorem entriesHaveVisualData_eq (entries : List (String × Value)) :
    entriesHaveVisualData entries =
      entries.any fun entry => hasVisualData entry.2 := by
  induction entries with
  | nil => rfl
  | cons entry rest ih => rw [entriesHaveVisualData, ih, List.any_cons]

theorem itemsHaveVisualData_eq (items : List Value) :
    itemsHaveVisualData items = items.any hasVisualData := by
  induction items with
  | nil => rfl
  | cons item rest ih => rw [itemsHaveVisualData, ih, List.any_cons]

/-- An object of harmless fields without a type is harmless. -/
theorem hasVisualData_object {entries : List (String × Value)}
    (each : ∀ entry ∈ entries, isVisualKey entry.1 = false ∧
      entry.1 ≠ "type" ∧ hasVisualData entry.2 = false) :
    hasVisualData (.object entries) = false := by
  have keys : entries.any (fun entry => isVisualKey entry.1) = false := by
    rw [List.any_eq_false]
    exact fun entry member => by simp [(each entry member).1]
  have values : entriesHaveVisualData entries = false := by
    rw [entriesHaveVisualData_eq, List.any_eq_false]
    exact fun entry member => by simp [(each entry member).2.2]
  have untyped : entries.reverse.lookup "type" = none := by
    apply List.lookup_eq_none_iff.mpr
    intro entry member
    have other := (each entry (List.mem_reverse.mp member)).2.1
    simpa using Ne.symm other
  rw [hasVisualData, keys, values, untyped]
  simp

theorem Bounds.noVisualData (bounds : Bounds) :
    hasVisualData bounds.toJson = false := by
  apply hasVisualData_object
  have number : ∀ value, hasVisualData (signed value) = false := by
    intro value
    unfold signed
    split <;> rfl
  simp only [List.forall_mem_cons, number, hasVisualData]
  decide +kernel

/-- What is handed on holds no visual data. -/
theorem KeptElement.noVisualData {element kept : Value}
    (isKept : KeptElement element kept) : hasVisualData kept = false := by
  obtain ⟨entries, rfl, each, _⟩ := isKept
  apply hasVisualData_object
  intro entry member
  have harmless : ∀ key ∈ ["role", "name", "label", "value", "description",
      "enabled", "focused", "selected", "depth", "bounds"],
      isVisualKey key = false ∧ key ≠ "type" := by decide +kernel
  cases each entry member with
  | text known =>
      have key := harmless _ (List.mem_append_left _ known)
      exact ⟨key.1, key.2, rfl⟩
  | flag known =>
      have key := harmless _ (List.mem_append_right
        ["role", "name", "label", "value", "description"]
        (List.mem_append_left ["depth", "bounds"] known))
      exact ⟨key.1, key.2, rfl⟩
  | depth =>
      have key := harmless "depth" (by simp)
      exact ⟨key.1, key.2, rfl⟩
  | bounds =>
      have key := harmless "bounds" (by simp)
      exact ⟨key.1, key.2, Bounds.noVisualData _⟩

theorem normalizeObservation_spec {structured : Value} {maxElements : Nat}
    {pid : UInt32} {windowId : UInt64} {elements : NormalizedElements}
    (accepted : normalizeObservation structured maxElements pid windowId =
      .ok elements) :
    structured.entry "pid" = some (.number (.posInt pid.toUInt64)) ∧
      structured.entry "window_id" = some (.number (.posInt windowId)) ∧
      ∃ items, structured.entry "elements" = some (.array items) ∧
        items.length ≤ elements.available ∧
        List.Forall₂ KeptElement (items.take maxElements) elements.values := by
  unfold normalizeObservation at accepted
  obtain ⟨_, _, plain⟩ := FallibleCall.exists_of_bind_ok accepted
  obtain ⟨_, strict, checks⟩ := FallibleCall.exists_of_bind_ok plain
  obtain rfl := strictObject_eq_ok strict
  obtain ⟨_, _, reads⟩ := FallibleCall.exists_of_bind_ok checks
  obtain ⟨_, expected, reads⟩ := FallibleCall.exists_of_bind_ok reads
  obtain ⟨_, _, reads⟩ := FallibleCall.exists_of_bind_ok reads
  obtain ⟨items, areItems, reads⟩ := FallibleCall.exists_of_bind_ok reads
  obtain ⟨returned, _, reads⟩ := FallibleCall.exists_of_bind_ok reads
  obtain ⟨available, _, reads⟩ := FallibleCall.exists_of_bind_ok reads
  obtain ⟨_, counted, reads⟩ := FallibleCall.exists_of_bind_ok reads
  obtain ⟨normalized, areKept, reads⟩ := FallibleCall.exists_of_bind_ok reads
  cases reads
  have matching := not_or.mp (refuseIf_eq_ok expected)
  obtain ⟨pidValue, isPid, readsPid⟩ :=
    Option.bind_eq_some_iff.mp (not_not.mp matching.1)
  obtain ⟨idValue, isId, readsId⟩ :=
    Option.bind_eq_some_iff.mp (not_not.mp matching.2)
  obtain ⟨listed, isListed, readsItems⟩ :=
    Option.bind_eq_some_iff.mp (orProtocol_eq_ok areItems)
  rw [asU64_eq_some readsPid] at isPid
  rw [asU64_eq_some readsId] at isId
  rw [asArray_eq_some readsItems] at isListed
  have counts := not_or.mp (refuseIf_eq_ok counted)
  have count := not_not.mp counts.1
  have enough := UInt64.le_iff_toNat_le.mp (UInt64.not_lt.mp counts.2)
  refine ⟨isPid, isId, items, isListed, by dsimp only; omega, ?_⟩
  exact (FallibleCall.forall₂_of_mapM_ok areKept).imp
    fun _ _ accepted => normalizeElement_kept accepted

end Computer

end PlatoAgent
