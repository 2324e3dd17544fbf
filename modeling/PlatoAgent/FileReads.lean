import PlatoAgent.FileTools

/-!
# The content of a file

A file is read up to a limit and a few bytes more, so that the last character
before the limit is whole.  What is shown of it ends before the limit.
-/

namespace PlatoAgent

namespace FileTools

open PathWalk

def maxReadBytes : Nat := 64 * 1024

def readUtf8LookaheadBytes : Nat := 4

def fileContent : Option (Entry String (List UInt8)) →
    Except FileError (List UInt8)
  | some (.file content) => .ok content
  | _ => .error .io

/-- `read_utf8_prefix`: bytes that are not a text are refused, unless the buffer
cuts a character behind the limit. -/
def readUtf8Prefix (content : List UInt8) : Except FileError (List Char) :=
  let bytes := content.take (maxReadBytes + readUtf8LookaheadBytes)
  let (text, rest) := Utf8.decode bytes.length bytes
  if rest = [] then .ok text
  else if maxReadBytes + readUtf8LookaheadBytes < content.length ∧
      Utf8.endsInside rest ∧ maxReadBytes ≤ bytes.length - rest.length then
    .ok text
  else .error .io

/-- `str::char_indices`, from an index on. -/
def charIndices (index : Nat) : List Char → List Nat
  | [] => []
  | character :: rest =>
      index :: charIndices (index + character.utf8Size) rest

/-- The last index of a character up to a limit. -/
def lastIndex (index : Nat) (text : List Char) (maxBytes : Nat) : Nat :=
  ((charIndices index text).takeWhile (· ≤ maxBytes)).getLast?.getD 0

def truncateUtf8 (content : List Char) (maxBytes : Nat) : List Char :=
  if String.utf8Len content ≤ maxBytes then content
  else Utf8.takeBytes content (lastIndex 0 content maxBytes)

def readResult (callId : ToolCallId) (path : String) (visible : List Char)
    (bytes : Nat) : ToolResult where
  callId := callId
  summary := s!"read {bytes} bytes from {path}"
  data := .object [("bytes", .number (.posInt (UInt64.ofNat bytes))),
    ("content", .string (String.ofList visible)), ("path", .string path),
    ("truncated", .bool (maxReadBytes < bytes))]
  artifacts := []
  visibility := .both

/-- Whether a file can be opened, asked for its size and read. -/
structure ReadTurn where
  opens : Bool
  sizes : Bool
  reads : Bool

def ReadTurn.succeeds (turn : ReadTurn) : Bool :=
  turn.opens && turn.sizes && turn.reads

def readFile (disk : Disk) (turn : ReadTurn) (workspaceRoot : Path String)
    (callId : ToolCallId) (input : Value) : Except FileError ToolResult := do
  let path ← (parsePathInput input).mapError .json
  let place ← resolveExistingPath disk workspaceRoot path
  refuseIf (!turn.opens) .io
  refuseIf (!turn.sizes) .io
  let content ← fileContent (disk.tree place)
  refuseIf (!turn.reads) .io
  let text ← readUtf8Prefix content
  return readResult callId path (truncateUtf8 text maxReadBytes) content.length

def FitsBytes (maxBytes : Nat) (text : List Char) : Prop :=
  String.utf8Len text ≤ maxBytes

/-- Before the last index up to a limit stands the longest start that fits. -/
theorem lastIndex_spec (index : Nat) (text : List Char) {maxBytes : Nat}
    (below : index ≤ maxBytes) (above : maxBytes < index + String.utf8Len text) :
    ∃ start, start <+: text ∧
      lastIndex index text maxBytes = index + String.utf8Len start ∧
      index + String.utf8Len start ≤ maxBytes ∧
      ∀ other, other <+: text → index + String.utf8Len other ≤ maxBytes →
        other <+: start := by
  induction text generalizing index with
  | nil =>
      simp at above
      omega
  | cons character rest ih =>
      rw [String.utf8Len_cons] at above
      by_cases inside : index + character.utf8Size ≤ maxBytes
      · obtain ⟨start, isPrefix, isLast, fits, longest⟩ :=
          ih (index + character.utf8Size) inside (by omega)
        have some : rest ≠ [] := by
          rintro rfl
          simp at above
          omega
        refine ⟨character :: start, (List.prefix_cons_inj character).mpr isPrefix,
          ?_, ?_, ?_⟩
        · rw [String.utf8Len_cons]
          obtain ⟨next, others, rfl⟩ := List.exists_cons_of_ne_nil some
          simp only [lastIndex, charIndices, List.takeWhile_cons, below, inside,
            decide_true, if_true] at isLast ⊢
          rw [List.getLast?_cons_cons, isLast]
          omega
        · rw [String.utf8Len_cons]
          omega
        · intro other isOther otherFits
          cases other with
          | nil => exact List.nil_prefix
          | cons first others =>
              obtain ⟨rfl, isRest⟩ := List.cons_prefix_cons.mp isOther
              rw [String.utf8Len_cons] at otherFits
              exact (List.prefix_cons_inj first).mpr
                (longest others isRest (by omega))
      · refine ⟨[], List.nil_prefix, ?_, by simpa using below, ?_⟩
        · have stops : (charIndices (index + character.utf8Size) rest).takeWhile
              (· ≤ maxBytes) = [] := by
            cases rest with
            | nil => rfl
            | cons next others => simp [charIndices, inside]
          simp [lastIndex, charIndices, below, stops]
        · intro other isOther otherFits
          cases other with
          | nil => exact List.nil_prefix
          | cons first others =>
              obtain ⟨rfl, -⟩ := List.cons_prefix_cons.mp isOther
              rw [String.utf8Len_cons] at otherFits
              omega

theorem takeBytes_utf8Len {text start : List Char} (isPrefix : start <+: text) :
    Utf8.takeBytes text (String.utf8Len start) = start := by
  have cut := Utf8.takeBytes_isPrefix text (String.utf8Len start)
  have longer := Utf8.prefix_takeBytes isPrefix le_rfl
  obtain ⟨more, whole⟩ := longer
  have size := Utf8.utf8Len_takeBytes_le text (String.utf8Len start)
  rw [← whole] at size ⊢
  cases more with
  | nil => simp
  | cons first others =>
      have wide := first.utf8Size_pos
      rw [String.utf8Len_append, String.utf8Len_cons] at size
      omega

theorem truncateUtf8_longest (content : List Char) (maxBytes : Nat) :
    LongestStart (FitsBytes maxBytes) content (truncateUtf8 content maxBytes) := by
  unfold truncateUtf8
  split
  next fits => exact ⟨List.prefix_rfl, fits, fun _ isPrefix _ => isPrefix⟩
  next large =>
    obtain ⟨start, isPrefix, isLast, fits, longest⟩ :=
      lastIndex_spec 0 content (Nat.zero_le maxBytes) (by omega)
    rw [isLast, Nat.zero_add, takeBytes_utf8Len isPrefix]
    rw [Nat.zero_add] at fits
    refine ⟨isPrefix, fits, fun other isOther otherFits => ?_⟩
    exact longest other isOther (by simpa [FitsBytes] using otherFits)

theorem length_encode (text : List Char) :
    (Utf8.encode text).length = String.utf8Len text := by
  induction text with
  | nil => rfl
  | cons character rest ih =>
      simp only [Utf8.encode, List.flatMap_cons, List.length_append,
        String.length_utf8EncodeChar, String.utf8Len_cons] at ih ⊢
      omega

theorem length_le_encode (text : List Char) :
    text.length ≤ (Utf8.encode text).length := by
  induction text with
  | nil => simp
  | cons character rest ih =>
      have wide := character.utf8Size_pos
      simp only [Utf8.encode, List.flatMap_cons, List.length_append,
        String.length_utf8EncodeChar, List.length_cons] at ih ⊢
      omega

/-- The bytes of a text are read, up to a start that reaches the limit. -/
theorem readUtf8Prefix_encode (text : List Char) :
    ∃ start, readUtf8Prefix (Utf8.encode text) = .ok start ∧ start <+: text ∧
      (start = text ∨ maxReadBytes < String.utf8Len start) := by
  obtain ⟨start, part, isPrefix, cut, stuck, ends, near⟩ :=
    Utf8.exists_take_encode text (maxReadBytes + readUtf8LookaheadBytes)
  have decoded : Utf8.decode (Utf8.encode start ++ part).length
      (Utf8.encode start ++ part) = (start, part) := by
    apply Utf8.decode_encode_append start stuck
    have few := length_le_encode start
    rw [List.length_append]
    omega
  have lookahead : readUtf8LookaheadBytes = 4 := rfl
  by_cases fits : (Utf8.encode text).length ≤
      maxReadBytes + readUtf8LookaheadBytes
  · rw [List.take_of_length_le fits] at cut
    obtain ⟨rfl, rfl⟩ := Utf8.eq_of_encode_eq isPrefix cut stuck
    refine ⟨start, ?_, isPrefix, .inl rfl⟩
    unfold readUtf8Prefix
    dsimp only
    rw [List.take_of_length_le fits, cut, decoded]
    rfl
  · have reached := near (by omega)
    rw [length_encode] at reached
    refine ⟨start, ?_, isPrefix, .inr (by omega)⟩
    unfold readUtf8Prefix
    dsimp only
    rw [cut, decoded]
    dsimp only
    split
    · rfl
    next unfinished =>
      have enough : maxReadBytes ≤
          (Utf8.encode start ++ part).length - part.length := by
        rw [List.length_append, length_encode]
        omega
      rw [if_pos ⟨by omega, ends.resolve_left unfinished, enough⟩]

/-- What is shown of a text is its longest start within the limit. -/
theorem truncateUtf8_start {text start : List Char} {maxBytes : Nat}
    (isPrefix : start <+: text)
    (reaches : start = text ∨ maxBytes < String.utf8Len start) :
    LongestStart (FitsBytes maxBytes) text (truncateUtf8 start maxBytes) := by
  have longest := truncateUtf8_longest start maxBytes
  refine ⟨longest.isPrefix.trans isPrefix, longest.admitted, ?_⟩
  intro other isOther fits
  refine longest.longest other ?_ fits
  rcases reaches with rfl | large
  · exact isOther
  · rcases List.prefix_or_prefix_of_prefix isOther isPrefix with
      shorter | longer
    · exact shorter
    · obtain ⟨more, rfl⟩ := longer
      rw [FitsBytes, String.utf8Len_append] at fits
      omega

theorem parsePathInput_object (path : String) :
    parsePathInput (.object [("path", .string path)]) = .ok path := by
  rfl

theorem resolveExistingPath_of_found {disk : Disk} {workspaceRoot : Path String}
    {root place : Place String} {raw : String}
    (stays : pathEscapes (rawPath raw) = false)
    (isRoot : disk.canonicalize workspaceRoot = some root)
    (found : disk.canonicalize (join root (rawPath raw)) = some place)
    (below : root <:+ place) :
    resolveExistingPath disk workspaceRoot raw = .ok place := by
  have isBelow : root.isSuffixOf place = true :=
    List.isSuffixOf_iff_suffix.mpr below
  unfold resolveExistingPath
  rw [stays, isRoot]
  change (orIo (disk.canonicalize (join root (rawPath raw))) >>= _) = _
  rw [found]
  change (refuseIf (!root.isSuffixOf place) _ >>= _) = _
  rw [isBelow]
  rfl

/-- The call fails where the system fails it, whatever is in the file. -/
theorem readFile_of_failing {disk : Disk} {turn : ReadTurn}
    {workspaceRoot : Path String} {callId : ToolCallId} {path : String}
    {place : Place String}
    (resolves : resolveExistingPath disk workspaceRoot path = .ok place)
    (isFile : ∃ content, disk.tree place = some (.file content))
    (fails : turn.succeeds = false) :
    readFile disk turn workspaceRoot callId (.object [("path", .string path)]) =
      .error .io := by
  obtain ⟨content, isFile⟩ := isFile
  obtain ⟨opens, sizes, reads⟩ := turn
  unfold readFile
  rw [parsePathInput_object]
  change (resolveExistingPath disk workspaceRoot path >>= _) = _
  rw [resolves]
  cases opens with
  | false => rfl
  | true =>
      cases sizes with
      | false => rfl
      | true =>
          change (fileContent (disk.tree place) >>= _) = _
          rw [isFile]
          cases reads with
          | false => rfl
          | true => cases fails

/-- A file that was written is read by the same path, unless the system fails
the read: its size, and the longest start of its content within the limit. -/
theorem readFile_after_executeWrite {disk : Disk} {workspaceRoot : Path String}
    (rooted : Rooted disk.tree)
    (cwd : disk.tree disk.cwd = some .directory) (step : WriteCall)
    (wrote : (executeWrite disk workspaceRoot step).1.isOk = true)
    (readId : ToolCallId) :
    ∃ parsed shown, parseContentInput step.call.input = .ok parsed ∧
      LongestStart (FitsBytes maxReadBytes) parsed.content.toList shown ∧
      ∀ turn : ReadTurn,
        readFile { disk with tree := (executeWrite disk workspaceRoot step).2 }
            turn workspaceRoot readId (.object [("path", .string parsed.path)]) =
          if turn.succeeds then
            .ok (readResult readId parsed.path shown
              (contentBytes parsed.content).length)
          else .error .io := by
  unfold executeWrite at wrote ⊢
  rcases writeFile_cases rooted cwd step.turn step.call.id step.call.input
      step.tool.summaryVerb step.tool.summaryPreposition with
    ⟨error, written⟩ | ⟨parsed, root, before, name, directory, accepts, left⟩
  · rw [written] at wrote
    cases wrote
  · rcases left with ⟨count, written⟩ | ⟨_, written⟩
    · rw [written] at wrote
      cases wrote
    · rw [written]
      have changes : ChangesFiles root disk.tree (putFile disk.tree
          (name :: directory) (contentBytes parsed.content)) :=
        putFile_changesFiles accepts.below accepts.isFile
      have isRoot := canonicalize_kept changes.keeps accepts.isRoot
      obtain ⟨count, few, leads⟩ := leads_of_walk accepts.reaches
      have found := (leads.kept changes.keeps (by decide)
        (fun _ => ⟨_, putFile_self, fun _ => by simp⟩)).walk_eq few
      have resolves := resolveExistingPath_of_found accepts.stays isRoot found
        (accepts.below.trans (List.suffix_cons _ _))
      obtain ⟨start, isRead, isPrefix, reached⟩ :=
        readUtf8Prefix_encode parsed.content.toList
      refine ⟨parsed, truncateUtf8 start maxReadBytes, accepts.isRead,
        truncateUtf8_start isPrefix reached, fun turn => ?_⟩
      split
      next succeeds =>
        obtain ⟨⟨opens, sizes⟩, reads⟩ := by
          simpa [ReadTurn.succeeds] using succeeds
        unfold readFile
        rw [parsePathInput_object, opens, sizes, reads]
        change (resolveExistingPath _ workspaceRoot parsed.path >>= _) = _
        rw [resolves]
        change (fileContent (putFile _ _ _ (name :: directory)) >>= _) = _
        rw [putFile_self]
        change (readUtf8Prefix (Utf8.encode parsed.content.toList) >>= _) = _
        rw [isRead]
        rfl
      next fails =>
        exact readFile_of_failing resolves ⟨_, putFile_self⟩
          (Bool.eq_false_iff.mpr fails)

/-- What was written through a link is read through it. -/
theorem readFile_after_executeWrite_sample :
    ∃ parsed shown, parseContentInput (writeTo "inner/note.md").call.input =
        .ok parsed ∧
      LongestStart (FitsBytes maxReadBytes) parsed.content.toList shown ∧
      readFile { sampleDisk with tree := (executeWrite sampleDisk
            sampleWorkspace (writeTo "inner/note.md")).2 }
          ⟨true, true, true⟩ sampleWorkspace ⟨"call_read", by decide⟩
          (.object [("path", .string parsed.path)]) =
        .ok (readResult ⟨"call_read", by decide⟩ parsed.path shown
          (contentBytes parsed.content).length) := by
  obtain ⟨parsed, shown, isRead, longest, reads⟩ :=
    @readFile_after_executeWrite _ sampleWorkspace sampleRooted rfl
      (writeTo "inner/note.md") (by decide +kernel) ⟨"call_read", by decide⟩
  exact ⟨parsed, shown, isRead, longest, reads ⟨true, true, true⟩⟩

end FileTools

end PlatoAgent
