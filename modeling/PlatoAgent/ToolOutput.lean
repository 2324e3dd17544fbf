import PlatoAgent.HistoryPages
import PlatoAgent.ProviderResponses
import PlatoAgent.TextClosers
import PlatoAgent.Utf8Prefixes

/-!
# Tool output for the provider

The output of a tool is wrapped in tags before it goes back to the model, and is
cut to a number of bytes.  It cannot close its wrapper itself.
-/

namespace PlatoAgent

open TextClosers

/-- `TOOL_OUTPUT_LIMIT`. -/
def toolOutputLimit : Nat := 65536

def logicalToolOutputLimit : Nat :=
  LogicalReads.maxLogicalReadSerializedBytes + 16 * 1024

def toolOutputTruncationMarker : List Char :=
  "\n... output truncated".toList

def toolOutputClose : List Char :=
  "\n</tool_output>".toList

def isLogicalReadTool (name : String) : Bool :=
  name == "profile.read" || name == "thread.tree" ||
    name == "thread.events" || name == "thread.transcript"

def toolOutputOpen (toolName : String) : List Char :=
  "<tool_output name=\"".toList ++ toolName.toList ++
    "\" trust=\"untrusted\">\n".toList

def toolOutputBound (toolName : String) : Nat :=
  if isLogicalReadTool toolName then logicalToolOutputLimit
  else toolOutputLimit

/-- `</tool_output`. -/
def toolOutputCloser : Closer :=
  ⟨['t', 'o', 'o', 'l', '_', 'o', 'u', 't', 'p', 'u', 't'], rfl⟩

/-- No output is a panic. -/
def providerToolOutput (toolName : String) (body : List Char) :
    Option (List Char) :=
  let body := toolOutputCloser.neutralize body
  let opening := toolOutputOpen toolName
  let limit := toolOutputBound toolName
  if limit < String.utf8Len opening + String.utf8Len body +
      String.utf8Len toolOutputClose then
    let used := String.utf8Len opening +
      String.utf8Len toolOutputTruncationMarker + String.utf8Len toolOutputClose
    if used ≤ limit then
      let stop := Utf8.boundaryBelow body
        (min (limit - used) (String.utf8Len body))
      some (opening ++ Utf8.takeBytes body stop ++
        toolOutputTruncationMarker ++ toolOutputClose)
    else none
  else some (opening ++ body ++ toolOutputClose)

/-- The names of tools that a response can have in the run loop. -/
theorem mem_of_internalNameForProvider {requested name : String}
    (known : internalNameForProvider requested = some name) :
    name ∈ bootstrapTools.map (·.internalName) := by
  obtain ⟨tool, found, rfl⟩ := Option.map_eq_some_iff.mp known
  exact List.mem_map_of_mem (List.mem_of_find?_eq_some found)

/-- The tags and the marker leave room in the output of every tool, and no
opening tag has a closing tag. -/
theorem open_of_catalog : ∀ name ∈ bootstrapTools.map (·.internalName),
    String.utf8Len (toolOutputOpen name) +
        String.utf8Len toolOutputTruncationMarker +
        String.utf8Len toolOutputClose ≤ toolOutputBound name ∧
      toolOutputCloser.occurrences (toolOutputOpen name) = 0 := by
  decide +kernel

/-- An output with its tags: the whole body, or its longest start that leaves
room for the marker. -/
structure WrapsOutput (toolName : String) (body output : List Char) :
    Prop where
  bound : String.utf8Len output ≤ toolOutputBound toolName
  once : toolOutputCloser.occurrences output = 1
  last : ∃ front, output = front ++ toolOutputClose
  whole : String.utf8Len (toolOutputOpen toolName ++
      toolOutputCloser.neutralize body ++ toolOutputClose) ≤
        toolOutputBound toolName →
    output = toolOutputOpen toolName ++ toolOutputCloser.neutralize body ++
      toolOutputClose
  cut : toolOutputBound toolName < String.utf8Len (toolOutputOpen toolName ++
      toolOutputCloser.neutralize body ++ toolOutputClose) →
    ∃ start, output = toolOutputOpen toolName ++ start ++
        toolOutputTruncationMarker ++ toolOutputClose ∧
      start <+: toolOutputCloser.neutralize body ∧
      ∀ longer, longer <+: toolOutputCloser.neutralize body →
        String.utf8Len (toolOutputOpen toolName ++ longer ++
          toolOutputTruncationMarker ++ toolOutputClose) ≤
            toolOutputBound toolName →
        longer <+: start

theorem occurrences_toolOutputClose (text : List Char) :
    toolOutputCloser.occurrences (text ++ toolOutputClose) =
      toolOutputCloser.occurrences text + 1 := by
  have once : toolOutputCloser.occurrences "</tool_output>".toList = 1 := by
    simp [Closer.occurrences, opensWith, Closer.pattern, toolOutputCloser]
  have split : toolOutputClose = '\n' :: "</tool_output>".toList := by
    unfold toolOutputClose
    simp only [String.reduceToList]
  rw [split, Closer.occurrences_append_newline, once]

theorem occurrences_toolOutputTruncationMarker (text : List Char) :
    toolOutputCloser.occurrences (text ++ toolOutputTruncationMarker) =
      toolOutputCloser.occurrences text := by
  have silent : toolOutputCloser.occurrences
      "... output truncated".toList = 0 := by
    simp [Closer.occurrences, opensWith, Closer.pattern, toolOutputCloser]
  have split : toolOutputTruncationMarker =
      '\n' :: "... output truncated".toList := by
    unfold toolOutputTruncationMarker
    simp only [String.reduceToList]
  rw [split, Closer.occurrences_append_newline, silent, Nat.add_zero]

/-- The opening tag ends with a newline. -/
theorem occurrences_toolOutputOpen (toolName : String) (text : List Char) :
    toolOutputCloser.occurrences (toolOutputOpen toolName ++ text) =
      toolOutputCloser.occurrences (toolOutputOpen toolName) +
        toolOutputCloser.occurrences text := by
  have split : "\" trust=\"untrusted\">\n".toList =
      "\" trust=\"untrusted\">".toList ++ ['\n'] := by
    simp only [String.reduceToList, List.cons_append, List.nil_append]
  unfold toolOutputOpen
  rw [split, ← List.append_assoc, List.append_assoc _ ['\n'] text,
    List.singleton_append, Closer.occurrences_append_newline,
    Closer.occurrences_append_newline, Closer.occurrences, Nat.add_zero]

/-- The output of a tool of the catalog is wrapped. -/
theorem wrapsOutput_providerToolOutput {requested name : String}
    (known : internalNameForProvider requested = some name)
    (body : List Char) :
    ∃ output, providerToolOutput name body = some output ∧
      WrapsOutput name body output := by
  obtain ⟨room, noCloser⟩ := open_of_catalog name
    (mem_of_internalNameForProvider known)
  have neutral := toolOutputCloser.occurrences_neutralize body
  have length (text : List Char) :
      String.utf8Len (toolOutputOpen name ++ text ++ toolOutputClose) =
        String.utf8Len (toolOutputOpen name) + String.utf8Len text +
          String.utf8Len toolOutputClose := by
    rw [String.utf8Len_append, String.utf8Len_append]
  have cutLength (text : List Char) :
      String.utf8Len (toolOutputOpen name ++ text ++
          toolOutputTruncationMarker ++ toolOutputClose) =
        String.utf8Len (toolOutputOpen name) + String.utf8Len text +
          String.utf8Len toolOutputTruncationMarker +
          String.utf8Len toolOutputClose := by
    rw [String.utf8Len_append, String.utf8Len_append, String.utf8Len_append]
  unfold providerToolOutput
  dsimp only
  by_cases tooLong : toolOutputBound name <
      String.utf8Len (toolOutputOpen name) +
        String.utf8Len (toolOutputCloser.neutralize body) +
        String.utf8Len toolOutputClose
  · rw [if_pos tooLong, if_pos room]
    refine ⟨_, rfl, ?_, ?_, ⟨_, rfl⟩, ?_, fun _ => ⟨_, rfl, ?_, ?_⟩⟩
    · rw [cutLength]
      have cut := Utf8.utf8Len_takeBytes_le
        (toolOutputCloser.neutralize body) (Utf8.boundaryBelow
          (toolOutputCloser.neutralize body)
          (min (toolOutputBound name - (String.utf8Len (toolOutputOpen name) +
            String.utf8Len toolOutputTruncationMarker +
            String.utf8Len toolOutputClose))
            (String.utf8Len (toolOutputCloser.neutralize body))))
      have below := Utf8.boundaryBelow_le (toolOutputCloser.neutralize body)
        (min (toolOutputBound name - (String.utf8Len (toolOutputOpen name) +
          String.utf8Len toolOutputTruncationMarker +
          String.utf8Len toolOutputClose))
          (String.utf8Len (toolOutputCloser.neutralize body)))
      omega
    · rw [occurrences_toolOutputClose, occurrences_toolOutputTruncationMarker,
        occurrences_toolOutputOpen, noCloser]
      have start := @Closer.occurrences_le_of_prefix toolOutputCloser _ _
        (Utf8.takeBytes_isPrefix (toolOutputCloser.neutralize body)
          (Utf8.boundaryBelow (toolOutputCloser.neutralize body)
            (min (toolOutputBound name - (String.utf8Len (toolOutputOpen name) +
              String.utf8Len toolOutputTruncationMarker +
              String.utf8Len toolOutputClose))
              (String.utf8Len (toolOutputCloser.neutralize body)))))
      omega
    · intro short
      rw [length] at short
      omega
    · exact Utf8.takeBytes_isPrefix _ _
    · intro longer isPrefix fits
      rw [cutLength] at fits
      apply Utf8.prefix_takeBytes_boundaryBelow isPrefix
      have most := String.utf8Len_le_of_prefix isPrefix
      omega
  · rw [if_neg tooLong]
    refine ⟨_, rfl, ?_, ?_, ⟨_, rfl⟩, fun _ => rfl, ?_⟩
    · rw [length]
      omega
    · rw [occurrences_toolOutputClose, occurrences_toolOutputOpen, noCloser,
        neutral]
    · intro long
      rw [length] at long
      exact absurd long tooLong

end PlatoAgent
