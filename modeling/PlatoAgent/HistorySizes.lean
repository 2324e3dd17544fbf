import PlatoAgent.HistoryPages

/-!
# The size of a page of one entry

A page that holds a stand-in alone is below the cap as long as the ids of the
thread and of the run leave it room, so that a record never blocks the page it
is first on.
-/

namespace PlatoAgent

namespace LogicalReads

/-- The bytes of a string in JSON. -/
def jsonLength (text : String) : Nat :=
  (JsonText.toBytes (.string text)).length

section Sizes

open JsonText

variable {json : JsonWriter}

theorem quoted_bytes (text : String) :
    ((json.spelling.quoted text).flatMap String.utf8EncodeChar).length =
      jsonLength text := by
  unfold jsonLength toBytes
  rw [valueText]
  rfl

/-- Digits and the colon. -/
def isPlain (character : Char) : Prop :=
  48 ≤ character.toNat ∧ character.toNat ≤ 58

theorem isPlain_of_isDigit {digit : Char} (isDigit : digit.isDigit = true) :
    isPlain digit := by
  have range : 48 ≤ digit.toNat ∧ digit.toNat ≤ 57 :=
    Char.isDigit_iff_toNat.mp isDigit
  unfold isPlain
  omega

theorem plain_bytes {text : List Char}
    (plain : ∀ character ∈ text, isPlain character) :
    (text.flatMap String.utf8EncodeChar).length = text.length := by
  induction text with
  | nil => rfl
  | cons first rest ih =>
      have small : first.val ≤ 0x7f := by
        have bound := (plain first List.mem_cons_self).2
        rw [UInt32.le_iff_toNat_le]
        exact le_trans bound (by decide)
      have one : (String.utf8EncodeChar first).length = 1 := by
        rw [String.length_utf8EncodeChar]
        exact if_pos small
      rw [List.flatMap_cons, List.length_append, one,
        ih fun other member => plain other (List.mem_cons_of_mem _ member),
        List.length_cons, Nat.add_comm]

theorem escapeChar_plain {character : Char} (plain : isPlain character) :
    escapeChar character = [character] := by
  obtain ⟨low, high⟩ := plain
  have other : ∀ mark : Char, mark.toNat < 48 ∨ 58 < mark.toNat →
      character ≠ mark := by
    intro mark outside same
    rw [same] at low high
    omega
  unfold escapeChar
  rw [if_neg (other _ (by decide)), if_neg (other _ (by decide)),
    if_neg (other _ (by decide)), if_neg (other _ (by decide)),
    if_neg (other _ (by decide)), if_neg (other _ (by decide)),
    if_neg (other _ (by decide)), if_neg (by omega)]

/-- A plain text is written without escapes. -/
theorem jsonLength_plain {text : String}
    (plain : ∀ character ∈ text.toList, isPlain character) :
    jsonLength text = text.toList.length + 2 := by
  have same : text.toList.flatMap escapeChar = text.toList := by
    rw [List.flatMap_congr fun character member =>
      escapeChar_plain (plain character member), List.flatMap_singleton']
  have quote : (String.utf8EncodeChar '"').length = 1 := rfl
  unfold jsonLength toBytes
  rw [valueText, quoted, same, List.cons_append, List.flatMap_cons,
    List.flatMap_append, List.flatMap_singleton, List.length_append,
    List.length_append, plain_bytes plain, quote]
  omega

theorem isPlain_toDigits {number : Nat} {digit : Char}
    (member : digit ∈ Nat.toDigits 10 number) : isPlain digit :=
  isPlain_of_isDigit
    (Nat.isDigit_of_mem_toDigits (by decide) (by decide) member)

theorem toDigits_length_le {number : Nat} (small : number < 2 ^ 64) :
    (Nat.toDigits 10 number).length ≤ 20 :=
  Nat.toDigits_length 10 number 20 (by decide) (small.trans (by decide))

theorem number_bytes_le (value : UInt64) :
    ((json.spelling.value (LedgerText.u64 value)).flatMap
      String.utf8EncodeChar).length ≤ 20 := by
  have text : json.spelling.value (LedgerText.u64 value) =
      Nat.toDigits 10 value.toNat := rfl
  rw [text, plain_bytes fun _ => isPlain_toDigits]
  exact toDigits_length_le value.toNat_lt

theorem jsonLength_historyCursor_le {sessionIndex entryIndex : Nat}
    (smallSession : sessionIndex < 2 ^ 64) (smallEntry : entryIndex < 2 ^ 64) :
    jsonLength (historyCursor sessionIndex entryIndex) ≤ 43 := by
  have first := toDigits_length_le smallSession
  have second := toDigits_length_le smallEntry
  unfold historyCursor
  rw [jsonLength_plain, String.toList_ofList, List.length_append,
    List.length_cons]
  · omega
  · intro character member
    rw [String.toList_ofList, List.mem_append, List.mem_cons] at member
    rcases member with digit | rfl | digit
    · exact isPlain_toDigits digit
    · exact ⟨by decide, by decide⟩
    · exact isPlain_toDigits digit

theorem outputValue_bytes (threadId : String) (entry : ProfileEventEntry)
    (cursor : String) :
    (json.toVec (ThreadEventsResult.outputValue
      ⟨threadId, [entry], true, some cursor⟩)).length =
      107 + jsonLength threadId + (json.toVec entry.value).length +
        jsonLength cursor := by
  have keys : jsonLength "status" = 8 ∧ jsonLength "ok" = 4 ∧
      jsonLength "result" = 8 ∧ jsonLength "kind" = 6 ∧
      jsonLength "thread_events" = 15 ∧ jsonLength "thread_id" = 11 ∧
      jsonLength "entries" = 9 ∧ jsonLength "truncated" = 11 ∧
      jsonLength "next_cursor" = 13 := by
    decide +kernel
  have marks : (String.utf8EncodeChar '{').length = 1 ∧
      (String.utf8EncodeChar '}').length = 1 ∧
      (String.utf8EncodeChar '[').length = 1 ∧
      (String.utf8EncodeChar ']').length = 1 ∧
      (String.utf8EncodeChar ':').length = 1 ∧
      (String.utf8EncodeChar ',').length = 1 ∧
      (String.utf8EncodeChar 't').length = 1 ∧
      (String.utf8EncodeChar 'r').length = 1 ∧
      (String.utf8EncodeChar 'u').length = 1 ∧
      (String.utf8EncodeChar 'e').length = 1 := by
    decide +kernel
  unfold ThreadEventsResult.outputValue JsonWriter.toVec LedgerText.nullable
  simp only [List.map_cons, List.map_nil, Spelling.value, Spelling.entry,
    Spelling.entries, Spelling.items, List.flatMap_append, List.flatMap_cons,
    List.flatMap_nil, List.length_append, List.length_nil, List.cons_append,
    quoted_bytes, keys, marks]
  omega

/-- A stand-in is small. -/
theorem omitted_bytes_le (sessionIndex : Nat) (runId : String)
    (sequence : UInt64) (event : HarnessEvent) (serializedBytes : Nat) :
    (json.toVec (ProfileEventEntry.omitted sessionIndex runId sequence event.name
      serializedBytes "entry exceeded the serialized response cap").value
        ).length ≤ jsonLength runId + 400 := by
  have keys : jsonLength "entry" = 7 ∧ jsonLength "omitted" = 9 ∧
      jsonLength "session_index" = 15 ∧ jsonLength "run_id" = 8 ∧
      jsonLength "sequence" = 10 ∧ jsonLength "event" = 7 ∧
      jsonLength "serialized_bytes" = 18 ∧ jsonLength "reason" = 8 ∧
      jsonLength "entry exceeded the serialized response cap" = 44 := by
    decide +kernel
  have marks : (String.utf8EncodeChar '{').length = 1 ∧
      (String.utf8EncodeChar '}').length = 1 ∧
      (String.utf8EncodeChar ':').length = 1 ∧
      (String.utf8EncodeChar ',').length = 1 := by
    decide +kernel
  have names : ∀ name ∈ ["run_started", "context_built", "context_compacted",
      "model_requested", "model_failed", "model_responded",
      "tool_proposals_rejected", "tool_call_proposed", "policy_evaluated",
      "approval_granted", "approval_denied", "tool_started", "tool_finished",
      "tool_failed", "run_finished", "run_failed"],
      jsonLength name ≤ 40 := by
    decide +kernel
  have name : jsonLength event.name ≤ 40 := by
    apply names
    cases event <;> simp [HarnessEvent.name]
  have first := @number_bytes_le json (.ofNat sessionIndex)
  have second := @number_bytes_le json sequence
  have third := @number_bytes_le json (.ofNat serializedBytes)
  unfold ProfileEventEntry.value JsonWriter.toVec
  simp only [Spelling.value, Spelling.entry, Spelling.entries,
    List.flatMap_append, List.flatMap_cons, List.flatMap_nil,
    List.length_append, List.length_nil, List.cons_append, quoted_bytes, keys,
    marks]
  omega

end Sizes

/-- An id that leaves room for a stand-in on a page. -/
def shortId (id : String) : Prop :=
  jsonLength id ≤ 64 * 1024

instance (id : String) : Decidable (shortId id) :=
  inferInstanceAs (Decidable (_ ≤ _))

/-- The entry of a record fits on a page of its own. -/
theorem eventEntry_fits {json : JsonWriter} {threadId : String}
    (shortThread : shortId threadId)
    {run : SessionRunRecords} (shortRun : shortId run.runId)
    (record : RecordedEvent) {entryIndex : Nat}
    (inRun : entryIndex < run.records.length) :
    ThreadEventsResult.serializedFits json
      ⟨threadId, [(eventEntry json threadId run record).1], true,
        some (historyCursor run.sessionIndex entryIndex)⟩ = true := by
  have index := run.index_lt
  have length := run.length_lt
  have cursor := @jsonLength_historyCursor_le run.sessionIndex entryIndex
    (by omega) (by omega)
  have longest : jsonLength "18446744073709551615:18446744073709551615" =
      43 := by
    decide +kernel
  unfold shortId at shortThread shortRun
  unfold eventEntry
  simp only
  split
  next fits =>
    unfold eventEntryFits ThreadEventsResult.serializedFits at fits
    rw [outputValue_bytes, decide_eq_true_eq, longest] at fits
    unfold ThreadEventsResult.serializedFits
    rw [outputValue_bytes, decide_eq_true_eq]
    dsimp only
    omega
  next =>
    have standIn := @omitted_bytes_le json run.sessionIndex run.runId record.seq
      record.event (json.toVec (ProfileEventEntry.event run.sessionIndex
        run.runId record).value).length
    unfold ThreadEventsResult.serializedFits
    rw [outputValue_bytes, decide_eq_true_eq]
    unfold maxLogicalReadSerializedBytes
    dsimp only
    omega

end LogicalReads

end PlatoAgent
