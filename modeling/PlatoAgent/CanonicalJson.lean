import PlatoAgent.HttpIdempotency

/-!
# Canonical JSON

The bytes that `write_canonical_value` writes for the body of a mutation.  They
are the text of the value with the entries of each object in the order of
`utf16_cmp`, so two values have the same bytes if and only if they are equal up
to the order of their entries.
-/

namespace PlatoAgent

/-- Over a value, its items and the values of its entries. -/
@[elab_as_elim]
theorem Value.inductionOn {motive : Value → Prop} (value : Value)
    (null : motive .null) (bool : ∀ value, motive (.bool value))
    (number : ∀ value, motive (.number value))
    (string : ∀ value, motive (.string value))
    (array : ∀ items, (∀ item ∈ items, motive item) → motive (.array items))
    (object : ∀ entries : List (String × Value),
      (∀ entry ∈ entries, motive entry.2) → motive (.object entries)) :
    motive value := by
  induction size : sizeOf value using Nat.strong_induction_on generalizing value
  next size ih =>
    subst size
    cases value with
    | null => exact null
    | bool value => exact bool value
    | number value => exact number value
    | string value => exact string value
    | array items =>
        apply array
        intro item member
        refine ih _ ?_ item rfl
        have smaller := List.sizeOf_lt_of_mem member
        simp only [Value.array.sizeOf_spec]
        omega
    | object entries =>
        apply object
        rintro ⟨key, value⟩ member
        refine ih _ ?_ value rfl
        have smaller := List.sizeOf_lt_of_mem member
        simp only [Value.object.sizeOf_spec, Prod.mk.sizeOf_spec] at smaller ⊢
        omega

/-- A value without floating-point numbers as the parser leaves it: the keys of
each object are distinct, and only numbers below zero are in `negInt`. -/
inductive Value.Plain : Value → Prop where
  | null : Plain .null
  | bool (value : Bool) : Plain (.bool value)
  | posInt (value : UInt64) : Plain (.number (.posInt value))
  | negInt {value : Int64} (negative : value < 0) :
      Plain (.number (.negInt value))
  | string (value : String) : Plain (.string value)
  | array {items : List Value} (each : ∀ item ∈ items, Plain item) :
      Plain (.array items)
  | object {entries : List (String × Value)}
      (distinct : (entries.map Prod.fst).Nodup)
      (each : ∀ entry ∈ entries, Plain entry.2) : Plain (.object entries)

/-- Equality of JSON values: the order of the entries of an object does not
matter. -/
inductive Value.Same : Value → Value → Prop where
  | null : Same .null .null
  | bool (value : Bool) : Same (.bool value) (.bool value)
  | number (value : Number) : Same (.number value) (.number value)
  | string (value : String) : Same (.string value) (.string value)
  | array {first second : List Value} (length : first.length = second.length)
      (each : ∀ (index : Nat) (value other : Value), first[index]? = some value →
        second[index]? = some other → Same value other) :
      Same (.array first) (.array second)
  | object {first second : List (String × Value)}
      (keys : (first.map Prod.fst).Perm (second.map Prod.fst))
      (each : ∀ (key : String) (value other : Value), (key, value) ∈ first →
        (key, other) ∈ second → Same value other) :
      Same (.object first) (.object second)

theorem sortKeys_perm (entries : List (String × Value)) :
    (sortKeys entries).Perm entries :=
  List.perm_insertionSort _ entries

/-- The answer to a body with a floating-point number. -/
def floatNotAdmitted : HttpResponse :=
  .error 500 "internal_error"
    "floating-point JSON is not admitted in mutation bodies"

/-- The loop over the values of an array and over the keys of an object. -/
def writeSeparated {Item : Type}
    (write : Item → List UInt8 → Except HttpResponse (List UInt8)) :
    List Item → Nat → List UInt8 → Except HttpResponse (List UInt8)
  | [], _, output => .ok output
  | item :: rest, index, output => do
      let output := if index > 0 then output ++ utf8Bytes "," else output
      let output ← write item output
      writeSeparated write rest (index + 1) output

theorem sizeOf_lt_of_mem_entries {entries : List (String × Value)}
    {entry : String × Value} (member : entry ∈ entries) :
    sizeOf entry.2 < sizeOf (Value.object entries) := by
  have smaller := List.sizeOf_lt_of_mem member
  obtain ⟨key, value⟩ := entry
  simp only [Value.object.sizeOf_spec, Prod.mk.sizeOf_spec] at smaller ⊢
  omega

/-- `write_canonical_value`, appending to the output. -/
def writeCanonicalValue (json : JsonWriter) (value : Value)
    (output : List UInt8) : Except HttpResponse (List UInt8) :=
  match value with
  | .null => .ok (output ++ utf8Bytes "null")
  | .bool value => .ok (output ++ utf8Bytes (if value then "true" else "false"))
  | .number (.float _) => .error floatNotAdmitted
  | .number value => .ok (output ++ json.toVec (.number value))
  | .string value => .ok (output ++ json.toVec (.string value))
  | .array values => do
      let output ← writeSeparated
        (fun item output => writeCanonicalValue json item.1 output)
        values.attach 0 (output ++ utf8Bytes "[")
      return output ++ utf8Bytes "]"
  | .object values => do
      let output ← writeSeparated
        (fun entry output => writeCanonicalValue json entry.1.2
          (output ++ json.toVec (.string entry.1.1) ++ utf8Bytes ":"))
        (sortKeys values).attach 0 (output ++ utf8Bytes "\x7b")
      return output ++ utf8Bytes "\x7d"
termination_by sizeOf value
decreasing_by
  · have smaller := List.sizeOf_lt_of_mem item.2
    simp only [Value.array.sizeOf_spec]
    omega
  · exact sizeOf_lt_of_mem_entries ((sortKeys_perm values).mem_iff.mp entry.2)

/-- The entries of each object in the order of their keys. -/
def Value.canonical : Value → Value
  | .array items => .array (items.map fun item => item.canonical)
  | .object entries =>
      .object (sortKeys (entries.map fun entry => (entry.1, entry.2.canonical)))
  | .null => .null
  | .bool value => .bool value
  | .number value => .number value
  | .string value => .string value
termination_by value => sizeOf value
decreasing_by
  · decreasing_tactic
  · exact sizeOf_lt_of_mem_entries ‹entry ∈ entries›

/-- The bytes of a text. -/
def encoded (text : List Char) : List UInt8 :=
  text.flatMap String.utf8EncodeChar

theorem encoded_append (first second : List Char) :
    encoded (first ++ second) = encoded first ++ encoded second :=
  List.flatMap_append

/-- Texts with commas between them. -/
def separatedText {Item : Type} (itemText : Item → List Char) :
    List Item → List Char
  | [] => []
  | first :: rest =>
      itemText first ++ rest.flatMap fun item => ',' :: itemText item

section Separated

variable {Item : Type}
  {write : Item → List UInt8 → Except HttpResponse (List UInt8)}
  {itemText : Item → List Char}

theorem writeSeparated_map {Other : Type} (source : Other → Item)
    (items : List Other) (index : Nat) (output : List UInt8) :
    writeSeparated write (items.map source) index output =
      writeSeparated (fun item => write (source item)) items index output := by
  induction items generalizing index output with
  | nil => rfl
  | cons item rest ih => simp only [List.map_cons, writeSeparated, ih]

theorem writeSeparated_attach (items : List Item) (index : Nat)
    (output : List UInt8) :
    writeSeparated (fun item => write item.1) items.attach index output =
      writeSeparated write items index output := by
  rw [← writeSeparated_map, List.attach_map_subtype_val]

theorem writeSeparated_rest {items : List Item}
    (each : ∀ item ∈ items, ∀ output,
      write item output = .ok (output ++ encoded (itemText item)))
    (index : Nat) (output : List UInt8) :
    writeSeparated write items (index + 1) output = .ok (output ++
      encoded (items.flatMap fun item => ',' :: itemText item)) := by
  induction items generalizing index output with
  | nil => simp [writeSeparated, encoded]
  | cons item rest ih =>
      have written := each item List.mem_cons_self (output ++ utf8Bytes ",")
      have following := ih
        (fun other member => each other (List.mem_cons_of_mem _ member))
        (index + 1) (output ++ utf8Bytes "," ++ encoded (itemText item))
      have comma : encoded [','] = utf8Bytes "," := rfl
      rw [writeSeparated, if_pos (Nat.succ_pos index), written]
      change writeSeparated write rest (index + 1 + 1) _ = _
      rw [following, List.flatMap_cons, ← List.singleton_append,
        List.append_assoc, encoded_append, encoded_append, comma]
      simp only [List.append_assoc]

theorem writeSeparated_items {items : List Item}
    (each : ∀ item ∈ items, ∀ output,
      write item output = .ok (output ++ encoded (itemText item)))
    (output : List UInt8) :
    writeSeparated write items 0 output =
      .ok (output ++ encoded (separatedText itemText items)) := by
  cases items with
  | nil => simp [writeSeparated, separatedText, encoded]
  | cons item rest =>
      have written := each item List.mem_cons_self output
      have following := writeSeparated_rest
        (fun other member => each other (List.mem_cons_of_mem _ member)) 0
        (output ++ encoded (itemText item))
      rw [writeSeparated, if_neg (Nat.lt_irrefl 0), written]
      change writeSeparated write rest (0 + 1) _ = _
      rw [following, separatedText, encoded_append, List.append_assoc]

theorem writeSeparated_error {items : List Item} {refused : HttpResponse}
    (each : ∀ item ∈ items, (∀ output, ∃ bytes, write item output = .ok bytes) ∨
      ∀ output, write item output = .error refused)
    {bad : Item} (member : bad ∈ items)
    (fails : ∀ output, write bad output = .error refused)
    (index : Nat) (output : List UInt8) :
    writeSeparated write items index output = .error refused := by
  induction items generalizing index output with
  | nil => exact absurd member List.not_mem_nil
  | cons item rest ih =>
      rw [writeSeparated]
      rcases each item List.mem_cons_self with writes | refuses
      · obtain ⟨bytes, written⟩ :=
          writes (if index > 0 then output ++ utf8Bytes "," else output)
        rw [written]
        rcases List.mem_cons.mp member with rfl | later
        · rw [fails] at written
          cases written
        · exact ih
            (fun other isOther => each other (List.mem_cons_of_mem _ isOther))
            later (index + 1) bytes
      · rw [refuses]
        rfl

end Separated

theorem separatedText_map {Item Other : Type} (source : Other → Item)
    (itemText : Item → List Char) (items : List Other) :
    separatedText itemText (items.map source) =
      separatedText (fun item => itemText (source item)) items := by
  cases items with
  | nil => rfl
  | cons first rest => simp [separatedText, List.flatMap_map]

theorem valueText_array (items : List Value) :
    JsonText.valueText (.array items) =
      ['['] ++ separatedText JsonText.valueText items ++ [']'] := by
  cases items with
  | nil => rfl
  | cons first rest =>
      simp [JsonText.valueText, JsonText.itemsText_eq, JsonText.restText,
        separatedText]

theorem valueText_object (entries : List (String × Value)) :
    JsonText.valueText (.object entries) =
      ['{'] ++ separatedText JsonText.entryText entries ++ ['}'] := by
  cases entries with
  | nil => rfl
  | cons first rest =>
      simp [JsonText.valueText, JsonText.entriesText_eq, JsonText.restText,
        separatedText]

theorem sortKeys_map (change : Value → Value)
    (entries : List (String × Value)) :
    sortKeys (entries.map fun entry => (entry.1, change entry.2)) =
      (sortKeys entries).map fun entry => (entry.1, change entry.2) := by
  symm
  apply List.map_insertionSort
  intro first _ second _
  rfl

variable (json : JsonWriter)

theorem writeCanonicalValue_array (values : List Value)
    (output : List UInt8) :
    writeCanonicalValue json (.array values) output = (do
      let output ← writeSeparated (writeCanonicalValue json) values 0
        (output ++ utf8Bytes "[")
      return output ++ utf8Bytes "]") := by
  have attached := @writeSeparated_attach Value (writeCanonicalValue json)
    values 0 (output ++ utf8Bytes "[")
  rw [writeCanonicalValue, attached]

/-- The key and the value of an entry. -/
def writeEntry (entry : String × Value) (output : List UInt8) :
    Except HttpResponse (List UInt8) :=
  writeCanonicalValue json entry.2
    (output ++ json.toVec (.string entry.1) ++ utf8Bytes ":")

theorem writeCanonicalValue_object (values : List (String × Value))
    (output : List UInt8) :
    writeCanonicalValue json (.object values) output = (do
      let output ← writeSeparated (writeEntry json) (sortKeys values) 0
        (output ++ utf8Bytes "\x7b")
      return output ++ utf8Bytes "\x7d") := by
  have attached := @writeSeparated_attach (String × Value) (writeEntry json)
    (sortKeys values) 0 (output ++ utf8Bytes "\x7b")
  rw [writeCanonicalValue, ← attached]
  rfl

/-- The bytes are those of the canonical value, or the number is refused. -/
theorem writeCanonicalValue_writes (value : Value) :
    (¬ value.HasFloat → ∀ output, writeCanonicalValue json value output =
      .ok (output ++ JsonText.toBytes value.canonical)) ∧
    (value.HasFloat → ∀ output,
      writeCanonicalValue json value output = .error floatNotAdmitted) := by
  induction value using Value.inductionOn with
  | null =>
      constructor
      · intro _ output
        rw [writeCanonicalValue, Value.canonical]
        rfl
      · intro inside
        cases inside
  | bool value =>
      constructor
      · intro _ output
        rw [writeCanonicalValue, Value.canonical]
        cases value <;> rfl
      · intro inside
        cases inside
  | number value =>
      cases value with
      | float bits =>
          constructor
          · intro plain
            exact absurd (.number bits) plain
          · intro _ output
            rw [writeCanonicalValue]
      | posInt value =>
          constructor
          · intro plain output
            rw [writeCanonicalValue, Value.canonical, json.toVec_eq plain]
            simp
          · intro inside
            cases inside
      | negInt value =>
          constructor
          · intro plain output
            rw [writeCanonicalValue, Value.canonical, json.toVec_eq plain]
            simp
          · intro inside
            cases inside
  | string value =>
      constructor
      · intro plain output
        rw [writeCanonicalValue, Value.canonical, json.toVec_eq plain]
      · intro inside
        cases inside
  | array items ih =>
      constructor
      · intro plain output
        have each : ∀ item ∈ items, ∀ output,
            writeCanonicalValue json item output =
              .ok (output ++ encoded (JsonText.valueText item.canonical)) :=
          fun item member => (ih item member).1
            fun inside => plain (.array member inside)
        rw [writeCanonicalValue_array, writeSeparated_items each,
          Value.canonical, JsonText.toBytes, valueText_array, separatedText_map]
        change Except.ok _ = Except.ok (output ++ encoded _)
        rw [encoded_append, encoded_append]
        simp only [List.append_assoc]
        rfl
      · intro inside output
        cases inside with
        | array member inside =>
            rw [writeCanonicalValue_array, writeSeparated_error
              (fun item isItem => ?_) member ((ih _ member).2 inside)]
            · rfl
            · by_cases float : item.HasFloat
              · exact .inr ((ih item isItem).2 float)
              · exact .inl fun output => ⟨_, (ih item isItem).1 float output⟩
  | object entries ih =>
      have sorted : ∀ entry ∈ sortKeys entries, entry ∈ entries :=
        fun entry member => (sortKeys_perm entries).mem_iff.mp member
      have ok : ∀ entry ∈ entries, ¬ entry.2.HasFloat → ∀ output,
          writeEntry json entry output = .ok (output ++ encoded
            (JsonText.entryText (entry.1, entry.2.canonical))) := by
        intro entry member plain output
        rw [writeEntry, (ih entry member).1 plain, JsonText.entryText,
          encoded_append, ← List.singleton_append, encoded_append]
        simp only [List.append_assoc]
        rfl
      constructor
      · intro plain output
        have each : ∀ entry ∈ sortKeys entries, ∀ output,
            writeEntry json entry output = .ok (output ++ encoded
              (JsonText.entryText (entry.1, entry.2.canonical))) :=
          fun entry member => ok entry (sorted entry member)
            fun inside => plain (.object (sorted entry member) inside)
        rw [writeCanonicalValue_object, writeSeparated_items each,
          Value.canonical, sortKeys_map, JsonText.toBytes, valueText_object,
          separatedText_map]
        change Except.ok _ = Except.ok (output ++ encoded _)
        rw [encoded_append, encoded_append]
        simp only [List.append_assoc]
        rfl
      · intro inside output
        cases inside with
        | @object _ bad member inside =>
            have refuses : ∀ output,
                writeEntry json bad output = .error floatNotAdmitted :=
              fun output => (ih bad member).2 inside _
            rw [writeCanonicalValue_object, writeSeparated_error
              (fun entry isEntry => ?_)
              ((sortKeys_perm entries).mem_iff.mpr member) refuses]
            · rfl
            · by_cases float : entry.2.HasFloat
              · exact .inr fun output =>
                  (ih entry (sorted entry isEntry)).2 float _
              · exact .inl fun output =>
                  ⟨_, ok entry (sorted entry isEntry) float output⟩

theorem mapM_ok {Item Result Failure : Type}
    {read : Item → Except Failure Result} {result : Item → Result}
    {items : List Item} (each : ∀ item ∈ items, read item = .ok (result item)) :
    items.mapM read = .ok (items.map result) := by
  induction items with
  | nil => rfl
  | cons item rest ih =>
      rw [List.mapM_cons, each item List.mem_cons_self,
        ih fun other member => each other (List.mem_cons_of_mem _ member)]
      rfl

theorem mapM_error {Item Result Failure : Type}
    {read : Item → Except Failure Result} {items : List Item}
    {failure : Failure} (each : ∀ item ∈ items,
      (∃ result, read item = .ok result) ∨ read item = .error failure)
    {bad : Item} (member : bad ∈ items) (fails : read bad = .error failure) :
    items.mapM read = .error failure := by
  induction items with
  | nil => exact absurd member List.not_mem_nil
  | cons item rest ih =>
      rw [List.mapM_cons]
      rcases each item List.mem_cons_self with ⟨result, reads⟩ | refuses
      · rcases List.mem_cons.mp member with rfl | later
        · rw [fails] at reads
          cases reads
        · rw [reads, ih
            (fun other isOther => each other (List.mem_cons_of_mem _ isOther))
            later]
          rfl
      · rw [refuses]
        rfl

theorem canonicalItems_eq_mapM (items : List Value) :
    canonicalItems items = items.mapM canonicalValue := by
  induction items with
  | nil => rfl
  | cons item rest ih =>
      rw [canonicalItems, ih, List.mapM_cons]

/-- The entry with its canonical value. -/
def canonicalEntry (entry : String × Value) :
    Except HttpResponse (String × Value) := do
  return (entry.1, ← canonicalValue entry.2)

theorem canonicalEntries_eq_mapM (entries : List (String × Value)) :
    canonicalEntries entries = entries.mapM canonicalEntry := by
  induction entries with
  | nil => rfl
  | cons entry rest ih =>
      rw [canonicalEntries, ih, List.mapM_cons, canonicalEntry]
      simp only [bind_assoc, pure_bind]

theorem canonicalValue_eq (value : Value) :
    (¬ value.HasFloat → canonicalValue value = .ok value.canonical) ∧
    (value.HasFloat → canonicalValue value = .error floatNotAdmitted) := by
  induction value using Value.inductionOn with
  | null =>
      constructor
      · intro _
        rw [canonicalValue, Value.canonical]
      · intro inside
        cases inside
  | bool value =>
      constructor
      · intro _
        rw [canonicalValue, Value.canonical]
      · intro inside
        cases inside
  | number value =>
      constructor
      · intro plain
        rw [canonicalValue.eq_def, Value.canonical]
        cases value with
        | float bits => exact absurd (.number bits) plain
        | posInt value => rfl
        | negInt value => rfl
      · intro inside
        cases inside with
        | number bits => rfl
  | string value =>
      constructor
      · intro _
        rw [canonicalValue, Value.canonical]
      · intro inside
        cases inside
  | array items ih =>
      constructor
      · intro plain
        rw [canonicalValue, canonicalItems_eq_mapM, mapM_ok fun item member =>
          (ih item member).1 fun inside => plain (.array member inside),
          Value.canonical]
        rfl
      · intro inside
        cases inside with
        | array member inside =>
            rw [canonicalValue, canonicalItems_eq_mapM, mapM_error
              (fun item isItem => ?_) member ((ih _ member).2 inside)]
            · rfl
            · by_cases float : item.HasFloat
              · exact .inr ((ih item isItem).2 float)
              · exact .inl ⟨_, (ih item isItem).1 float⟩
  | object entries ih =>
      have ok : ∀ entry ∈ entries, ¬ entry.2.HasFloat →
          canonicalEntry entry = .ok (entry.1, entry.2.canonical) := by
        intro entry member plain
        rw [canonicalEntry, (ih entry member).1 plain]
        rfl
      have error : ∀ entry ∈ entries, entry.2.HasFloat →
          canonicalEntry entry = .error floatNotAdmitted := by
        intro entry member float
        rw [canonicalEntry, (ih entry member).2 float]
        rfl
      constructor
      · intro plain
        rw [canonicalValue, canonicalEntries_eq_mapM,
          mapM_ok fun entry member => ok entry member
            fun inside => plain (.object member inside),
          Value.canonical]
        rfl
      · intro inside
        cases inside with
        | object member inside =>
            rw [canonicalValue, canonicalEntries_eq_mapM, mapM_error
              (fun entry isEntry => ?_) member (error _ member inside)]
            · rfl
            · by_cases float : entry.2.HasFloat
              · exact .inr (error entry isEntry float)
              · exact .inl ⟨_, ok entry isEntry float⟩

/-- The body that the fingerprint covers is what `write_canonical_value`
writes. -/
theorem canonicalRequestBody_eq (request : MutationRequest) :
    request.canonicalRequestBody =
      writeCanonicalValue json request.content [] := by
  rw [MutationRequest.canonicalRequestBody]
  by_cases float : request.content.HasFloat
  · rw [(canonicalValue_eq _).2 float,
      (writeCanonicalValue_writes json _).2 float]
    rfl
  · rw [(canonicalValue_eq _).1 float,
      (writeCanonicalValue_writes json _).1 float]
    rfl

theorem Value.Plain.not_hasFloat {value : Value} (plain : value.Plain) :
    ¬ value.HasFloat := by
  intro float
  induction float with
  | number bits => cases plain
  | array member _ ih =>
      cases plain with
      | array each => exact ih (each _ member)
  | object member _ ih =>
      cases plain with
      | object _ each => exact ih (each _ member)

/-- The code units of a text determine its characters. -/
theorem utf16Units_injective : Function.Injective utf16Units := by
  intro first second same
  apply String.toList_inj.mp
  unfold utf16Units at same
  generalize first.toList = firsts at same ⊢
  generalize second.toList = seconds at same ⊢
  induction firsts generalizing seconds with
  | nil =>
      cases seconds with
      | nil => rfl
      | cons character rest =>
          rw [List.flatMap_cons] at same
          split at same <;> cases same
  | cons first firsts ih =>
      cases seconds with
      | nil =>
          rw [List.flatMap_cons] at same
          split at same <;> cases same
      | cons second seconds =>
          have firstValid : first.toNat < 0xd800 ∨
              0xdfff < first.toNat ∧ first.toNat < 0x110000 := first.valid
          have secondValid : second.toNat < 0xd800 ∨
              0xdfff < second.toNat ∧ second.toNat < 0x110000 := second.valid
          rw [List.flatMap_cons, List.flatMap_cons] at same
          split at same
          · split at same
            · obtain ⟨head, tail⟩ := List.cons.inj same
              rw [Char.toNat_inj.mp head, ih _ tail]
            · have head := (List.cons.inj same).1
              omega
          · split at same
            · have head := (List.cons.inj same).1
              omega
            · obtain ⟨high, others⟩ := List.cons.inj same
              obtain ⟨low, tail⟩ := List.cons.inj others
              have code : first.toNat = second.toNat := by omega
              rw [Char.toNat_inj.mp code, ih _ tail]

theorem eq_of_mem_of_nodup {Key Item : Type} {entries : List (Key × Item)}
    (distinct : (entries.map Prod.fst).Nodup) {key : Key} {first second : Item}
    (isFirst : (key, first) ∈ entries) (isSecond : (key, second) ∈ entries) :
    first = second :=
  congrArg Prod.snd (List.inj_on_of_nodup_map distinct isFirst isSecond rfl)

/-- The canonical entries of an object with distinct keys are those of any other
with the same keys and equal values. -/
theorem sortKeys_eq_of_perm {first second : List (String × Value)}
    (perm : first.Perm second) (distinct : (first.map Prod.fst).Nodup) :
    sortKeys first = sortKeys second := by
  have sorted : ∀ entries, (sortKeys entries).Pairwise fun first second =>
      utf16Units first.1 ≤ utf16Units second.1 := fun entries =>
    List.pairwise_insertionSort
      (fun first second : String × Value =>
        utf16Units first.1 ≤ utf16Units second.1) entries
  refine List.Perm.eq_of_pairwise ?_ (sorted first) (sorted second)
    ((sortKeys_perm first).trans (perm.trans (sortKeys_perm second).symm))
  rintro ⟨key, value⟩ ⟨otherKey, other⟩ isFirst isSecond below above
  obtain rfl := utf16Units_injective (le_antisymm below above)
  have inFirst := (sortKeys_perm first).mem_iff.mp isFirst
  have inSecond := perm.mem_iff.mpr ((sortKeys_perm second).mem_iff.mp isSecond)
  rw [eq_of_mem_of_nodup distinct inFirst inSecond]

/-- The entries with their canonical values. -/
def canonicalPairs (entries : List (String × Value)) :
    List (String × Value) :=
  entries.map fun entry => (entry.1, entry.2.canonical)

theorem canonicalPairs_keys (entries : List (String × Value)) :
    (canonicalPairs entries).map Prod.fst = entries.map Prod.fst := by
  simp [canonicalPairs]

theorem mem_canonicalPairs {first second : List (String × Value)}
    (keys : ∀ key, key ∈ first.map Prod.fst → key ∈ second.map Prod.fst)
    (sameValue : ∀ key value other, (key, value) ∈ first →
      (key, other) ∈ second → value.canonical = other.canonical)
    {pair : String × Value} (member : pair ∈ canonicalPairs first) :
    pair ∈ canonicalPairs second := by
  obtain ⟨⟨key, value⟩, isFirst, rfl⟩ := List.mem_map.mp member
  obtain ⟨⟨_, other⟩, isSecond, rfl⟩ :=
    List.mem_map.mp (keys key (List.mem_map_of_mem isFirst))
  rw [sameValue _ _ _ isFirst isSecond]
  exact List.mem_map_of_mem isSecond

theorem canonical_eq_of_same {first second : Value}
    (same : first.Same second) (firstPlain : first.Plain)
    (secondPlain : second.Plain) : first.canonical = second.canonical := by
  induction same with
  | null => rfl
  | bool value => rfl
  | number value => rfl
  | string value => rfl
  | @array firsts seconds length _ ih =>
      cases firstPlain with
      | array firstEach =>
        cases secondPlain with
        | array secondEach =>
            rw [Value.canonical, Value.canonical]
            refine congrArg _ (List.ext_getElem (by simp [length]) ?_)
            intro index isFirst isSecond
            rw [List.length_map] at isFirst isSecond
            rw [List.getElem_map, List.getElem_map]
            exact ih index _ _ (List.getElem?_eq_getElem isFirst)
              (List.getElem?_eq_getElem isSecond)
              (firstEach _ (List.getElem_mem isFirst))
              (secondEach _ (List.getElem_mem isSecond))
  | @object firsts seconds keys _ ih =>
      cases firstPlain with
      | object firstDistinct firstEach =>
        cases secondPlain with
        | object secondDistinct secondEach =>
            have sameValue : ∀ key value other, (key, value) ∈ firsts →
                (key, other) ∈ seconds → value.canonical = other.canonical :=
              fun key value other isFirst isSecond =>
                ih key value other isFirst isSecond (firstEach _ isFirst)
                  (secondEach _ isSecond)
            have distinct : ((canonicalPairs firsts).map Prod.fst).Nodup := by
              rwa [canonicalPairs_keys]
            have perm : (canonicalPairs firsts).Perm (canonicalPairs seconds) := by
              refine (List.perm_ext_iff_of_nodup (.of_map Prod.fst distinct)
                (.of_map Prod.fst (by rwa [canonicalPairs_keys]))).mpr ?_
              intro pair
              constructor
              · exact mem_canonicalPairs (fun key => keys.mem_iff.mp) sameValue
              · exact mem_canonicalPairs (fun key => keys.mem_iff.mpr)
                  fun key value other isSecond isFirst =>
                    (sameValue key other value isFirst isSecond).symm
            rw [Value.canonical, Value.canonical]
            exact congrArg _ (sortKeys_eq_of_perm perm distinct)

theorem same_of_canonical_eq {first second : Value} (firstPlain : first.Plain)
    (secondPlain : second.Plain)
    (same : first.canonical = second.canonical) : first.Same second := by
  induction first using Value.inductionOn generalizing second with
  | null =>
      cases second <;> simp [Value.canonical] at same
      exact .null
  | bool value =>
      cases second <;> simp [Value.canonical] at same
      exact same ▸ .bool value
  | number value =>
      cases second <;> simp [Value.canonical] at same
      exact same ▸ .number value
  | string value =>
      cases second <;> simp [Value.canonical] at same
      exact same ▸ .string value
  | array items ih =>
      cases second with
      | array others =>
          cases firstPlain with
          | array firstEach =>
            cases secondPlain with
            | array secondEach =>
                rw [Value.canonical, Value.canonical] at same
                have sameItems := Value.array.inj same
                have length := congrArg List.length sameItems
                rw [List.length_map, List.length_map] at length
                refine .array length fun index value other isFirst isSecond => ?_
                have isValue := List.mem_of_getElem? isFirst
                have isOther := List.mem_of_getElem? isSecond
                apply ih value isValue (firstEach _ isValue)
                  (secondEach _ isOther)
                have atIndex := congrArg (·[index]?) sameItems
                simp only [List.getElem?_map, isFirst, isSecond,
                  Option.map_some, Option.some.injEq] at atIndex
                exact atIndex
      | _ => simp [Value.canonical] at same
  | object entries ih =>
      cases second with
      | object others =>
          cases firstPlain with
          | object firstDistinct firstEach =>
            cases secondPlain with
            | object secondDistinct secondEach =>
                rw [Value.canonical, Value.canonical] at same
                have perm : (canonicalPairs entries).Perm
                    (canonicalPairs others) :=
                  (sortKeys_perm _).symm.trans
                    ((Value.object.inj same) ▸ sortKeys_perm _)
                have keys := perm.map Prod.fst
                rw [canonicalPairs_keys, canonicalPairs_keys] at keys
                refine .object keys fun key value other isFirst isSecond => ?_
                apply ih _ isFirst (firstEach _ isFirst) (secondEach _ isSecond)
                have firstPair : (key, value.canonical) ∈ canonicalPairs others :=
                  perm.mem_iff.mp (List.mem_map.mpr ⟨_, isFirst, rfl⟩)
                have secondPair : (key, other.canonical) ∈ canonicalPairs others :=
                  List.mem_map.mpr ⟨_, isSecond, rfl⟩
                exact eq_of_mem_of_nodup (by rwa [canonicalPairs_keys])
                  firstPair secondPair
      | _ => simp [Value.canonical] at same

theorem same_canonical {value : Value} (plain : value.Plain) :
    value.Same value.canonical := by
  induction plain with
  | null =>
      rw [Value.canonical]
      exact .null
  | bool value =>
      rw [Value.canonical]
      exact .bool value
  | posInt value =>
      rw [Value.canonical]
      exact .number _
  | negInt negative =>
      rw [Value.canonical]
      exact .number _
  | string value =>
      rw [Value.canonical]
      exact .string value
  | array each ih =>
      rw [Value.canonical]
      refine .array (by simp) fun index value other isFirst isSecond => ?_
      rw [List.getElem?_map, isFirst] at isSecond
      obtain rfl := Option.some.inj isSecond
      exact ih value (List.mem_of_getElem? isFirst)
  | @object entries distinct each ih =>
      rw [Value.canonical]
      have perm : (sortKeys (canonicalPairs entries)).Perm
          (canonicalPairs entries) := sortKeys_perm _
      have keys := perm.map Prod.fst
      rw [canonicalPairs_keys] at keys
      refine .object keys.symm fun key value other isFirst isSecond => ?_
      obtain ⟨⟨_, source⟩, isSource, pair⟩ :=
        List.mem_map.mp (perm.mem_iff.mp isSecond)
      obtain ⟨rfl, rfl⟩ := Prod.mk.inj pair
      rw [eq_of_mem_of_nodup distinct isSource isFirst]
      exact ih _ isFirst

theorem writeCanonicalValue_plain {value : Value} (plain : value.Plain) :
    writeCanonicalValue json value [] =
      .ok (JsonText.toBytes value.canonical) :=
  (writeCanonicalValue_writes json value).1 plain.not_hasFloat []

theorem toBytes_injective : Function.Injective JsonText.toBytes := by
  intro first second same
  apply Option.some.inj
  rw [← JsonText.fromBytes_toBytes first, same, JsonText.fromBytes_toBytes]

/-- The bytes of a body stand for its value and nothing else, and the
fingerprint of a mutation for its principal, operation, targets and body. -/
theorem mutation_fingerprints_unambiguous {sha256 : List UInt8 → Digest}
    {hashed : Set (List UInt8)} (injective : Set.InjOn sha256 hashed) :
    (∀ value : Value, value.Plain → ∃ bytes read,
      writeCanonicalValue json value [] = .ok bytes ∧
        JsonText.fromBytes bytes = some read ∧ value.Same read) ∧
    (∀ first second : Value, first.Plain → second.Plain →
      (writeCanonicalValue json first [] = writeCanonicalValue json second [] ↔
        first.Same second)) ∧
    ∀ (first second : MutationRequest) (firstBody secondBody : List UInt8),
      writeCanonicalValue json first.content [] = .ok firstBody →
      writeCanonicalValue json second.content [] = .ok secondBody →
      first.HashesIn sha256 hashed firstBody →
      second.HashesIn sha256 hashed secondBody →
      (first.fingerprint sha256 firstBody =
          second.fingerprint sha256 secondBody ↔
        first.principal = second.principal ∧
          first.operation = second.operation ∧
          first.targets = second.targets ∧ firstBody = secondBody) := by
  refine ⟨fun value plain => ?_, fun first second firstPlain secondPlain => ?_,
    fun first second firstBody secondBody _ _ firstHashes secondHashes =>
      fingerprint_eq_iff injective firstHashes secondHashes⟩
  · exact ⟨_, _, writeCanonicalValue_plain json plain,
      JsonText.fromBytes_toBytes _, same_canonical plain⟩
  · rw [writeCanonicalValue_plain json firstPlain,
      writeCanonicalValue_plain json secondPlain, Except.ok.injEq,
      toBytes_injective.eq_iff]
    exact ⟨same_of_canonical_eq firstPlain secondPlain,
      fun same => canonical_eq_of_same same firstPlain secondPlain⟩

/-- `thread.send` with a message. -/
def sendRequest : MutationRequest where
  principal := "phone"
  key := "k"
  operation := "thread.send"
  targets := ["workspace", "profile", "thread"]
  content := .object [("message", .string "hello")]
  sized := by decide

/-- The body of `thread.send`. -/
def sendBody : List UInt8 :=
  utf8Bytes "\x7b\"message\":\"hello\"\x7d"

/-- The SHA-256 digests of the empty object and of that body. -/
def emptyBodyDigest : Digest :=
  #v[68, 19, 111, 163, 85, 179, 103, 138, 17, 70, 173, 22, 247, 232, 100, 158,
    148, 251, 79, 194, 31, 231, 126, 131, 16, 192, 96, 246, 28, 170, 255, 138]

def sendBodyDigest : Digest :=
  #v[155, 45, 67, 175, 251, 244, 154, 54, 112, 40, 223, 46, 20, 20, 248, 76,
    14, 9, 154, 201, 140, 61, 84, 168, 168, 1, 87, 253, 119, 113, 175, 37]

/-- What the fingerprint of a request to this thread is the hash of. -/
def sampleFingerprintInput (operation : String) (bodyDigest : Digest) :
    List UInt8 :=
  framed (["phone", "v2", operation, "workspace", "profile", "thread"].map
    utf8Bytes) ++ bodyDigest.toList

/-- The strings that the two requests hash, with their SHA-256 digests. -/
def sampleDigests : List (List UInt8 × Digest) :=
  [(utf8Bytes "k",
    #v[130, 84, 195, 41, 169, 40, 80, 246, 213, 57, 221, 55, 111, 72, 22, 238,
      39, 100, 81, 125, 165, 224, 35, 85, 20, 175, 67, 49, 100, 72, 13, 122]),
    ([123, 125], emptyBodyDigest),
    (sendBody, sendBodyDigest),
    (sampleFingerprintInput "thread.stop" emptyBodyDigest,
    #v[151, 245, 228, 48, 85, 65, 100, 196, 73, 158, 40, 91, 221, 151, 194, 138,
      114, 11, 175, 87, 54, 144, 42, 102, 135, 156, 10, 150, 76, 26, 157, 193]),
    (sampleFingerprintInput "thread.send" sendBodyDigest,
    #v[242, 192, 99, 54, 90, 21, 246, 189, 24, 131, 95, 210, 65, 17, 6, 158,
      238, 56, 6, 78, 15, 193, 103, 100, 85, 233, 36, 27, 75, 104, 124, 110])]

/-- SHA-256 on these strings. -/
def sampleSha256 (bytes : List UInt8) : Digest :=
  (sampleDigests.lookup bytes).getD (.replicate 32 0)

def sampleHashed : Set (List UInt8) :=
  {bytes | bytes ∈ sampleDigests.map Prod.fst}

theorem sampleSha256_injOn : Set.InjOn sampleSha256 sampleHashed := by
  have distinct : ∀ first ∈ sampleDigests.map Prod.fst,
      ∀ second ∈ sampleDigests.map Prod.fst,
        sampleSha256 first = sampleSha256 second → first = second := by
    decide +kernel
  intro first isFirst second isSecond
  exact distinct first isFirst second isSecond

/-- Stopping a thread and sending to it. -/
theorem sampleFingerprints_differ :
    GatewaySystem.stopRequest.fingerprint sampleSha256 [123, 125] ≠
      sendRequest.fingerprint sampleSha256 sendBody := by
  have stopWritten : writeCanonicalValue jsonTextWriter
      GatewaySystem.stopRequest.content [] = .ok [123, 125] := by
    rw [← canonicalRequestBody_eq]
    rfl
  have sendWritten : writeCanonicalValue jsonTextWriter sendRequest.content [] =
      .ok sendBody := by
    rw [← canonicalRequestBody_eq]
    rfl
  have stopHashes : GatewaySystem.stopRequest.HashesIn sampleSha256
      sampleHashed [123, 125] := by
    simp only [MutationRequest.HashesIn, sampleHashed, Set.mem_ofPred_eq]
    decide +kernel
  have sendHashes : sendRequest.HashesIn sampleSha256 sampleHashed
      sendBody := by
    simp only [MutationRequest.HashesIn, sampleHashed, Set.mem_ofPred_eq]
    decide +kernel
  have unambiguous := (mutation_fingerprints_unambiguous jsonTextWriter
    sampleSha256_injOn).2.2 _ sendRequest [123, 125] sendBody stopWritten
    sendWritten stopHashes sendHashes
  intro same
  have operations := (unambiguous.mp same).2.1
  exact absurd operations (by decide)

end PlatoAgent
