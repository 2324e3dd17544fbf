import Mathlib
import PlatoAgent.CoreEvents

/-!
# Derived codecs of structs

A derived reader takes the fields of a struct from an object by name or from an
array by position.  A reader of text refuses a field that is given twice, and a
reader of a value never sees one, since the last entry stays in its map.
-/

namespace PlatoAgent

/-- A type whose derived codec reads back what it writes; it does not write
null. -/
structure DerivedCodec (Result : Type) where
  toValue : Result → Value
  fromValue : Value → Except String Result
  fromValue_toValue : ∀ result, fromValue (toValue result) = .ok result
  toValue_ne_null : ∀ result, toValue result ≠ .null

/-- `Value::get` with a name. -/
def Value.entry : Value → String → Option Value
  | .object entries, name => entries.reverse.lookup name
  | _, _ => none

/-- The fields that a struct is read from. -/
structure StructInput where
  positional : Bool
  field : String → Option Value

/-- The fields of a struct with these names; the first fault is reported. -/
def readStruct (names : List String) (denyUnknown unique : Bool) :
    Value → Except String StructInput
  | .object entries =>
      match entries.find? (fun entry => denyUnknown && entry.1 ∉ names),
        names.find? (fun name => unique && 1 < (entries.map (·.1)).count name)
      with
      | some entry, _ => .error s!"unknown field {entry.1}"
      | none, some name => .error s!"duplicate field {name}"
      | none, none => .ok ⟨false, fun name => entries.reverse.lookup name⟩
  | .array items =>
      if names.length < items.length then
        .error s!"invalid length {items.length}"
      else .ok ⟨true, fun name => items[names.idxOf name]?⟩
  | _ => .error "invalid type"

theorem readStruct_object {names : List String} {denyUnknown unique : Bool}
    {entries : List (String × Value)}
    (known : ∀ entry ∈ entries, entry.1 ∈ names)
    (distinct : (entries.map (·.1)).Nodup) :
    readStruct names denyUnknown unique (.object entries) =
      .ok ⟨false, fun name => entries.reverse.lookup name⟩ := by
  have noUnknown : entries.find?
      (fun entry => denyUnknown && entry.1 ∉ names) = none := by
    apply List.find?_eq_none.mpr
    intro entry member
    simp [known entry member]
  have noDuplicate : names.find?
      (fun name => unique && 1 < (entries.map (·.1)).count name) = none := by
    apply List.find?_eq_none.mpr
    intro name _
    have once := List.nodup_iff_count_le_one.mp distinct name
    simp [once]
  unfold readStruct
  dsimp only
  rw [noUnknown, noDuplicate]

/-- A reader of a value that reports what it expected. -/
def expecting {Result : Type} (expected : String)
    (read : Value → Option Result) (value : Value) : Except String Result :=
  match read value with
  | some result => .ok result
  | none => .error s!"expected {expected}"

namespace StructInput

variable {Result : Type}

def required (input : StructInput) (name : String)
    (read : Value → Except String Result) : Except String Result :=
  match input.field name with
  | some value => read value
  | none => .error s!"missing field {name}"

/-- `#[serde(default)]`. -/
def defaulted (input : StructInput) (name : String) (default : Result)
    (read : Value → Except String Result) : Except String Result :=
  match input.field name with
  | some value => read value
  | none => .ok default

/-- An optional value is null or the value. -/
def readOption (read : Value → Except String Result) :
    Value → Except String (Option Result)
  | .null => .ok none
  | value => (read value).map some

/-- An `Option` without a default can be missing from an object only. -/
def optional (input : StructInput) (name : String)
    (read : Value → Except String Result) : Except String (Option Result) :=
  match input.field name with
  | some value => readOption read value
  | none =>
      if input.positional then .error s!"missing field {name}" else .ok none

/-- A required field was read from some value. -/
theorem required_eq_ok {input : StructInput} {name : String}
    {read : Value → Except String Result} {result : Result}
    (isResult : input.required name read = .ok result) :
    ∃ value, read value = .ok result := by
  unfold required at isResult
  split at isResult
  next value _ => exact ⟨value, isResult⟩
  next => cases isResult

theorem readOption_some {read : Value → Except String Result} {value : Value}
    (notNull : value ≠ .null) :
    readOption read value = (read value).map some := by
  cases value with
  | null => exact absurd rfl notNull
  | _ => rfl

end StructInput

def readSequenceOf {Item : Type} (read : Value → Except String Item) :
    Value → Except String (List Item)
  | .array items => items.mapM read
  | _ => .error "expected a sequence"

theorem readSequenceOf_map {Item : Type} {read : Value → Except String Item}
    {write : Item → Value} {items : List Item}
    (restores : ∀ item ∈ items, read (write item) = .ok item) :
    readSequenceOf read (.array (items.map write)) = .ok items := by
  unfold readSequenceOf
  induction items with
  | nil => rfl
  | cons item rest ih =>
      have first := restores item List.mem_cons_self
      have others := ih fun other member =>
        restores other (List.mem_cons_of_mem _ member)
      dsimp only at others ⊢
      rw [List.map_cons, List.mapM_cons, first, others]
      rfl

theorem forall_of_readSequenceOf {Item : Type}
    {read : Value → Except String Item} {holds : Item → Prop}
    (each : ∀ value item, read value = .ok item → holds item) {value : Value}
    {items : List Item} (isRead : readSequenceOf read value = .ok items) :
    ∀ item ∈ items, holds item := by
  unfold readSequenceOf at isRead
  split at isRead
  next values =>
    induction values generalizing items with
    | nil =>
        cases isRead
        intro item member
        cases member
    | cons first rest ih =>
        rw [List.mapM_cons] at isRead
        cases isFirst : read first with
        | error text =>
            rw [isFirst] at isRead
            cases isRead
        | ok item =>
            cases isRest : rest.mapM read with
            | error text =>
                rw [isFirst, isRest] at isRead
                cases isRead
            | ok others =>
                rw [isFirst, isRest] at isRead
                cases isRead
                intro other member
                rcases List.mem_cons.mp member with rfl | isOther
                · exact each first _ isFirst
                · exact ih isRest other isOther
  next => cases isRead

end PlatoAgent
