import Mathlib

/-!
# Finite maps

Association lists with distinct keys stand for hash maps.  Mathlib has lookup,
insertion and removal; a map is also cut down to some of its values, and asked
whether one of its values passes a test.
-/

namespace PlatoAgent

abbrev FiniteMap (Key Value : Type) : Type :=
  AList fun _ : Key => Value

namespace FiniteMap

variable {Key Value : Type}

/-- `HashMap::retain` with a test of the values. -/
def retain (keeps : Value → Bool) (map : FiniteMap Key Value) :
    FiniteMap Key Value where
  entries := map.entries.filter fun entry => keeps entry.2
  nodupKeys := List.NodupKeys.sublist List.filter_sublist map.nodupKeys

/-- `HashMap::values` and `Iterator::any`. -/
def anyValue (test : Value → Bool) (map : FiniteMap Key Value) : Bool :=
  map.entries.any fun entry => test entry.2

/-- An update of every value. -/
def mapValues (change : Value → Value) (map : FiniteMap Key Value) :
    FiniteMap Key Value where
  entries := map.entries.map fun entry => ⟨entry.1, change entry.2⟩
  nodupKeys := by
    have keys : (map.entries.map fun entry =>
        (⟨entry.1, change entry.2⟩ : Sigma fun _ : Key => Value)).keys =
          map.entries.keys := by
      simp [List.keys, Function.comp_def]
    unfold List.NodupKeys
    rw [keys]
    exact map.nodupKeys

def size (map : FiniteMap Key Value) : Nat :=
  map.entries.length

@[simp]
theorem size_mapValues (change : Value → Value) (map : FiniteMap Key Value) :
    (map.mapValues change).size = map.size := by
  simp [mapValues, size]

theorem size_retain_le (keeps : Value → Bool) (map : FiniteMap Key Value) :
    (map.retain keeps).size ≤ map.size :=
  List.length_filter_le ..

variable [DecidableEq Key]

theorem lookup_eq_some_iff {map : FiniteMap Key Value} {key : Key}
    {value : Value} :
    map.lookup key = some value ↔ ⟨key, value⟩ ∈ map.entries :=
  AList.mem_lookup_iff

theorem lookup_retain_eq_some_iff {keeps : Value → Bool}
    {map : FiniteMap Key Value} {key : Key} {value : Value} :
    (map.retain keeps).lookup key = some value ↔
      map.lookup key = some value ∧ keeps value = true := by
  rw [lookup_eq_some_iff, lookup_eq_some_iff]
  exact List.mem_filter

theorem anyValue_iff {test : Value → Bool} {map : FiniteMap Key Value} :
    map.anyValue test = true ↔
      ∃ key value, map.lookup key = some value ∧ test value = true := by
  simp only [anyValue, List.any_eq_true, lookup_eq_some_iff]
  constructor
  · rintro ⟨⟨key, value⟩, member, passes⟩
    exact ⟨key, value, member, passes⟩
  · rintro ⟨key, value, member, passes⟩
    exact ⟨⟨key, value⟩, member, passes⟩

theorem lookup_insert_eq_some_iff {map : FiniteMap Key Value}
    {key other : Key} {value found : Value} :
    (map.insert key value).lookup other = some found ↔
      (other = key ∧ value = found) ∨
        (other ≠ key ∧ map.lookup other = some found) := by
  by_cases same : other = key
  · subst same
    simp [AList.lookup_insert]
  · simp [AList.lookup_insert_ne same, same]

theorem lookup_erase_eq_some_iff {map : FiniteMap Key Value}
    {key other : Key} {found : Value} :
    (map.erase key).lookup other = some found ↔
      other ≠ key ∧ map.lookup other = some found := by
  by_cases same : other = key
  · subst same
    simp
  · simp [AList.lookup_erase_ne same, same]

theorem lookup_mapValues (change : Value → Value) (map : FiniteMap Key Value)
    (key : Key) :
    (map.mapValues change).lookup key = (map.lookup key).map change := by
  ext value
  rw [lookup_eq_some_iff, Option.map_eq_some_iff]
  simp only [mapValues, List.mem_map, lookup_eq_some_iff]
  constructor
  · rintro ⟨⟨other, old⟩, member, same⟩
    cases same
    exact ⟨old, member, rfl⟩
  · rintro ⟨old, member, rfl⟩
    exact ⟨⟨key, old⟩, member, rfl⟩

theorem size_insert_le (map : FiniteMap Key Value) (key : Key)
    (value : Value) :
    size (map.insert key value) ≤ map.size + 1 := by
  have shorter := (List.kerase_sublist key map.entries).length_le
  simpa [size, AList.entries_insert] using shorter

theorem size_insert_of_lookup {map : FiniteMap Key Value} {key : Key}
    {old : Value} (found : map.lookup key = some old) (value : Value) :
    size (map.insert key value) = map.size := by
  have member : key ∈ map.keys :=
    AList.mem_keys.mp (AList.lookup_isSome.mp (by simp [found]))
  have sizes : ∀ other : FiniteMap Key Value,
      other.size = other.keys.length := by
    simp [size, AList.keys, List.keys]
  rw [sizes, sizes, AList.keys_insert, List.length_cons,
    List.length_erase_of_mem member]
  exact Nat.sub_add_cancel (List.length_pos_of_mem member)

end FiniteMap

end PlatoAgent
