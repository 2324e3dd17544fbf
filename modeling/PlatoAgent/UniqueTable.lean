import Mathlib

/-!
# Tables with unique constraints

A relational table is its rows in insertion order.  Every row exposes the
values of all its unique constraints as a list of keys, and no two rows share a
key.  Inserting a row that would break a constraint is refused; updates that
keep the keys and deletions cannot break one.
-/

/-- The two rows have no key in common. -/
def SeparateKeys {Row Key : Type} (keys : Row → List Key)
    (first second : Row) : Prop :=
  ∀ key ∈ keys first, key ∉ keys second

instance {Row Key : Type} [DecidableEq Key] (keys : Row → List Key)
    (first second : Row) : Decidable (SeparateKeys keys first second) :=
  inferInstanceAs (Decidable (∀ key ∈ keys first, key ∉ keys second))

instance {Row Key : Type} (keys : Row → List Key) :
    Std.Symm (SeparateKeys keys) :=
  ⟨fun _ _ separate key right left => separate key left right⟩

/-- Rows of which no two share a key. -/
structure UniqueTable (Row Key : Type) (keys : Row → List Key) where
  rows : List Row
  unique : rows.Pairwise (SeparateKeys keys)

namespace UniqueTable

variable {Row Key : Type} {keys : Row → List Key}

instance : Membership Row (UniqueTable Row Key keys) where
  mem table row := row ∈ table.rows

theorem mem_iff {table : UniqueTable Row Key keys} {row : Row} :
    row ∈ table ↔ row ∈ table.rows :=
  Iff.rfl

/-- The table without rows. -/
def empty : UniqueTable Row Key keys where
  rows := []
  unique := .nil

@[simp]
theorem not_mem_empty {row : Row} :
    row ∉ (empty : UniqueTable Row Key keys) :=
  List.not_mem_nil

/-- Two rows with a common key are the same row. -/
theorem eq_of_shared_key {table : UniqueTable Row Key keys}
    {first second : Row} (firstMember : first ∈ table)
    (secondMember : second ∈ table) (key : Key) (left : key ∈ keys first)
    (right : key ∈ keys second) : first = second := by
  by_contra different
  exact table.unique.forall firstMember secondMember different key left right

/-- A condition that fixes a key selects the row with that key. -/
theorem find?_eq_some_iff {table : UniqueTable Row Key keys}
    {selected : Row → Bool} (key : Key)
    (identifies : ∀ row, selected row = true → key ∈ keys row) {row : Row} :
    table.rows.find? selected = some row ↔
      row ∈ table ∧ selected row = true := by
  constructor
  · intro found
    exact ⟨List.mem_of_find?_eq_some found, List.find?_some found⟩
  · rintro ⟨member, isSelected⟩
    cases found : table.rows.find? selected with
    | none =>
        exact absurd isSelected (List.find?_eq_none.mp found row member)
    | some other =>
        rw [eq_of_shared_key (List.mem_of_find?_eq_some found) member key
          (identifies other (List.find?_some found))
          (identifies row isSelected)]

section Insert

variable [DecidableEq Key]

/-- Insert a row, unless a present row shares one of its keys. -/
def insert? (table : UniqueTable Row Key keys) (row : Row) :
    Option (UniqueTable Row Key keys) :=
  if separate : ∀ present ∈ table.rows, SeparateKeys keys present row then
    some
      { rows := table.rows ++ [row]
        unique := by
          refine List.pairwise_append.mpr ⟨table.unique, by simp, ?_⟩
          intro present member added isAdded
          obtain rfl : added = row := by simpa using isAdded
          exact separate present member }
  else
    none

theorem insert?_eq_some {table after : UniqueTable Row Key keys} {row : Row}
    (inserted : table.insert? row = some after) :
    after.rows = table.rows ++ [row] ∧
      ∀ present ∈ table, SeparateKeys keys present row := by
  unfold insert? at inserted
  split at inserted
  next separate =>
    cases inserted
    exact ⟨rfl, separate⟩
  next => cases inserted

theorem mem_insert? {table after : UniqueTable Row Key keys} {row other : Row}
    (inserted : table.insert? row = some after) :
    other ∈ after ↔ other ∈ table ∨ other = row := by
  simp [mem_iff, (insert?_eq_some inserted).1]

/-- A present row that shares a key refuses the insertion. -/
theorem insert?_eq_none {table : UniqueTable Row Key keys} {row present : Row}
    (member : present ∈ table) (key : Key) (left : key ∈ keys present)
    (right : key ∈ keys row) : table.insert? row = none := by
  cases inserted : table.insert? row with
  | none => rfl
  | some after =>
      exact absurd right ((insert?_eq_some inserted).2 present member key left)

theorem insert?_of_separate {table : UniqueTable Row Key keys} {row : Row}
    (separate : ∀ present ∈ table, SeparateKeys keys present row) :
    ∃ after, table.insert? row = some after := by
  unfold insert?
  split
  · exact ⟨_, rfl⟩
  next shared => exact absurd separate shared

end Insert

/-- Change the selected rows by a function that keeps their keys. -/
def update (table : UniqueTable Row Key keys) (selected : Row → Bool)
    (change : Row → Row) (keepsKeys : ∀ row, keys (change row) = keys row) :
    UniqueTable Row Key keys where
  rows := table.rows.map fun row => if selected row then change row else row
  unique := by
    refine table.unique.map _ fun first second separate => ?_
    have kept : ∀ row, keys (if selected row then change row else row) =
        keys row := fun row => by split <;> simp [keepsKeys]
    intro key left
    rw [kept] at left ⊢
    exact separate key left

theorem mem_update {table : UniqueTable Row Key keys} {selected : Row → Bool}
    {change : Row → Row} (keepsKeys : ∀ row, keys (change row) = keys row)
    {other : Row} :
    other ∈ table.update selected change keepsKeys ↔
      ∃ row ∈ table, other = if selected row then change row else row := by
  simp only [mem_iff, update, List.mem_map, eq_comm]

/-- Change the selected rows, unless two rows then share a key. -/
def update? [DecidableEq Key] (table : UniqueTable Row Key keys)
    (selected : Row → Bool) (change : Row → Row) :
    Option (UniqueTable Row Key keys) :=
  if unique : (table.rows.map fun row =>
      if selected row then change row else row).Pairwise (SeparateKeys keys) then
    some ⟨_, unique⟩
  else
    none

theorem mem_update? [DecidableEq Key] {table after : UniqueTable Row Key keys}
    {selected : Row → Bool} {change : Row → Row}
    (updated : table.update? selected change = some after) {other : Row} :
    other ∈ after ↔
      ∃ row ∈ table, other = if selected row then change row else row := by
  unfold update? at updated
  split at updated
  · cases updated
    simp only [mem_iff, List.mem_map, eq_comm]
  · cases updated

/-- Delete the selected rows. -/
def delete (table : UniqueTable Row Key keys) (selected : Row → Bool) :
    UniqueTable Row Key keys where
  rows := table.rows.filter fun row => !selected row
  unique := table.unique.filter _

theorem mem_delete {table : UniqueTable Row Key keys} {selected : Row → Bool}
    {other : Row} :
    other ∈ table.delete selected ↔
      other ∈ table ∧ selected other = false := by
  simp [mem_iff, delete]

end UniqueTable
