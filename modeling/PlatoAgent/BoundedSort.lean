import Mathlib.Data.List.Sort
import Mathlib.Data.List.InsertIdx
import Mathlib.Tactic

/-!
# The first items of a sort

Items that arrive one by one are kept in order.  Where only the first of them
are wanted, it is enough to keep as many at every time.
-/

namespace BoundedSort

variable {Item Key : Type} [LinearOrder Key] (key : Item → Key)

/-- Inserts an item behind the items whose key is not greater. -/
def insertLast (item : Item) : List Item → List Item
  | [] => [item]
  | first :: rest =>
      if key first ≤ key item then first :: insertLast item rest
      else item :: first :: rest

/-- How many of the first items have a key that is not greater. -/
def place (item : Item) (items : List Item) : Nat :=
  (items.takeWhile fun other => key other ≤ key item).length

/-- Keeps a number of items at most; the last one gives way. -/
def retain (count : Nat) (items : List Item) (item : Item) : List Item :=
  if count ≤ place key item items then items
  else
    (if items.length = count then items.dropLast else items).insertIdx
      (place key item items) item

/-- The start of a longer list is the start of an insertion into its start. -/
theorem take_insertLast (count : Nat) (item : Item) (items : List Item) :
    (insertLast key item (items.take count)).take count =
      (insertLast key item items).take count := by
  induction items generalizing count with
  | nil => simp
  | cons first rest ih =>
      cases count with
      | zero => simp
      | succ count =>
          rw [List.take_succ_cons, insertLast, insertLast]
          split
          · rw [List.take_succ_cons, List.take_succ_cons, ih]
          · cases count with
            | zero => rfl
            | succ count => simp [List.take_take]

theorem retain_eq {count : Nat} {items : List Item} (item : Item)
    (fits : items.length ≤ count) :
    retain key count items item = (insertLast key item items).take count := by
  induction items generalizing count with
  | nil =>
      cases count with
      | zero => simp [retain]
      | succ count => simp [retain, place, insertLast]
  | cons first rest ih =>
      cases count with
      | zero => simp at fits
      | succ count =>
          have shorter : rest.length ≤ count := by simpa using fits
          have others := ih shorter
          rw [insertLast]
          by_cases before : key first ≤ key item
          · have later : place key item (first :: rest) =
                place key item rest + 1 := by
              simp [place, before]
            rw [if_pos before, List.take_succ_cons, ← others]
            unfold retain
            rw [later]
            by_cases full : count ≤ place key item rest
            · simp [full]
            · have room : ¬count + 1 ≤ place key item rest + 1 := by omega
              rw [if_neg full, if_neg room]
              by_cases most : rest.length = count
              · have some : rest ≠ [] := by
                  rintro rfl
                  simp at most
                  omega
                rw [if_pos most, if_pos (by simpa using most),
                  List.dropLast_cons_of_ne_nil some, List.insertIdx_succ_cons]
              · rw [if_neg most, if_neg (by simpa using most),
                  List.insertIdx_succ_cons]
          · have first : place key item (first :: rest) = 0 := by
              simp [place, before]
            rw [if_neg before, retain, first, if_neg (by omega)]
            by_cases most : rest.length = count
            · subst most
              simp [List.dropLast_eq_take]
            · rw [if_neg (by simpa using most), List.insertIdx_zero,
                List.take_of_length_le]
              simp
              omega

/-- Keeping the first items keeps the first items of all that arrived. -/
theorem foldl_retain (count : Nat) (items start : List Item) :
    items.foldl (retain key count) (start.take count) =
      (items.foldl (fun sorted item => insertLast key item sorted) start).take
        count := by
  induction items generalizing start with
  | nil => rfl
  | cons item rest ih =>
      rw [List.foldl_cons, List.foldl_cons,
        retain_eq key item (List.length_take_le count start),
        take_insertLast, ih]

theorem insertLast_comm (first item : Item) (items : List Item) :
    insertLast key item
        (items.orderedInsert (fun one other => key one ≤ key other) first) =
      (insertLast key item items).orderedInsert
        (fun one other => key one ≤ key other) first := by
  induction items with
  | nil =>
      by_cases before : key first ≤ key item <;> simp [insertLast, before]
  | cons other rest ih =>
      rw [insertLast, List.orderedInsert_cons]
      by_cases before : key first ≤ key other
      · rw [if_pos before, insertLast]
        by_cases after : key other ≤ key item
        · rw [if_pos (before.trans after), insertLast, if_pos after,
            List.orderedInsert_cons, if_pos before]
        · rw [if_neg after, List.orderedInsert_cons, insertLast, if_neg after,
            List.orderedInsert_cons, if_pos before]
      · rw [if_neg before, insertLast]
        by_cases after : key other ≤ key item
        · rw [if_pos after, if_pos after, List.orderedInsert_cons,
            if_neg before, ih]
        · have notFirst : ¬key first ≤ key item :=
            fun least => before (least.trans (le_of_not_ge after))
          rw [if_neg after, if_neg after, List.orderedInsert_cons,
            if_neg notFirst, List.orderedInsert_cons, if_neg before]

theorem foldl_orderedInsert (first : Item) (items sorted : List Item) :
    items.foldl (fun sorted item => insertLast key item sorted)
        (sorted.orderedInsert (fun one other => key one ≤ key other) first) =
      (items.foldl (fun sorted item => insertLast key item sorted)
        sorted).orderedInsert (fun one other => key one ≤ key other) first := by
  induction items generalizing sorted with
  | nil => rfl
  | cons item rest ih => rw [List.foldl_cons, List.foldl_cons,
      insertLast_comm, ih]

/-- Items that arrive in turn end up in the order of a stable sort. -/
theorem foldl_insertLast (items : List Item) :
    items.foldl (fun sorted item => insertLast key item sorted) [] =
      items.insertionSort fun one other => key one ≤ key other := by
  induction items with
  | nil => rfl
  | cons first rest ih =>
      rw [List.insertionSort_cons, ← ih, ← foldl_orderedInsert]
      rfl

/-- What is kept of the items that arrived is the start of their sort. -/
theorem foldl_retain_eq (count : Nat) (items : List Item) :
    items.foldl (retain key count) [] =
      (items.insertionSort fun one other => key one ≤ key other).take count := by
  have kept := foldl_retain key count items []
  rwa [List.take_nil, foldl_insertLast] at kept

end BoundedSort
