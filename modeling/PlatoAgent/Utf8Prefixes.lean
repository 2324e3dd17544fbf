import Mathlib

/-!
# Prefixes of a text by their bytes

A byte index into a text is a character boundary when the bytes before it
encode whole characters.  The greatest boundary below a limit cuts the longest
prefix whose encoding fits.
-/

namespace Utf8

/-- The first `index` bytes are whole characters. -/
def isBoundary : List Char → Nat → Bool
  | _, 0 => true
  | [], _ + 1 => false
  | character :: rest, index =>
      character.utf8Size ≤ index && isBoundary rest (index - character.utf8Size)

/-- The characters of the first `index` bytes. -/
def takeBytes : List Char → Nat → List Char
  | [], _ => []
  | character :: rest, index =>
      if character.utf8Size ≤ index then
        character :: takeBytes rest (index - character.utf8Size)
      else
        []

/-- The greatest boundary up to an index. -/
def boundaryBelow (text : List Char) : Nat → Nat
  | 0 => 0
  | index + 1 =>
      if isBoundary text (index + 1) then index + 1
      else boundaryBelow text index

theorem takeBytes_isPrefix (text : List Char) (index : Nat) :
    takeBytes text index <+: text := by
  induction text generalizing index with
  | nil => simp [takeBytes]
  | cons character rest ih =>
      rw [takeBytes]
      split
      · exact (List.prefix_cons_inj character).mpr (ih _)
      · exact List.nil_prefix

theorem utf8Len_takeBytes_le (text : List Char) (index : Nat) :
    String.utf8Len (takeBytes text index) ≤ index := by
  induction text generalizing index with
  | nil => simp [takeBytes]
  | cons character rest ih =>
      rw [takeBytes]
      split
      next fits =>
        have tail := ih (index - character.utf8Size)
        rw [String.utf8Len_cons]
        omega
      next => simp

/-- Every prefix that fits is a prefix of the cut. -/
theorem prefix_takeBytes {text start : List Char} {index : Nat}
    (isPrefix : start <+: text) (fits : String.utf8Len start ≤ index) :
    start <+: takeBytes text index := by
  induction text generalizing start index with
  | nil =>
      rw [List.prefix_nil.mp isPrefix]
      exact List.nil_prefix
  | cons character rest ih =>
      cases start with
      | nil => exact List.nil_prefix
      | cons first others =>
          obtain ⟨rfl, tail⟩ := List.cons_prefix_cons.mp isPrefix
          rw [String.utf8Len_cons] at fits
          rw [takeBytes, if_pos (by omega)]
          apply (List.prefix_cons_inj first).mpr
          apply ih tail
          omega

/-- The bytes of a prefix end at a boundary. -/
theorem isBoundary_utf8Len {text start : List Char}
    (isPrefix : start <+: text) :
    isBoundary text (String.utf8Len start) = true := by
  induction text generalizing start with
  | nil =>
      rw [List.prefix_nil.mp isPrefix]
      rfl
  | cons character rest ih =>
      cases start with
      | nil => rfl
      | cons first others =>
          obtain ⟨rfl, tail⟩ := List.cons_prefix_cons.mp isPrefix
          have wide := first.utf8Size_pos
          rw [isBoundary, String.utf8Len_cons]
          · simpa using ih tail
          · rw [String.utf8Len_cons]
            omega

theorem boundaryBelow_le (text : List Char) (index : Nat) :
    boundaryBelow text index ≤ index := by
  induction index with
  | zero => simp [boundaryBelow]
  | succ index ih =>
      rw [boundaryBelow]
      split
      · exact le_rfl
      · omega

theorem le_boundaryBelow {text : List Char} {boundary index : Nat}
    (isBelow : boundary ≤ index)
    (ends : isBoundary text boundary = true) :
    boundary ≤ boundaryBelow text index := by
  induction index with
  | zero => simpa [boundaryBelow] using isBelow
  | succ index ih =>
      rw [boundaryBelow]
      split
      · exact isBelow
      next unbounded =>
        apply ih
        by_contra above
        obtain rfl : boundary = index + 1 := by omega
        exact unbounded ends

/-- The cut at the greatest boundary is the longest prefix that fits. -/
theorem prefix_takeBytes_boundaryBelow {text start : List Char} {limit : Nat}
    (isPrefix : start <+: text) (fits : String.utf8Len start ≤ limit) :
    start <+: takeBytes text (boundaryBelow text limit) :=
  prefix_takeBytes isPrefix
    (le_boundaryBelow fits (isBoundary_utf8Len isPrefix))

end Utf8
