import Mathlib

/-!
# Lines of a text

A text splits into lines that keep their newlines; only the last line may lack
one.
-/

namespace TextLines

/-- `str::split_inclusive` at newlines. -/
def splitInclusive : List Char → List (List Char)
  | [] => []
  | current :: rest =>
      if current = '\n' then [current] :: splitInclusive rest
      else
        match splitInclusive rest with
        | [] => [[current]]
        | line :: lines => (current :: line) :: lines

/-- A newline ends the line, and it has no other one. -/
def IsWhole (line : List Char) : Prop :=
  ∃ body, '\n' ∉ body ∧ line = body ++ ['\n']

/-- The line without a newline is the last one. -/
inductive AreLines : List (List Char) → Prop where
  | nil : AreLines []
  | last {line : List Char} (notEmpty : line ≠ []) (noNewline : '\n' ∉ line) :
      AreLines [line]
  | cons {line : List Char} {lines : List (List Char)} (isWhole : IsWhole line)
      (rest : AreLines lines) : AreLines (line :: lines)

/-- The line with a newline at its end. -/
def terminated (line : List Char) : List Char :=
  if line.getLast? = some '\n' then line else line ++ ['\n']

@[simp]
theorem flatten_splitInclusive (text : List Char) :
    (splitInclusive text).flatten = text := by
  induction text with
  | nil => rfl
  | cons current rest ih =>
      rw [splitInclusive]
      split
      · rw [List.flatten_cons, ih]
        rfl
      · cases lines : splitInclusive rest with
        | nil =>
            rw [lines] at ih
            rw [← ih]
            rfl
        | cons line others =>
            rw [lines] at ih
            rw [← ih]
            rfl

theorem areLines_splitInclusive (text : List Char) :
    AreLines (splitInclusive text) := by
  induction text with
  | nil => exact .nil
  | cons current rest ih =>
      rw [splitInclusive]
      split
      next isNewline =>
        exact .cons ⟨[], List.not_mem_nil, by rw [isNewline]; rfl⟩ ih
      next isOther =>
        have differs : '\n' ≠ current := fun same => isOther same.symm
        cases lines : splitInclusive rest with
        | nil =>
            exact .last (List.cons_ne_nil _ _)
              (mt List.mem_singleton.mp differs)
        | cons line others =>
            rw [lines] at ih
            cases ih with
            | last notEmpty noNewline =>
                exact .last (List.cons_ne_nil _ _)
                  (List.not_mem_cons_of_ne_of_not_mem differs noNewline)
            | cons isWhole restLines =>
                obtain ⟨body, noNewline, rfl⟩ := isWhole
                exact .cons ⟨current :: body,
                  List.not_mem_cons_of_ne_of_not_mem differs noNewline, rfl⟩ restLines

theorem IsWhole.getLast? {line : List Char} (isWhole : IsWhole line) :
    line.getLast? = some '\n' := by
  obtain ⟨body, _, rfl⟩ := isWhole
  exact List.getLast?_concat

theorem IsWhole.terminated_eq {line : List Char} (isWhole : IsWhole line) :
    terminated line = line :=
  if_pos isWhole.getLast?

theorem terminated_of_not_mem {line : List Char} (noNewline : '\n' ∉ line) :
    terminated line = line ++ ['\n'] :=
  if_neg fun isLast => noNewline (List.mem_of_getLast? isLast)

theorem AreLines.isWhole_terminated {lines : List (List Char)}
    (areLines : AreLines lines) :
    ∀ line ∈ lines, IsWhole (terminated line) := by
  induction areLines with
  | nil =>
      intro line member
      cases member
  | @last own _ noNewline =>
      intro line member
      obtain rfl : line = own := List.mem_singleton.mp member
      rw [terminated_of_not_mem noNewline]
      exact ⟨line, noNewline, rfl⟩
  | cons isWhole _ ih =>
      intro line member
      rcases List.mem_cons.mp member with rfl | member
      · rw [isWhole.terminated_eq]
        exact isWhole
      · exact ih line member

theorem AreLines.terminated_eq_of_append {before after : List (List Char)}
    (areLines : AreLines (before ++ after)) (notLast : after ≠ []) :
    before.map terminated = before := by
  induction before with
  | nil => rfl
  | cons line rest ih =>
      rw [List.cons_append] at areLines
      generalize whole : rest ++ after = lines at areLines
      cases areLines with
      | last =>
          exact absurd (List.append_eq_nil_iff.mp whole).2 notLast
      | cons isWhole restLines =>
          rw [List.map_cons, isWhole.terminated_eq, ih (whole ▸ restLines)]

theorem AreLines.flatten_ne_nil {lines : List (List Char)}
    (areLines : AreLines lines) (notEmpty : lines ≠ []) :
    lines.flatten ≠ [] := by
  cases areLines with
  | nil => exact absurd rfl notEmpty
  | last lineNotEmpty =>
      rw [List.flatten_singleton]
      exact lineNotEmpty
  | cons isWhole =>
      obtain ⟨body, _, rfl⟩ := isWhole
      simp

/-- The text of lines that all end with a newline: the same, or with the
newline that is missing at its end. -/
theorem AreLines.flatten_terminated {lines : List (List Char)}
    (areLines : AreLines lines) :
    (lines.map terminated).flatten = lines.flatten ∨
      lines.flatten.getLast? ≠ some '\n' ∧
        (lines.map terminated).flatten = lines.flatten ++ ['\n'] := by
  induction areLines with
  | nil => exact .inl rfl
  | @last line notEmpty noNewline =>
      refine .inr ⟨?_, ?_⟩
      · rw [List.flatten_singleton]
        exact fun isLast => noNewline (List.mem_of_getLast? isLast)
      · rw [List.map_singleton, List.flatten_singleton, List.flatten_singleton,
          terminated_of_not_mem noNewline]
  | @cons line lines isWhole rest ih =>
      rw [List.map_cons, isWhole.terminated_eq, List.flatten_cons,
        List.flatten_cons]
      rcases ih with same | ⟨unfinished, added⟩
      · exact .inl (by rw [same])
      · have notEmpty : lines ≠ [] := by
          rintro rfl
          cases added
        refine .inr ⟨?_, by rw [added, List.append_assoc]⟩
        rw [List.getLast?_append_of_ne_nil _ (rest.flatten_ne_nil notEmpty)]
        exact unfinished

end TextLines
