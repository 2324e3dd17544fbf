import Mathlib

/-!
# Closing tags in a text

A wrapper is ended by its closing tag, whatever the case of its letters.  A text
is neutralized by a backslash in every closing tag, and then has none.
-/

namespace TextClosers

/-- The text begins with a pattern in lower case. -/
def opensWith : List Char → List Char → Bool
  | [], _ => true
  | _ :: _, [] => false
  | mark :: pattern, character :: text =>
      character.toLower == mark && opensWith pattern text

/-- A closing tag without its last mark, `</name`. -/
structure Closer where
  name : List Char
  isPlain : (name.all fun mark => mark.isLower || mark == '_') = true

namespace Closer

def pattern (closer : Closer) : List Char :=
  '<' :: '/' :: closer.name

/-- A backslash behind the first mark of every closing tag. -/
def neutralize (closer : Closer) : List Char → List Char
  | [] => []
  | character :: rest =>
      if opensWith closer.pattern (character :: rest) then
        character :: '\\' :: closer.neutralize rest
      else character :: closer.neutralize rest

/-- How often the closing tag is in a text. -/
def occurrences (closer : Closer) : List Char → Nat
  | [] => 0
  | character :: rest =>
      (if opensWith closer.pattern (character :: rest) then 1 else 0) +
        closer.occurrences rest

end Closer

theorem opensWith_append_of_separate {pattern text more : List Char}
    (separate : ∀ character ∈ more.head?, character.toLower ∉ pattern) :
    opensWith pattern (text ++ more) = opensWith pattern text := by
  induction pattern generalizing text with
  | nil => rw [opensWith, opensWith]
  | cons mark rest ih =>
      cases text with
      | nil =>
          cases more with
          | nil => rfl
          | cons character others =>
              have different := separate character rfl
              rw [List.nil_append, opensWith, opensWith,
                Bool.and_eq_false_iff]
              left
              rw [beq_eq_false_iff_ne]
              rintro rfl
              exact different List.mem_cons_self
      | cons character others =>
          rw [List.cons_append, opensWith, opensWith, ih]
          intro first isFirst within
          exact separate first isFirst (List.mem_cons_of_mem _ within)

theorem opensWith_of_isPrefix {pattern text longer : List Char}
    (isPrefix : text <+: longer) (opens : opensWith pattern text = true) :
    opensWith pattern longer = true := by
  induction pattern generalizing text longer with
  | nil => rw [opensWith]
  | cons mark rest ih =>
      cases text with
      | nil => cases opens
      | cons character others =>
          cases longer with
          | nil => exact absurd isPrefix (by simp)
          | cons first more =>
              obtain ⟨rfl, later⟩ := List.cons_prefix_cons.mp isPrefix
              rw [opensWith, Bool.and_eq_true_iff] at opens ⊢
              exact ⟨opens.1, ih later opens.2⟩

namespace Closer

variable {closer : Closer} {text more : List Char}

/-- Only a capital letter changes, and it becomes a letter. -/
theorem eq_of_toLower_eq {character mark : Char}
    (notLower : mark.isLower = false) (same : character.toLower = mark) :
    character = mark := by
  unfold Char.toLower at same
  split at same
  next isUpper =>
    rw [← same] at notLower
    simp only [Char.isLower, Bool.and_eq_false_iff, decide_eq_false_iff_not,
      ge_iff_le, UInt32.le_iff_toNat_le, UInt32.toNat_add] at notLower isUpper
    have capitals : 'A'.val.toNat = 65 ∧ 'Z'.val.toNat = 90 := by decide
    have smalls : 'a'.val.toNat = 97 ∧ 'z'.val.toNat = 122 ∧
        ('a'.val - 'A'.val).toNat = 32 := by decide
    omega
  next => exact same

theorem opens_lt {character : Char} {rest : List Char}
    (opens : opensWith closer.pattern (character :: rest) = true) :
    character = '<' ∧ opensWith ('/' :: closer.name) rest = true := by
  unfold pattern at opens
  rw [opensWith, Bool.and_eq_true_iff, beq_iff_eq] at opens
  exact ⟨eq_of_toLower_eq rfl opens.1, opens.2⟩

theorem not_opens {character : Char} (different : character ≠ '<')
    (rest : List Char) :
    opensWith closer.pattern (character :: rest) = false := by
  by_contra opens
  exact different (opens_lt (by simpa using opens)).1

theorem plain_of_mem (closer : Closer) {mark : Char}
    (member : mark ∈ closer.name) : mark.isLower = true ∨ mark = '_' := by
  have plain := List.all_eq_true.mp closer.isPlain mark member
  simpa using plain

theorem not_mem_pattern {character : Char}
    (notSlash : character ≠ '<' ∧ character ≠ '/')
    (notLetter : character.isLower = false ∧ character ≠ '_') :
    character ∉ closer.pattern := by
  intro member
  rcases List.mem_cons.mp member with isOpen | member
  · exact notSlash.1 isOpen
  rcases List.mem_cons.mp member with isSlash | member
  · exact notSlash.2 isSlash
  rcases closer.plain_of_mem member with isLower | isUnderscore
  · cases isLower.symm.trans notLetter.1
  · exact notLetter.2 isUnderscore

/-- What a neutralized text begins with, up to a `<`. -/
theorem opensWith_neutralize {pattern : List Char} (noOpen : '<' ∉ pattern)
    (opens : opensWith pattern (closer.neutralize text) = true) :
    opensWith pattern text = true := by
  induction pattern generalizing text with
  | nil => rw [opensWith]
  | cons mark rest ih =>
      cases text with
      | nil => cases opens
      | cons character others =>
          by_cases isOpen : character = '<'
          · -- The first mark of the pattern is not this one.
            have kept : ∃ more, closer.neutralize (character :: others) =
                character :: more := by
              rw [neutralize]
              split <;> exact ⟨_, rfl⟩
            obtain ⟨more, first⟩ := kept
            rw [first, opensWith, Bool.and_eq_true_iff, beq_iff_eq, isOpen]
              at opens
            exact absurd (opens.1 ▸ List.mem_cons_self) noOpen
          · rw [neutralize, not_opens isOpen, if_neg Bool.false_ne_true,
              opensWith, Bool.and_eq_true_iff] at opens
            rw [opensWith, Bool.and_eq_true_iff]
            exact ⟨opens.1, ih (fun within =>
              noOpen (List.mem_cons_of_mem _ within)) opens.2⟩

/-- A neutralized text has no closing tag. -/
theorem occurrences_neutralize (closer : Closer) (text : List Char) :
    closer.occurrences (closer.neutralize text) = 0 := by
  have inside : '<' ∉ '/' :: closer.name := by
    intro member
    rcases List.mem_cons.mp member with isSlash | member
    · cases isSlash
    rcases closer.plain_of_mem member with isLower | isUnderscore
    · cases isLower
    · cases isUnderscore
  induction text with
  | nil => rfl
  | cons character rest ih =>
      rw [neutralize]
      split
      next opens =>
        obtain ⟨rfl, _⟩ := opens_lt opens
        have broken : opensWith closer.pattern
            ('<' :: '\\' :: closer.neutralize rest) = false := by
          unfold pattern
          rw [opensWith, opensWith]
          rfl
        rw [occurrences, occurrences, broken, not_opens (by decide), ih]
        rfl
      next notOpens =>
        have still : opensWith closer.pattern
            (character :: closer.neutralize rest) = false := by
          by_contra opens
          obtain ⟨rfl, later⟩ := opens_lt (by simpa using opens)
          apply notOpens
          unfold pattern
          rw [opensWith, opensWith_neutralize inside later]
          rfl
        rw [occurrences, still, ih]
        rfl

theorem occurrences_append_of_separate
    (separate : ∀ character ∈ more.head?, character.toLower ∉ closer.pattern) :
    closer.occurrences (text ++ more) =
      closer.occurrences text + closer.occurrences more := by
  induction text with
  | nil => exact (Nat.zero_add _).symm
  | cons character rest ih =>
      have opens := @opensWith_append_of_separate closer.pattern
        (character :: rest) more separate
      rw [List.cons_append] at opens ⊢
      rw [occurrences, occurrences, opens, ih, Nat.add_assoc]

/-- Closing tags do not go on over a newline. -/
theorem occurrences_append_newline (closer : Closer)
    (text more : List Char) :
    closer.occurrences (text ++ '\n' :: more) =
      closer.occurrences text + closer.occurrences more := by
  have separate : ∀ character ∈ ('\n' :: more).head?,
      character.toLower ∉ closer.pattern := by
    intro character isNewline
    obtain rfl : '\n' = character := Option.some.inj isNewline
    exact not_mem_pattern (by decide) (by decide)
  rw [occurrences_append_of_separate separate, occurrences,
    not_opens (by decide), if_neg Bool.false_ne_true, Nat.zero_add]

theorem neutralize_append_of_separate
    (separate : ∀ character ∈ more.head?, character.toLower ∉ closer.pattern) :
    closer.neutralize (text ++ more) =
      closer.neutralize text ++ closer.neutralize more := by
  induction text with
  | nil => rfl
  | cons character rest ih =>
      have opens := @opensWith_append_of_separate closer.pattern
        (character :: rest) more separate
      rw [List.cons_append] at opens ⊢
      rw [neutralize, neutralize, opens, ih]
      split <;> rfl

theorem neutralize_cons {character : Char} (isOther : character ≠ '<')
    (rest : List Char) :
    closer.neutralize (character :: rest) =
      character :: closer.neutralize rest := by
  rw [neutralize, not_opens isOther, if_neg Bool.false_ne_true]

/-- A text has no fewer closing tags than its prefixes. -/
theorem occurrences_le_of_prefix {longer : List Char}
    (isPrefix : text <+: longer) :
    closer.occurrences text ≤ closer.occurrences longer := by
  induction text generalizing longer with
  | nil => exact Nat.zero_le _
  | cons character rest ih =>
      cases longer with
      | nil => exact absurd isPrefix (by simp)
      | cons first more =>
          have opens := @opensWith_of_isPrefix closer.pattern _ _ isPrefix
          obtain ⟨rfl, later⟩ := List.cons_prefix_cons.mp isPrefix
          rw [occurrences, occurrences]
          have rest := ih later
          split
          next isOpen =>
            rw [if_pos (opens isOpen)]
            omega
          next => omega

/-- A prefix of a text is neutralized to a part of the neutralized text. -/
theorem neutralize_sublist_of_prefix {longer : List Char}
    (isPrefix : text <+: longer) :
    (closer.neutralize text).Sublist (closer.neutralize longer) := by
  induction text generalizing longer with
  | nil => exact List.nil_sublist _
  | cons character rest ih =>
      cases longer with
      | nil => exact absurd isPrefix (by simp)
      | cons first more =>
          have opens := @opensWith_of_isPrefix closer.pattern _ _ isPrefix
          obtain ⟨rfl, later⟩ := List.cons_prefix_cons.mp isPrefix
          rw [neutralize, neutralize]
          split
          next isOpen =>
            rw [if_pos (opens isOpen)]
            exact ((ih later).cons_cons _).cons_cons _
          next =>
            split
            · exact ((ih later).cons _).cons_cons _
            · exact (ih later).cons_cons _

end Closer

end TextClosers
