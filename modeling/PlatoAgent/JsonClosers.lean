import PlatoAgent.JsonText
import PlatoAgent.TextClosers

/-!
# Closing tags in JSON text

The marks of a closing tag are within one string of a JSON text, where a slash
may be escaped.  A neutralized JSON text is therefore another spelling of the
same value.
-/

namespace PlatoAgent

open TextClosers

namespace JsonText

/-- The sum of what the characters cost. -/
def weight (cost : Char → Nat) (text : List Char) : Nat :=
  (text.map cost).sum

section Weights

variable {cost : Char → Nat}

@[simp]
theorem weight_nil : weight cost [] = 0 :=
  rfl

@[simp]
theorem weight_cons (character : Char) (text : List Char) :
    weight cost (character :: text) = cost character + weight cost text :=
  rfl

@[simp]
theorem weight_append (text more : List Char) :
    weight cost (text ++ more) = weight cost text + weight cost more := by
  unfold weight
  rw [List.map_append, List.sum_append]

theorem weight_le_of_sublist {text more : List Char}
    (isPart : text.Sublist more) : weight cost text ≤ weight cost more :=
  (isPart.map cost).sum_le_sum fun _ _ => Nat.zero_le _

/-- One value is spelled by no more than another one. -/
def Lighter (cost : Char → Nat) (spelling : Spelling)
    (light heavy : Value) : Prop :=
  weight cost (spelling.value light) ≤ weight cost (spelling.value heavy)

variable {spelling : Spelling}

theorem weight_items_le {light heavy : List Value}
    (each : List.Forall₂ (Lighter cost spelling) light heavy) :
    weight cost (spelling.items light) ≤ weight cost (spelling.items heavy) := by
  induction each with
  | nil => exact le_rfl
  | @cons lightItem heavyItem lightRest heavyRest first rest ih =>
      unfold Lighter at first
      rw [Spelling.items, Spelling.items]
      simp only [List.cons_append, weight_cons, weight_append]
      omega

theorem lighter_array {light heavy : List Value}
    (each : List.Forall₂ (Lighter cost spelling) light heavy) :
    Lighter cost spelling (.array light) (.array heavy) := by
  cases each with
  | nil => exact le_rfl
  | cons first rest =>
      have later := weight_items_le rest
      unfold Lighter at first ⊢
      rw [Spelling.value, Spelling.value]
      simp only [List.cons_append, weight_cons, weight_append]
      omega

theorem weight_entry_le {light heavy : String × Value}
    (each : light.1 = heavy.1 ∧ Lighter cost spelling light.2 heavy.2) :
    weight cost (spelling.entry light) ≤ weight cost (spelling.entry heavy) := by
  obtain ⟨lightKey, lightValue⟩ := light
  obtain ⟨heavyKey, heavyValue⟩ := heavy
  obtain ⟨rfl, lighter⟩ := each
  change weight cost (spelling.value lightValue) ≤
    weight cost (spelling.value heavyValue) at lighter
  rw [Spelling.entry, Spelling.entry]
  simp only [weight_cons, weight_append]
  omega

theorem weight_entries_le {light heavy : List (String × Value)}
    (each : List.Forall₂ (fun light heavy => light.1 = heavy.1 ∧
      Lighter cost spelling light.2 heavy.2) light heavy) :
    weight cost (spelling.entries light) ≤
      weight cost (spelling.entries heavy) := by
  induction each with
  | nil => exact le_rfl
  | cons first rest ih =>
      have entry := weight_entry_le first
      rw [Spelling.entries, Spelling.entries]
      simp only [List.cons_append, weight_cons, weight_append]
      omega

theorem lighter_object {light heavy : List (String × Value)}
    (each : List.Forall₂ (fun light heavy => light.1 = heavy.1 ∧
      Lighter cost spelling light.2 heavy.2) light heavy) :
    Lighter cost spelling (.object light) (.object heavy) := by
  cases each with
  | nil => exact le_rfl
  | cons first rest =>
      have entry := weight_entry_le first
      have later := weight_entries_le rest
      unfold Lighter
      rw [Spelling.value, Spelling.value]
      simp only [List.cons_append, weight_cons, weight_append]
      omega

end Weights

/-- A text whose strings are neutralized. -/
def closerSpelling (closer : Closer) : Spelling :=
  ⟨fun text => closer.neutralize (text.flatMap escapeChar), numberText⟩

variable {closer : Closer}

theorem neutralize_append_of_no_open {text : List Char} (noOpen : '<' ∉ text)
    (more : List Char) :
    closer.neutralize (text ++ more) = text ++ closer.neutralize more := by
  induction text with
  | nil => rfl
  | cons character rest ih =>
      have isOther : character ≠ '<' := fun same =>
        noOpen (same ▸ List.mem_cons_self)
      rw [List.cons_append, Closer.neutralize_cons isOther,
        ih fun within => noOpen (List.mem_cons_of_mem _ within),
        List.cons_append]

theorem open_not_mem_escapeChar {character : Char} (isOther : character ≠ '<') :
    '<' ∉ escapeChar character := by
  have digit : ∀ code < 16, '<' ≠ Nat.digitChar code := by decide
  unfold escapeChar
  split_ifs with quote backslash backspace tab newline feed carriage control
  · decide
  · decide
  · decide
  · decide
  · decide
  · decide
  · decide
  · have high := digit (character.toNat / 16) (by omega)
    have low := digit (character.toNat % 16) (by omega)
    simp [high, low]
  · exact mt List.mem_singleton.mp isOther.symm

/-- An escaped slash is read as a slash. -/
theorem readString_slash (text : List Char) :
    readString ('\\' :: '/' :: text) = readString ('/' :: text) := by
  rw [readString, readString]
  · rfl
  · decide
  · simp
  · simp
  · simp

theorem exists_of_opens_slash {pattern text : List Char}
    (opens : opensWith ('/' :: pattern) text = true) :
    ∃ after, closer.neutralize text = '/' :: after := by
  cases text with
  | nil => cases opens
  | cons character others =>
      rw [opensWith, Bool.and_eq_true_iff, beq_iff_eq] at opens
      obtain rfl := Closer.eq_of_toLower_eq rfl opens.1
      exact ⟨_, Closer.neutralize_cons (by decide) others⟩

/-- A neutralized string is read as the string. -/
theorem readString_neutralize (closer : Closer) (text rest : List Char) :
    readString (closer.neutralize (text.flatMap escapeChar) ++ '"' :: rest) =
      some (text, rest) := by
  induction text with
  | nil => rfl
  | cons character others ih =>
      rw [List.flatMap_cons]
      by_cases isOpen : character = '<'
      · subst isOpen
        have own : escapeChar '<' = ['<'] := by decide
        have step := readString_escape '<'
        simp only [own, List.singleton_append] at step
        rw [own, List.singleton_append, Closer.neutralize]
        split
        next opens =>
          -- The text goes on with the slash of the closing tag.
          obtain ⟨after, isSlash⟩ := exists_of_opens_slash
            (Closer.opens_lt opens).2
          rw [isSlash, List.cons_append] at ih
          rw [isSlash, List.cons_append, List.cons_append, List.cons_append,
            step, readString_slash, ih]
          rfl
        next =>
          rw [List.cons_append, step, ih]
          rfl
      · rw [neutralize_append_of_no_open (open_not_mem_escapeChar isOpen),
          List.append_assoc, readString_escape, ih]
        rfl

theorem readable_closerSpelling (closer : Closer) :
    (closerSpelling closer).Readable :=
  ⟨readString_neutralize closer, rfl⟩

theorem open_not_mem_toDigits (number : Nat) :
    '<' ∉ Nat.toDigits 10 number := by
  intro member
  have isDigit := Nat.isDigit_of_mem_toDigits (by decide) (by decide) member
  exact absurd isDigit (by decide)

theorem open_not_mem_numberText (number : Number) :
    '<' ∉ numberText number := by
  cases number with
  | posInt value => exact open_not_mem_toDigits _
  | negInt value =>
      exact List.not_mem_cons_of_ne_of_not_mem (by decide)
        (open_not_mem_toDigits _)
  | float bits =>
      exact List.not_mem_cons_of_ne_of_not_mem (by decide)
        (open_not_mem_toDigits _)

theorem neutralize_quoted (closer : Closer) (text : String)
    (more : List Char) :
    closer.neutralize (quoted text ++ more) =
      (closerSpelling closer).quoted text ++ closer.neutralize more := by
  have separate : ∀ character ∈ ('"' :: more).head?,
      character.toLower ∉ closer.pattern := by
    intro character isQuote
    obtain rfl : '"' = character := Option.some.inj isQuote
    exact Closer.not_mem_pattern (by decide) (by decide)
  rw [quoted, Spelling.quoted, List.cons_append, List.cons_append,
    Closer.neutralize_cons (by decide), List.append_assoc,
    List.singleton_append, Closer.neutralize_append_of_separate separate,
    Closer.neutralize_cons (by decide)]
  simp [closerSpelling]

mutual
/-- The closing tags of a JSON text are in its strings. -/
theorem neutralize_valueText (closer : Closer) (more : List Char) :
    ∀ value, closer.neutralize (valueText value ++ more) =
      (closerSpelling closer).value value ++ closer.neutralize more
  | .null => neutralize_append_of_no_open (by decide) more
  | .bool true => neutralize_append_of_no_open (by decide) more
  | .bool false => neutralize_append_of_no_open (by decide) more
  | .number number =>
      neutralize_append_of_no_open (open_not_mem_numberText number) more
  | .string text => neutralize_quoted closer text more
  | .array [] => neutralize_append_of_no_open (by decide) more
  | .array (item :: rest) => by
      rw [Spelling.value, valueText, List.cons_append, List.cons_append,
        List.append_assoc, Closer.neutralize_cons (by decide),
        neutralize_valueText closer _ item, neutralize_itemsText closer more rest,
        List.cons_append, List.cons_append, List.append_assoc]
  | .object [] => neutralize_append_of_no_open (by decide) more
  | .object (entry :: rest) => by
      rw [Spelling.value, valueText, List.cons_append, List.cons_append,
        List.append_assoc, Closer.neutralize_cons (by decide),
        neutralize_entryText closer _ entry,
        neutralize_entriesText closer more rest,
        List.cons_append, List.cons_append, List.append_assoc]

theorem neutralize_itemsText (closer : Closer) (more : List Char) :
    ∀ items, closer.neutralize (itemsText items ++ more) =
      (closerSpelling closer).items items ++ closer.neutralize more
  | [] => neutralize_append_of_no_open (by decide) more
  | item :: rest => by
      rw [Spelling.items, itemsText, List.cons_append, List.cons_append,
        List.append_assoc, Closer.neutralize_cons (by decide),
        neutralize_valueText closer _ item, neutralize_itemsText closer more rest,
        List.cons_append, List.cons_append, List.append_assoc]

theorem neutralize_entryText (closer : Closer) (more : List Char) :
    ∀ entry, closer.neutralize (entryText entry ++ more) =
      (closerSpelling closer).entry entry ++ closer.neutralize more
  | (key, value) => by
      rw [Spelling.entry, entryText, List.append_assoc, List.cons_append,
        neutralize_quoted, Closer.neutralize_cons (by decide),
        neutralize_valueText closer more value, List.append_assoc,
        List.cons_append]

theorem neutralize_entriesText (closer : Closer) (more : List Char) :
    ∀ entries, closer.neutralize (entriesText entries ++ more) =
      (closerSpelling closer).entries entries ++ closer.neutralize more
  | [] => neutralize_append_of_no_open (by decide) more
  | entry :: rest => by
      rw [Spelling.entries, entriesText, List.cons_append, List.cons_append,
        List.append_assoc, Closer.neutralize_cons (by decide),
        neutralize_entryText closer _ entry,
        neutralize_entriesText closer more rest,
        List.cons_append, List.cons_append, List.append_assoc]
end

/-- A neutralized JSON text is another spelling of its value. -/
theorem neutralize_eq_value (closer : Closer) (value : Value) :
    closer.neutralize (valueText value) =
      (closerSpelling closer).value value := by
  have whole := neutralize_valueText closer [] value
  rw [List.append_nil] at whole
  rw [whole, Closer.neutralize, List.append_nil]

theorem fromText_neutralize (closer : Closer) (value : Value) :
    fromText (String.ofList (closer.neutralize (valueText value))) =
      some value := by
  have read := @reads_spelling (closerSpelling closer)
    (readable_closerSpelling closer)
    ((closerSpelling closer).value value).length value le_rfl [] stops_nil
  rw [List.append_nil] at read
  rw [neutralize_eq_value, fromText, String.length_ofList,
    String.toList_ofList, read]

end JsonText

end PlatoAgent
