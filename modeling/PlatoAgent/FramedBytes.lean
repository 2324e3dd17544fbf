import Mathlib

/-!
# Length-prefixed bytes

A list of byte strings written one after another, each behind its length as
eight bytes in big-endian order.  What follows the list can be told apart from
it when its length is known.
-/

namespace PlatoAgent

/-- The lowest bytes of a number, the highest of them first. -/
def bigEndian : Nat → Nat → List UInt8
  | 0, _ => []
  | width + 1, value => bigEndian width (value / 256) ++ [UInt8.ofNat value]

@[simp]
theorem length_bigEndian (width value : Nat) :
    (bigEndian width value).length = width := by
  induction width generalizing value with
  | zero => rfl
  | succ width ih => simp [bigEndian, ih]

theorem bigEndian_injective {width first second : Nat}
    (firstSmall : first < 256 ^ width) (secondSmall : second < 256 ^ width)
    (same : bigEndian width first = bigEndian width second) :
    first = second := by
  induction width generalizing first second with
  | zero =>
      rw [pow_zero, Nat.lt_one_iff] at firstSmall secondSmall
      rw [firstSmall, secondSmall]
  | succ width ih =>
      rw [pow_succ] at firstSmall secondSmall
      rw [bigEndian, bigEndian] at same
      obtain ⟨high, low⟩ := List.append_inj same (by simp)
      have highSame := ih (Nat.div_lt_of_lt_mul (by omega))
        (Nat.div_lt_of_lt_mul (by omega)) high
      have lowSame : first % 256 = second % 256 := by
        have bytes := congrArg UInt8.toNat (List.head_eq_of_cons_eq low)
        simpa [UInt8.toNat_ofNat'] using bytes
      omega

/-- The parts one after another, each behind its length. -/
def framed (parts : List (List UInt8)) : List UInt8 :=
  parts.flatMap fun part => bigEndian 8 part.length ++ part

theorem framed_cons (part : List UInt8) (parts : List (List UInt8)) :
    framed (part :: parts) =
      bigEndian 8 part.length ++ (part ++ framed parts) := by
  simp [framed]

/-- Framed parts and what follows them are determined by the bytes. -/
theorem framed_append_inj {first second : List (List UInt8)}
    (firstSized : ∀ part ∈ first, part.length < 256 ^ 8)
    (secondSized : ∀ part ∈ second, part.length < 256 ^ 8)
    {firstRest secondRest : List UInt8}
    (sameLength : firstRest.length = secondRest.length)
    (same : framed first ++ firstRest = framed second ++ secondRest) :
    first = second ∧ firstRest = secondRest := by
  induction first generalizing second with
  | nil =>
      cases second with
      | nil => exact ⟨rfl, same⟩
      | cons part parts =>
          have lengths := congrArg List.length same
          simp [framed] at lengths
          omega
  | cons firstPart firstParts ih =>
      cases second with
      | nil =>
          have lengths := congrArg List.length same
          simp [framed] at lengths
          omega
      | cons secondPart secondParts =>
          rw [framed_cons, framed_cons, List.append_assoc, List.append_assoc,
            List.append_assoc, List.append_assoc] at same
          obtain ⟨lengths, contents⟩ := List.append_inj same (by simp)
          have samePartLength := bigEndian_injective
            (firstSized firstPart (by simp))
            (secondSized secondPart (by simp)) lengths
          obtain ⟨rfl, rest⟩ := List.append_inj contents samePartLength
          obtain ⟨rfl, sameRest⟩ := ih
            (fun part member => firstSized part (by simp [member]))
            (fun part member => secondSized part (by simp [member])) rest
          exact ⟨rfl, sameRest⟩

end PlatoAgent
