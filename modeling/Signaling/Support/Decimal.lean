import Mathlib.Data.Nat.Notation

/-!
# Decimal numerals

A nonempty list of decimal digits without a leading zero is the decimal
representation of the number it spells, and every positive number is spelled
that way.
-/

namespace Signaling
namespace Decimal

/-- A decimal digit is rebuilt from its value. -/
theorem digitChar_of_isDigit
    {digit : Char}
    (isDigit : digit.isDigit = true) :
    (digit.toNat - '0'.toNat).digitChar = digit ∧
      digit.toNat - '0'.toNat < 10 := by
  obtain ⟨low, high⟩ : 48 ≤ digit.toNat ∧ digit.toNat ≤ 57 := by
    simpa [Char.isDigit, UInt32.le_iff_toNat_le] using isDigit
  have rebuilt : ∀ value < 10, value.digitChar = Char.ofNat (48 + value) := by
    decide
  have small : digit.toNat - '0'.toNat < 10 := by
    change digit.toNat - 48 < 10
    omega
  refine ⟨?_, small⟩
  rw [rebuilt _ small]
  change Char.ofNat (48 + (digit.toNat - 48)) = digit
  rw [Nat.add_sub_cancel' low, Char.ofNat_toNat]

/-- Digits that continue a positive number continue its representation. -/
theorem toDigits_append
    {digits : List Char}
    (areDigits : ∀ digit ∈ digits, digit.isDigit = true)
    {number : Nat}
    (positive : 0 < number) :
    Nat.toDigits 10 (Nat.ofDigitChars 10 digits number) =
      Nat.toDigits 10 number ++ digits := by
  induction digits generalizing number with
  | nil => simp
  | cons digit digits inductionHypothesis =>
      obtain ⟨rebuilt, small⟩ :=
        digitChar_of_isDigit (areDigits digit List.mem_cons_self)
      have rest := inductionHypothesis
        (fun other later => areDigits other (List.mem_cons_of_mem _ later))
        (show 0 < 10 * number + (digit.toNat - '0'.toNat) by omega)
      rw [Nat.ofDigitChars_cons, rest,
        ← Nat.toDigits_append_toDigits (by decide) positive small,
        Nat.toDigits_of_lt_base small, rebuilt, List.append_assoc,
        List.singleton_append]

/-- Digits without a leading zero are the representation of their number. -/
theorem toDigits_ofDigitChars
    {digit : Char}
    {digits : List Char}
    (areDigits : ∀ other ∈ digit :: digits, other.isDigit = true)
    (leading : digit ≠ '0') :
    Nat.toDigits 10 (Nat.ofDigitChars 10 (digit :: digits) 0) =
      digit :: digits := by
  obtain ⟨rebuilt, small⟩ :=
    digitChar_of_isDigit (areDigits digit List.mem_cons_self)
  have positive : 0 < digit.toNat - '0'.toNat := by
    refine Nat.pos_of_ne_zero fun zero => leading ?_
    rw [← rebuilt, zero]
    rfl
  rw [Nat.ofDigitChars_cons, Nat.mul_zero, Nat.zero_add,
    toDigits_append (fun other later =>
      areDigits other (List.mem_cons_of_mem _ later)) positive,
    Nat.toDigits_of_lt_base small, rebuilt, List.singleton_append]

/-- The representation of a positive number has no leading zero. -/
theorem head?_toDigits
    {number : Nat}
    (positive : 0 < number) :
    (Nat.toDigits 10 number).head? ≠ some '0' := by
  induction number using Nat.strongRecOn with
  | ind number inductionHypothesis =>
      rw [Nat.toDigits_eq_if (by decide)]
      split
      · rename_i small
        have nonzero : ∀ value < 10, 0 < value -> value.digitChar ≠ '0' := by
          decide
        simpa using nonzero number small positive
      · rename_i large
        have earlier := inductionHypothesis (number / 10) (by omega) (by omega)
        obtain ⟨digit, digits, spelled⟩ :=
          List.exists_cons_of_ne_nil (Nat.toDigits_ne_nil (n := number / 10) (b := 10))
        rw [spelled] at earlier ⊢
        exact earlier

end Decimal
end Signaling
