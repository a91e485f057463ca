import Signaling.Collider.Tables
import Signaling.Support.Decimal
import Signaling.V2.Epochs

/-!
# Canonical numerals

Client ids and signal epochs travel as decimal numerals. A numeral is accepted
only in the spelling in which the collider itself writes the number.
-/

namespace Signaling

/-- The usual decimal representation of a number: digits only, no leading zero
unless it is the only digit, and the number is what the digits spell. -/
structure IsDecimal (value : String) (number : Nat) : Prop where
  digits : ∀ digit ∈ value.toList, digit.isDigit = true
  spelled : value.toList ≠ []
  leading : value.toList.head? = some '0' -> value = "0"
  number : Nat.ofDigitChars 10 value.toList 0 = number

/-- A number is written in its usual representation. -/
theorem isDecimal_toString (number : Nat) : IsDecimal (toString number) number where
  digits digit listed := by
    rw [Nat.toString_eq_repr, Nat.toList_repr] at listed
    exact Nat.isDigit_of_mem_toDigits (by decide) (by decide) listed
  spelled := by simp
  leading leads := by
    rw [Nat.toString_eq_repr, Nat.toList_repr] at leads
    cases number with
    | zero => rfl
    | succ number =>
        exact absurd leads (Decimal.head?_toDigits (Nat.succ_pos number))
  number := by simp

/-- A usual representation is what the number is written as. -/
theorem IsDecimal.eq_toString
    {value : String}
    {number : Nat}
    (decimal : IsDecimal value number) :
    value = toString number := by
  obtain ⟨digits, spelled, leading, rfl⟩ := decimal
  obtain ⟨digit, rest, listed⟩ := List.exists_cons_of_ne_nil spelled
  by_cases zero : digit = '0'
  · obtain rfl := leading (by simp [listed, zero])
    rfl
  · rw [listed] at digits
    have rebuilt := Decimal.toDigits_ofDigitChars digits zero
    rw [← String.toList_inj, Nat.toString_eq_repr, Nat.toList_repr, listed,
      rebuilt]

/-- What the parser rejects before it reads a number is no usual
representation, and what it reads is one. -/
theorem isDecimal_spelled
    {value : String}
    (nonzero : value ≠ "0")
    (number : Nat) :
    IsDecimal value number ↔
      (value.isEmpty || value.startsWith "0"
        || !value.toList.all Char.isDigit) = false ∧
      Nat.ofDigitChars 10 value.toList 0 = number := by
  simp only [Bool.or_eq_false_iff, Bool.not_eq_false', String.isEmpty_eq_false_iff,
    String.startsWith_string_eq_false_iff, List.all_eq_true]
  constructor
  · rintro ⟨digits, spelled, leading, number⟩
    refine ⟨⟨⟨fun empty => spelled (by simp [empty]), fun zero => nonzero ?_⟩,
      digits⟩, number⟩
    obtain ⟨rest, listed⟩ := zero
    exact leading (by rw [← listed]; rfl)
  · rintro ⟨⟨⟨present, leading⟩, digits⟩, number⟩
    refine ⟨digits, fun empty => present (String.toList_eq_nil_iff.1 empty),
      fun zero => absurd ?_ leading, number⟩
    obtain ⟨rest, listed⟩ := List.head?_eq_some_iff.1 zero
    exact ⟨rest, by rw [listed]; rfl⟩

/-- A numeral is accepted exactly when it is the usual representation of a
number that fits. -/
theorem canonicalU64_eq_some_iff (value : String) (number : Nat) :
    canonicalU64 value = some number ↔
      number < 2 ^ 64 ∧ IsDecimal value number := by
  have fits (number : Nat) : number ≤ u64Max ↔ number < 2 ^ 64 := by
    simp only [u64Max]
    omega
  unfold canonicalU64
  split
  · rename_i zero
    subst zero
    constructor
    · rintro ⟨⟩
      exact ⟨by decide, isDecimal_toString 0⟩
    · rintro ⟨-, decimal⟩
      exact congrArg some decimal.number
  · rename_i nonzero
    have spelled : value.toList.foldl
        (fun number digit => number * 10 + (digit.toNat - '0'.toNat)) 0 =
          Nat.ofDigitChars 10 value.toList 0 := by
      simp only [Nat.ofDigitChars_eq_foldl, Nat.mul_comm 10]
    rw [isDecimal_spelled nonzero]
    split
    · rename_i refused
      simp [refused]
    · rename_i accepted
      simp only [spelled, fits, accepted, Option.ite_none_right_eq_some,
        Option.some.injEq, true_and]
      constructor
      · rintro ⟨small, rfl⟩
        exact ⟨small, rfl⟩
      · rintro ⟨small, rfl⟩
        exact ⟨small, rfl⟩

/-- The signal epochs of a reachable collider fit. -/
theorem Collider.signalEpoch_le
    {decode : String -> Except String WsClientMsg}
    {registerTimeout : Duration}
    {collider : Collider}
    (reachable : (machine decode registerTimeout).Reachable collider)
    {roomId : V2.RoomId}
    {room : V2.Room}
    (found : collider.v2Rooms.rooms[roomId]? = some room) :
    room.signalEpoch ≤ u64Max := by
  have fit := consistent_of_reachable
    (fun table => ∀ (roomId : V2.RoomId) (room : V2.Room),
      table.rooms[roomId]? = some room -> room.signalEpoch ≤ u64Max)
    (by simp)
    (fun table call consistent fit roomId room stored => by
      cases was : table.rooms[roomId]? with
      | none =>
          rw [consistent.epoch_of_created was stored]
          exact Nat.zero_le _
      | some former =>
          rcases consistent.steps was stored with ⟨-, epoch⟩ | ⟨-, epoch⟩
          · rw [epoch]
            exact saturatingAdd_le _ _
          · rw [epoch]
            exact fit roomId former was)
    (by simp [V2.RoomTable.clear]) reachable
  exact fit.2.2 roomId room found

/-- Ids and epochs have one spelling each: what is accepted is the usual
representation of a number of 64 bits, everything else is refused, and an epoch
that the collider writes is read back as the same epoch. -/
theorem numerals_canonical :
    (∀ (value : String) (number : Nat), canonicalU64 value = some number ↔
      number < 2 ^ 64 ∧ IsDecimal value number) ∧
    (∀ value : String, (∀ number < 2 ^ 64, ¬IsDecimal value number) ->
      canonicalU64 value = none) ∧
    (∀ number < 2 ^ 64, canonicalU64 (toString number) = some number) ∧
    (∀ (value other : String) (number : Nat),
      canonicalU64 value = some number -> canonicalU64 other = some number ->
      value = other) ∧
    ∀ (decode : String -> Except String WsClientMsg)
      (registerTimeout : Duration) (collider : Collider),
      (Collider.machine decode registerTimeout).Reachable collider ->
      ∀ (roomId : V2.RoomId) (room : V2.Room),
        collider.v2Rooms.rooms[roomId]? = some room ->
        canonicalU64 (toString room.signalEpoch) = some room.signalEpoch := by
  have written (number : Nat) (small : number < 2 ^ 64) :
      canonicalU64 (toString number) = some number :=
    (canonicalU64_eq_some_iff _ _).2 ⟨small, isDecimal_toString number⟩
  refine ⟨canonicalU64_eq_some_iff, fun value undecimal => ?_, written,
    fun value other number first second => ?_,
    fun decode registerTimeout collider reachable roomId room found =>
      written _ ?_⟩
  · rw [Option.eq_none_iff_forall_ne_some]
    intro number accepted
    obtain ⟨small, decimal⟩ := (canonicalU64_eq_some_iff _ _).1 accepted
    exact undecimal number small decimal
  · rw [((canonicalU64_eq_some_iff _ _).1 first).2.eq_toString,
      ((canonicalU64_eq_some_iff _ _).1 second).2.eq_toString]
  · have bounded := Collider.signalEpoch_le reachable found
    simp only [u64Max] at bounded
    omega

theorem numerals_canonical_largest :
    canonicalU64 "18446744073709551615" = some 18446744073709551615 :=
  numerals_canonical.2.2.1 18446744073709551615 (by decide)

end Signaling
