import Mathlib.Data.List.Nodup

/-!
# Unpadded base64url

The URL-safe alphabet without padding. Three bytes become four characters; a
tail of one or two bytes becomes two or three characters whose unused low bits
are zero. Decoding refuses padding, foreign characters and nonzero unused bits.
-/

namespace Signaling
namespace Base64Url

/-- The URL-safe alphabet in value order. -/
def alphabet : List Char :=
  ['A', 'B', 'C', 'D', 'E', 'F', 'G', 'H', 'I', 'J', 'K', 'L', 'M', 'N', 'O', 'P',
   'Q', 'R', 'S', 'T', 'U', 'V', 'W', 'X', 'Y', 'Z', 'a', 'b', 'c', 'd', 'e', 'f',
   'g', 'h', 'i', 'j', 'k', 'l', 'm', 'n', 'o', 'p', 'q', 'r', 's', 't', 'u', 'v',
   'w', 'x', 'y', 'z', '0', '1', '2', '3', '4', '5', '6', '7', '8', '9', '-', '_']

/-- The character of a six-bit value. -/
def encodeDigit (value : Nat) : Char :=
  alphabet.getD value 'A'

/-- The six-bit value of a character of the alphabet. -/
def decodeDigit (character : Char) : Option Nat :=
  alphabet.idxOf? character

/-- Encode bytes, most significant bits first. -/
def encode : List Nat -> List Char
  | [] => []
  | [first] =>
      [encodeDigit (first / 4), encodeDigit (first % 4 * 16)]
  | [first, second] =>
      [encodeDigit (first / 4),
        encodeDigit (first % 4 * 16 + second / 16),
        encodeDigit (second % 16 * 4)]
  | first :: second :: third :: rest =>
      encodeDigit (first / 4) ::
        encodeDigit (first % 4 * 16 + second / 16) ::
        encodeDigit (second % 16 * 4 + third / 64) ::
        encodeDigit (third % 64) :: encode rest

/-- Decode characters, refusing everything but the encoder's own spelling. -/
def decode : List Char -> Option (List Nat)
  | [] => some []
  | [_] => none
  | [first, second] => do
      let a <- decodeDigit first
      let b <- decodeDigit second
      if b % 16 = 0 then some [a * 4 + b / 16] else none
  | [first, second, third] => do
      let a <- decodeDigit first
      let b <- decodeDigit second
      let c <- decodeDigit third
      if c % 4 = 0 then
        some [a * 4 + b / 16, b % 16 * 16 + c / 4]
      else none
  | first :: second :: third :: fourth :: rest => do
      let a <- decodeDigit first
      let b <- decodeDigit second
      let c <- decodeDigit third
      let d <- decodeDigit fourth
      let tail <- decode rest
      some ((a * 4 + b / 16) :: (b % 16 * 16 + c / 4) :: (c % 4 * 64 + d) :: tail)

theorem alphabet_length : alphabet.length = 64 := by
  decide

theorem alphabet_nodup : alphabet.Nodup := by
  decide

theorem encodeDigit_mem
    {value : Nat}
    (small : value < 64) :
    encodeDigit value ∈ alphabet := by
  rw [← alphabet_length] at small
  simp [encodeDigit, small]

/-- Every character of the alphabet is written as a single byte. -/
theorem utf8Size_of_mem
    {character : Char}
    (listed : character ∈ alphabet) :
    character.utf8Size = 1 := by
  have all : alphabet.all (fun character => character.utf8Size == 1) = true := by
    decide
  simpa using List.all_eq_true.1 all character listed

theorem decodeDigit_encodeDigit
    {value : Nat}
    (small : value < 64) :
    decodeDigit (encodeDigit value) = some value := by
  rw [← alphabet_length] at small
  have here : encodeDigit value = alphabet[value] := by
    simp [encodeDigit, small]
  rw [decodeDigit, List.idxOf?_eq_some_iff, here]
  refine ⟨small, rfl, fun earlier before same => ?_⟩
  exact Nat.ne_of_lt before
    (alphabet_nodup.getElem_inj_iff.1 same)

theorem of_decodeDigit
    {character : Char}
    {value : Nat}
    (decoded : decodeDigit character = some value) :
    value < 64 ∧ encodeDigit value = character := by
  obtain ⟨small, found, -⟩ := List.idxOf?_eq_some_iff.1 decoded
  exact ⟨by simpa [alphabet_length] using small,
    by simpa [encodeDigit, small] using found⟩

/-- What is encoded decodes to itself. -/
theorem decode_encode
    (bytes : List Nat)
    (small : ∀ byte ∈ bytes, byte < 256) :
    decode (encode bytes) = some bytes := by
  induction bytes using encode.induct with
  | case1 => rfl
  | case2 first =>
      have bound := small first (by simp)
      have joined : first / 4 * 4 + first % 4 * 16 / 16 = first := by omega
      simp only [encode, decode,
        decodeDigit_encodeDigit (show first / 4 < 64 by omega),
        decodeDigit_encodeDigit (show first % 4 * 16 < 64 by omega),
        Option.bind_eq_bind, Option.bind_some, joined]
      rw [if_pos (by omega)]
  | case3 first second =>
      have bound := small first (by simp)
      have bound' := small second (by simp)
      have joined : first / 4 * 4 +
          (first % 4 * 16 + second / 16) / 16 = first := by omega
      have joined' : (first % 4 * 16 + second / 16) % 16 * 16 +
          second % 16 * 4 / 4 = second := by omega
      simp only [encode, decode,
        decodeDigit_encodeDigit (show first / 4 < 64 by omega),
        decodeDigit_encodeDigit
          (show first % 4 * 16 + second / 16 < 64 by omega),
        decodeDigit_encodeDigit (show second % 16 * 4 < 64 by omega),
        Option.bind_eq_bind, Option.bind_some, joined, joined']
      rw [if_pos (by omega)]
  | case4 first second third rest inductionHypothesis =>
      have bound := small first (by simp)
      have bound' := small second (by simp)
      have bound'' := small third (by simp)
      have tail := inductionHypothesis
        fun byte listed => small byte (by simp [listed])
      have joined : first / 4 * 4 +
          (first % 4 * 16 + second / 16) / 16 = first := by omega
      have joined' : (first % 4 * 16 + second / 16) % 16 * 16 +
          (second % 16 * 4 + third / 64) / 4 = second := by omega
      have joined'' : (second % 16 * 4 + third / 64) % 4 * 64 +
          third % 64 = third := by omega
      simp only [encode, decode, tail,
        decodeDigit_encodeDigit (show first / 4 < 64 by omega),
        decodeDigit_encodeDigit
          (show first % 4 * 16 + second / 16 < 64 by omega),
        decodeDigit_encodeDigit
          (show second % 16 * 4 + third / 64 < 64 by omega),
        decodeDigit_encodeDigit (show third % 64 < 64 by omega),
        Option.bind_eq_bind, Option.bind_some, joined, joined', joined'']

/-- What decodes is the encoding of its bytes. -/
theorem of_decode
    {characters : List Char}
    {bytes : List Nat}
    (decoded : decode characters = some bytes) :
    encode bytes = characters ∧ ∀ byte ∈ bytes, byte < 256 := by
  induction characters using decode.induct generalizing bytes with
  | case1 =>
      cases decoded
      simp [encode]
  | case2 => cases decoded
  | case3 first second =>
      simp only [decode, Option.bind_eq_bind, Option.bind_eq_some_iff,
        Option.ite_none_right_eq_some, Option.some.injEq] at decoded
      obtain ⟨a, first_of, b, second_of, unused, rfl⟩ := decoded
      obtain ⟨small, rfl⟩ := of_decodeDigit first_of
      obtain ⟨small', rfl⟩ := of_decodeDigit second_of
      have high : (a * 4 + b / 16) / 4 = a := by omega
      have low : (a * 4 + b / 16) % 4 * 16 = b := by omega
      simp only [encode, high, low, true_and, List.mem_singleton]
      omega
  | case4 first second third =>
      simp only [decode, Option.bind_eq_bind, Option.bind_eq_some_iff,
        Option.ite_none_right_eq_some, Option.some.injEq] at decoded
      obtain ⟨a, first_of, b, second_of, c, third_of, unused, rfl⟩ := decoded
      obtain ⟨small, rfl⟩ := of_decodeDigit first_of
      obtain ⟨small', rfl⟩ := of_decodeDigit second_of
      obtain ⟨small'', rfl⟩ := of_decodeDigit third_of
      have high : (a * 4 + b / 16) / 4 = a := by omega
      have middle : (a * 4 + b / 16) % 4 * 16 +
          (b % 16 * 16 + c / 4) / 16 = b := by omega
      have low : (b % 16 * 16 + c / 4) % 16 * 4 = c := by omega
      simp only [encode, high, middle, low, true_and, List.mem_cons,
        List.not_mem_nil, or_false, forall_eq_or_imp, forall_eq]
      omega
  | case5 first second third fourth rest inductionHypothesis =>
      simp only [decode, Option.bind_eq_bind, Option.bind_eq_some_iff,
        Option.some.injEq] at decoded
      obtain ⟨a, first_of, b, second_of, c, third_of, d, fourth_of, tail,
        decoded, rfl⟩ := decoded
      obtain ⟨rfl, bounds⟩ := inductionHypothesis decoded
      obtain ⟨small, rfl⟩ := of_decodeDigit first_of
      obtain ⟨small', rfl⟩ := of_decodeDigit second_of
      obtain ⟨small'', rfl⟩ := of_decodeDigit third_of
      obtain ⟨small₄, rfl⟩ := of_decodeDigit fourth_of
      have high : (a * 4 + b / 16) / 4 = a := by omega
      have middle : (a * 4 + b / 16) % 4 * 16 +
          (b % 16 * 16 + c / 4) / 16 = b := by omega
      have middle' : (b % 16 * 16 + c / 4) % 16 * 4 +
          (c % 4 * 64 + d) / 64 = c := by omega
      have low : (c % 4 * 64 + d) % 64 = d := by omega
      simp only [encode, high, middle, middle', low, true_and, List.mem_cons,
        forall_eq_or_imp]
      exact ⟨by omega, by omega, by omega, bounds⟩

theorem length_encode (bytes : List Nat) :
    (encode bytes).length = (bytes.length * 4 + 2) / 3 := by
  induction bytes using encode.induct with
  | case1 | case2 | case3 => simp [encode]
  | case4 first second third rest inductionHypothesis =>
      simp only [encode, List.length_cons, inductionHypothesis]
      omega

theorem mem_alphabet_of_mem_encode
    {bytes : List Nat}
    (small : ∀ byte ∈ bytes, byte < 256)
    {character : Char}
    (listed : character ∈ encode bytes) :
    character ∈ alphabet := by
  induction bytes using encode.induct with
  | case1 => cases listed
  | case2 first =>
      have bound := small first (by simp)
      simp only [encode, List.mem_cons, List.not_mem_nil, or_false] at listed
      rcases listed with rfl | rfl <;> exact encodeDigit_mem (by omega)
  | case3 first second =>
      have bound := small first (by simp)
      have bound' := small second (by simp)
      simp only [encode, List.mem_cons, List.not_mem_nil, or_false] at listed
      rcases listed with rfl | rfl | rfl <;> exact encodeDigit_mem (by omega)
  | case4 first second third rest inductionHypothesis =>
      have bound := small first (by simp)
      have bound' := small second (by simp)
      have bound'' := small third (by simp)
      simp only [encode, List.mem_cons] at listed
      rcases listed with rfl | rfl | rfl | rfl | listed
      case inr.inr.inr.inr =>
        exact inductionHypothesis (fun byte listed => small byte
          (by simp [listed])) listed
      all_goals exact encodeDigit_mem (by omega)

/-- A tail of one byte ends in a character whose four low bits are zero. -/
theorem getLast?_encode
    (bytes : List Nat)
    (single : bytes.length % 3 = 1) :
    ∃ value < 4, (encode bytes).getLast? = some (encodeDigit (value * 16)) := by
  induction bytes using encode.induct with
  | case1 | case3 => simp at single
  | case2 first => exact ⟨first % 4, by omega, rfl⟩
  | case4 first second third rest inductionHypothesis =>
      obtain ⟨value, bound, last⟩ := inductionHypothesis
        (by simp only [List.length_cons] at single; omega)
      refine ⟨value, bound, ?_⟩
      simp only [encode, List.getLast?_cons, last, Option.getD_some]

end Base64Url
end Signaling
