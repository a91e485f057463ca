import Signaling.V2.Token
import Mathlib.Data.List.Induction
import Mathlib.Data.Nat.Digits.Defs

/-!
# One spelling for every room

A room link names its room in exactly one way: a token that parses is the token
that the room id is rendered as.
-/

namespace Signaling
namespace Uuid

/-- The number that bytes spell, most significant byte first. -/
abbrev spelled (bytes : List Nat) : Nat :=
  bytes.foldl (fun value byte => value * 256 + byte) 0

/-- The low bytes of a number spell its remainder. -/
theorem spelled_bytes (number count : Nat) :
    spelled ((List.range count).map fun index =>
      number / 256 ^ (count - 1 - index) % 256) = number % 256 ^ count := by
  induction count generalizing number with
  | zero => simp [Nat.mod_one]
  | succ count inductionHypothesis =>
      have earlier : (List.range count).map (fun index =>
          number / 256 ^ (count + 1 - 1 - index) % 256) =
        (List.range count).map fun index =>
          number / 256 / 256 ^ (count - 1 - index) % 256 := by
        refine List.map_congr_left fun index before => ?_
        have positive := List.mem_range.1 before
        rw [Nat.div_div_eq_div_mul, ← Nat.pow_succ']
        congr 3
        omega
      rw [List.range_succ, List.map_append, spelled, List.foldl_append, earlier]
      change spelled _ * 256 + number / 256 ^ (count + 1 - 1 - count) % 256 = _
      rw [inductionHypothesis, Nat.add_sub_cancel, Nat.sub_self, Nat.pow_zero,
        Nat.div_one, Nat.pow_succ', Nat.mod_mul, Nat.add_comm, Nat.mul_comm]

/-- The bytes of a spelled number are the bytes that spell it. -/
theorem bytes_spelled
    (bytes : List Nat)
    (small : ∀ byte ∈ bytes, byte < 256) :
    ((List.range bytes.length).map fun index =>
      spelled bytes / 256 ^ (bytes.length - 1 - index) % 256) = bytes := by
  induction bytes using List.reverseRecOn with
  | nil => rfl
  | append_singleton bytes last inductionHypothesis =>
      have bound : last < 256 := small last (by simp)
      have earlier := inductionHypothesis
        fun byte listed => small byte (by simp [listed])
      have step : spelled (bytes ++ [last]) = spelled bytes * 256 + last := by
        simp [spelled]
      rw [List.length_append, List.length_singleton, List.range_succ,
        List.map_append, step]
      congr 1
      · refine Eq.trans (List.map_congr_left fun index before => ?_) earlier
        have positive := List.mem_range.1 before
        have shifted : bytes.length + 1 - 1 - index =
            (bytes.length - 1 - index) + 1 := by omega
        rw [shifted, Nat.pow_succ', ← Nat.div_div_eq_div_mul]
        congr 2
        omega
      · simp only [List.map_cons, List.map_nil, Nat.add_sub_cancel, Nat.sub_self,
          Nat.pow_zero, Nat.div_one]
        congr 1
        omega

theorem length_asBytes (uuid : Uuid) : uuid.asBytes.length = 16 := by
  simp [asBytes]

theorem lt_of_mem_asBytes
    {uuid : Uuid}
    {byte : Nat}
    (listed : byte ∈ uuid.asBytes) :
    byte < 256 := by
  obtain ⟨index, -, rfl⟩ := List.mem_map.1 listed
  exact Nat.mod_lt _ (by decide)

theorem fromBytes_asBytes (uuid : Uuid) : fromBytes uuid.asBytes = uuid := by
  have whole := spelled_bytes uuid.toNat 16
  rw [Nat.mod_eq_of_lt (lt_of_lt_of_eq uuid.isLt (by norm_num))] at whole
  change BitVec.ofNat 128 (spelled uuid.asBytes) = uuid
  rw [show spelled uuid.asBytes = uuid.toNat from whole, BitVec.ofNat_toNat,
    BitVec.setWidth_eq]

theorem asBytes_fromBytes
    {bytes : List Nat}
    (complete : bytes.length = 16)
    (small : ∀ byte ∈ bytes, byte < 256) :
    (fromBytes bytes).asBytes = bytes := by
  have back := bytes_spelled bytes small
  rw [complete] at back
  have bound : spelled bytes < 2 ^ 128 := by
    rw [← back, spelled_bytes]
    exact lt_of_lt_of_eq (Nat.mod_lt _ (by norm_num)) (by norm_num)
  have number : (fromBytes bytes).toNat = spelled bytes := by
    rw [fromBytes, BitVec.toNat_ofNat, Nat.mod_eq_of_lt bound]
  rw [asBytes, number]
  exact back

/-- The version is the high half of byte six. -/
theorem getVersionNum_eq (uuid : Uuid) :
    uuid.getVersionNum = uuid.asBytes.getD 6 0 / 16 := by
  simp only [asBytes, getVersionNum]
  simp
  omega

/-- The variant is told by the two high bits of byte eight. -/
theorem isRfcVariant_iff (uuid : Uuid) :
    uuid.isRfcVariant = true ↔ uuid.asBytes.getD 8 0 / 64 = 2 := by
  simp only [asBytes, isRfcVariant, decide_eq_true_eq]
  simp
  omega

end Uuid

/-- Text in the base64url alphabet has as many bytes as characters. -/
theorem Base64Url.utf8ByteSize_ofList
    {characters : List Char}
    (listed : ∀ character ∈ characters, character ∈ alphabet) :
    (String.ofList characters).utf8ByteSize = characters.length := by
  induction characters with
  | nil => rfl
  | cons character characters inductionHypothesis =>
      have single := utf8Size_of_mem (listed character List.mem_cons_self)
      have rest := inductionHypothesis
        fun other later => listed other (List.mem_cons_of_mem _ later)
      rw [String.ofList_cons, String.utf8ByteSize_append,
        String.utf8ByteSize_singleton, single, rest, List.length_cons]
      omega

namespace V2

theorem parseRoomToken_formatRoomToken
    {roomId : RoomId}
    (wellFormed : isRoomUuid roomId = true) :
    parseRoomToken (formatRoomToken roomId) = some roomId := by
  have small : ∀ byte ∈ roomId.asBytes, byte < 256 :=
    fun byte listed => Uuid.lt_of_mem_asBytes listed
  have bytes : (formatRoomToken roomId).utf8ByteSize = roomTokenLen := by
    rw [formatRoomToken, Base64Url.utf8ByteSize_ofList
        fun _ listed => Base64Url.mem_alphabet_of_mem_encode small listed,
      Base64Url.length_encode, Uuid.length_asBytes]
    rfl
  have decoded : Base64Url.decode (formatRoomToken roomId).toList =
      some roomId.asBytes := by
    rw [formatRoomToken, String.toList_ofList, Base64Url.decode_encode _ small]
  simp [parseRoomToken, bytes, decoded, Uuid.length_asBytes,
    Uuid.fromBytes_asBytes, wellFormed]

/-- A token that parses encodes the sixteen bytes of its room id. -/
theorem of_parseRoomToken
    {token : String}
    {roomId : RoomId}
    (parsed : parseRoomToken token = some roomId) :
    token = formatRoomToken roomId ∧ isRoomUuid roomId = true := by
  simp only [parseRoomToken] at parsed
  split at parsed
  · cases parsed
  · split at parsed
    · cases parsed
    · rename_i bytes decoded
      split at parsed
      · cases parsed
      · rename_i complete
        split at parsed
        · rename_i wellFormed
          obtain rfl := Option.some.inj parsed
          obtain ⟨spells, small⟩ := Base64Url.of_decode decoded
          rw [not_not] at complete
          refine ⟨?_, wellFormed⟩
          rw [formatRoomToken, Uuid.asBytes_fromBytes complete small, spells,
            String.ofList_toList]
        · cases parsed

/-- A token has twenty-two characters, the last of which carries two bits. -/
theorem formatRoomToken_shape (roomId : RoomId) :
    (formatRoomToken roomId).length = 22 ∧
      ∃ last ∈ ['A', 'Q', 'g', 'w'],
        (formatRoomToken roomId).toList.getLast? = some last := by
  have complete := Uuid.length_asBytes roomId
  obtain ⟨value, small, ends⟩ := Base64Url.getLast?_encode roomId.asBytes
    (by simp [complete])
  have last : ∀ value < 4,
      Base64Url.encodeDigit (value * 16) ∈ ['A', 'Q', 'g', 'w'] := by
    decide
  refine ⟨?_, _, last value small, ?_⟩
  · rw [← String.length_toList, formatRoomToken, String.toList_ofList,
      Base64Url.length_encode, complete]
  · rw [formatRoomToken, String.toList_ofList, ends]

/-- The shape of a room id, told by two of its bytes. -/
theorem isRoomUuid_iff (roomId : RoomId) :
    isRoomUuid roomId = true ↔
      roomId.asBytes.getD 6 0 / 16 = 8 ∧ roomId.asBytes.getD 8 0 / 64 = 2 := by
  rw [isRoomUuid, Bool.and_eq_true, decide_eq_true_eq, Uuid.getVersionNum_eq,
    Uuid.isRfcVariant_iff]

/-- Every room id of the service has exactly one token, and nothing else parses
to it. -/
theorem one_spelling :
    (∀ roomId : RoomId, roomId.asBytes.getD 6 0 / 16 = 8 ->
      roomId.asBytes.getD 8 0 / 64 = 2 ->
      parseRoomToken (formatRoomToken roomId) = some roomId) ∧
    (∀ (token : String) (roomId : RoomId), parseRoomToken token = some roomId ->
      token = formatRoomToken roomId ∧
        roomId.asBytes.getD 6 0 / 16 = 8 ∧ roomId.asBytes.getD 8 0 / 64 = 2 ∧
        token.length = 22 ∧
        ∃ last ∈ ['A', 'Q', 'g', 'w'], token.toList.getLast? = some last) ∧
    ∀ (token other : String) (roomId : RoomId),
      parseRoomToken token = some roomId ->
      parseRoomToken other = some roomId -> token = other := by
  refine ⟨fun roomId version variant => ?_, fun token roomId parsed => ?_,
    fun token other roomId parsed also => ?_⟩
  · exact parseRoomToken_formatRoomToken
      ((isRoomUuid_iff roomId).2 ⟨version, variant⟩)
  · obtain ⟨rfl, wellFormed⟩ := of_parseRoomToken parsed
    obtain ⟨version, variant⟩ := (isRoomUuid_iff roomId).1 wellFormed
    exact ⟨rfl, version, variant, formatRoomToken_shape roomId⟩
  · rw [(of_parseRoomToken parsed).1, (of_parseRoomToken also).1]

theorem one_spelling_smallest :
    parseRoomToken "AAAAAAAAgACAAAAAAAAAAA" =
      some 0x00000000000080008000000000000000#128 := by
  have written : formatRoomToken 0x00000000000080008000000000000000#128 =
      "AAAAAAAAgACAAAAAAAAAAA" := by
    decide +kernel
  rw [← written]
  exact one_spelling.1 _ (by decide +kernel) (by decide +kernel)

end V2
end Signaling
