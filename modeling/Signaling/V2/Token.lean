import Signaling.Support.Base64Url
import Mathlib

/-!
# Room identifiers and room tokens

A room is named by a 128-bit UUID of version 8. Room links carry the sixteen
bytes of the UUID as twenty-two base64url characters.
-/

namespace Signaling

/-- A point on the caller's clock, in nanoseconds. -/
abbrev Instant := Nat

/-- A span of the caller's clock, in nanoseconds. -/
abbrev Duration := Nat

/-- A UUID, most significant byte first. -/
abbrev Uuid := BitVec 128

namespace Uuid

/-- The sixteen bytes of a UUID in network order. -/
def asBytes (uuid : Uuid) : List Nat :=
  (List.range 16).map fun index => uuid.toNat / 256 ^ (15 - index) % 256

/-- The UUID of sixteen bytes in network order. -/
def fromBytes (bytes : List Nat) : Uuid :=
  BitVec.ofNat 128 (bytes.foldl (fun value byte => value * 256 + byte) 0)

/-- The version number: the high four bits of byte six. -/
def getVersionNum (uuid : Uuid) : Nat :=
  uuid.toNat / 2 ^ 76 % 16

/-- The RFC 9562 variant: byte eight starts with the bits one and zero. -/
def isRfcVariant (uuid : Uuid) : Bool :=
  uuid.toNat / 2 ^ 62 % 4 = 2

end Uuid

namespace V2

/-- A V2 room, named by its UUID. -/
abbrev RoomId := Uuid

/-- A member of a V2 room. -/
abbrev ClientId := Nat

instance : Std.TransOrd RoomId := BitVec.instTransOrd

/-- Number of characters in a room token. -/
def roomTokenLen : Nat := 22

/-- True when the id is a UUIDv8 with the RFC 9562 variant. -/
def isRoomUuid (roomId : RoomId) : Bool :=
  roomId.getVersionNum = 8 && roomId.isRfcVariant

/-- Render a room id as the token of its room link. -/
def formatRoomToken (roomId : RoomId) : String :=
  String.ofList (Base64Url.encode roomId.asBytes)

/-- Parse a room token, refusing everything but the canonical spelling. -/
def parseRoomToken (token : String) : Option RoomId :=
  if token.utf8ByteSize ≠ roomTokenLen then none
  else
    match Base64Url.decode token.toList with
    | none => none
    | some bytes =>
        if bytes.length ≠ 16 then none
        else
          let roomId := Uuid.fromBytes bytes
          if isRoomUuid roomId then some roomId else none

end V2
end Signaling
