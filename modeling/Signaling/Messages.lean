import Signaling.V2.Token

/-!
# Browser messages

The frames that a browser sends and the frames that it receives. Frames are
kept typed: the JSON text of a server frame is its serialization, and the text
of a client frame is read by a decoder that the program takes from a library.
-/

namespace Signaling

namespace V1

/-- The name of a V1 room. -/
abbrev RoomId := String

/-- The name of a V1 client. -/
abbrev ClientId := String

end V1

/-- A message of a V1 client, tagged with its room and client. -/
structure Message where
  roomid : V1.RoomId
  clientid : V1.ClientId
  msg : String
  deriving DecidableEq

/-- A JSON value as far as the program looks into it. -/
inductive JsonValue
  | string (text : String)
  | other
  deriving DecidableEq

/-- The text of a JSON string. -/
def JsonValue.asStr : JsonValue -> Option String
  | .string text => some text
  | .other => none

/-- A frame from a browser. Absent fields read as empty. -/
structure WsClientMsg where
  cmd : String
  roomid : String
  clientid : String
  msg : String
  ver : Option Nat
  token : String
  epoch : Option JsonValue
  deriving DecidableEq

/-- Confirms the registration of a V2 member, with its role in P2P mode. -/
structure V2Registered where
  control : String
  roomid : String
  epoch : String
  mode : String
  isInitiator : Option Bool
  deriving DecidableEq

/-- Tells the survivor of a P2P room that it now offers. -/
structure V2Promoted where
  control : String
  roomid : String
  epoch : String
  isInitiator : Bool
  deriving DecidableEq

/-- Tells the members that their room has switched to an SFU. -/
structure V2Upgrade where
  control : String
  roomid : String
  epoch : String
  deriving DecidableEq

/-- Tells a member that its room is back in P2P mode, and its role there. -/
structure V2Downgrade where
  control : String
  roomid : String
  epoch : String
  isInitiator : Bool
  deriving DecidableEq

/-- Tells the members that their room has failed. -/
structure V2RoomFailed where
  control : String
  roomid : String
  reason : String
  deriving DecidableEq

/-- A message sent to a client on behalf of another client, or an error. -/
structure WsServerMsg where
  msg : String
  error : String
  deriving DecidableEq

/-- A frame to a browser, before its serialization. -/
inductive Frame
  | registered (frame : V2Registered)
  | promoted (frame : V2Promoted)
  | upgrade (frame : V2Upgrade)
  | downgrade (frame : V2Downgrade)
  | roomFailed (frame : V2RoomFailed)
  | server (frame : WsServerMsg)
  deriving DecidableEq

/-- The frame that carries a relay payload. -/
def serverMsg (msg : String) : Frame :=
  .server { msg := msg, error := "" }

/-- The frame that carries an error. -/
def serverErr (error : String) : Frame :=
  .server { msg := "", error := error }

end Signaling
