import Signaling.Messages
import Signaling.V1.RoomTable
import Signaling.V2.Run

/-!
# The collider: data

The signaling authority owns both room tables, the browser sessions and the
queues that its driver empties. Its inputs are browser frames, authority
commands, worker inputs and the clock.
-/

namespace Signaling

open Std (ExtTreeMap)

/-- A websocket of a browser. -/
abbrev ConnectionId := Nat

/-- The number of an authority command. -/
abbrev RequestId := Nat

/-- What the driver delivers from browsers. -/
inductive BrowserInput
  | connected (connectionId : ConnectionId)
  | text (connectionId : ConnectionId) (text : String) (now : Instant)
  | disconnected (connectionId : ConnectionId) (now : Instant)
  deriving DecidableEq

/-- What the driver writes to browsers and workers. -/
inductive BrowserOutput
  | text (connectionId : ConnectionId) (frame : Frame)
  | close (connectionId : ConnectionId)
  | sfu (output : Sfu.Output)
  deriving DecidableEq

/-- What the authority may ask for, in V1 rooms and in V2 rooms. -/
inductive AuthorityOperation
  | admitClient
      (roomid : V1.RoomId)
      (clientid : V1.ClientId)
      (isLoopback : Bool)
      (now : Instant)
  | remove (roomid : V1.RoomId) (clientid : V1.ClientId)
  | occupancy (roomid : V1.RoomId)
  | inject
      (roomid : V1.RoomId)
      (clientid : V1.ClientId)
      (msg : String)
      (now : Instant)
  | admitV2
      (roomId : V2.RoomId)
      (clientId : V2.ClientId)
      (admissionToken : String)
      (now : Instant)
  | removeV2
      (roomId : V2.RoomId)
      (clientId : V2.ClientId)
      (admissionToken : String)
  | occupancyV2 (roomId : V2.RoomId)
  | status
  deriving DecidableEq

/-- An operation under the number that its response carries. -/
structure AuthorityCommand where
  requestId : RequestId
  operation : AuthorityOperation
  deriving DecidableEq

/-- The counters that the authority shows. -/
structure StatusSnapshot where
  rooms : Nat
  v2Rooms : Nat
  clients : Nat
  websocketConnections : Nat
  totalWebsocketConnections : Nat
  websocketErrors : Nat
  connectedSfuInstances : Nat
  readySfuInstances : Nat
  deriving DecidableEq

/-- What an operation of the authority comes to. -/
inductive AuthorityResult
  | admitted (isInitiator : Bool) (messages : List String)
  | removed
  | occupancy (count : Nat)
  | injected
  | admittedV2
      (mode : V2.RoomMode)
      (signalEpoch : Nat)
      (admissionToken : String)
      (isInitiator : Option Bool)
  | removedV2
  | occupancyV2 (count : Nat) (mode : V2.RoomMode)
  | status (snapshot : StatusSnapshot)
  | error (result : String)
  deriving DecidableEq

/-- A result under the number of its command. -/
structure AuthorityResponse where
  requestId : RequestId
  result : AuthorityResult
  deriving DecidableEq

/-- What a websocket stands for: nobody yet, or a client of a room. -/
inductive Session
  | connected
  | registeredV1 (roomid : V1.RoomId) (clientid : V1.ClientId)
  | registeredV2 (roomId : V2.RoomId) (clientId : V2.ClientId)
  deriving DecidableEq

/-- A V1 room and client, the key of the V1 connections. -/
abbrev V1.ClientKey := V1.RoomId × V1.ClientId

/-- All mutable state of the authority. -/
structure Collider where
  rooms : V1.RoomTable
  v2Rooms : V2.RoomTable
  sessions : ExtTreeMap ConnectionId Session
  connections : ExtTreeMap V1.ClientKey ConnectionId lexOrd.compare
  v2Connections : ExtTreeMap V2.MemberKey ConnectionId lexOrd.compare
  browserOutputs : List BrowserOutput
  authorityResponses : List AuthorityResponse
  totalWebsocketConnections : Nat
  websocketErrors : Nat

namespace Collider

/-- The visiting orders of the hash maps during one call. -/
structure VisitOrder where
  v1 : V1.VisitOrder
  v2 : V2.VisitOrder
  sessions : HashOrder Unit

/-- Every map is walked in ascending order. -/
def VisitOrder.sorted : VisitOrder where
  v1 := .sorted
  v2 := .sorted
  sessions := .sorted

/-- A collider without rooms and sessions. -/
@[simps] def new (registerTimeout : Duration) : Collider where
  rooms := V1.RoomTable.new registerTimeout
  v2Rooms := V2.RoomTable.new registerTimeout
  sessions := ∅
  connections := ∅
  v2Connections := ∅
  browserOutputs := []
  authorityResponses := []
  totalWebsocketConnections := 0
  websocketErrors := 0

/-- Override the dwell before an SFU room returns to P2P. -/
@[simps] def setDowngradeDwell
    (collider : Collider)
    (dwell : Duration) : Collider :=
  { collider with v2Rooms := collider.v2Rooms.setDowngradeDwell dwell }

/-- Hand an output to the driver. -/
@[simps] def pushOutput
    (collider : Collider)
    (output : BrowserOutput) : Collider :=
  { collider with browserOutputs := collider.browserOutputs ++ [output] }

/-- Hand a response to the driver. -/
@[simps] def pushResponse
    (collider : Collider)
    (response : AuthorityResponse) : Collider :=
  { collider with
    authorityResponses := collider.authorityResponses ++ [response] }

/-- Report an error to a connection and close it. -/
def failConnection
    (collider : Collider)
    (connectionId : ConnectionId)
    (error : String) : Collider :=
  (({ collider with
    websocketErrors := saturatingAdd collider.websocketErrors 1 }.pushOutput
      (.text connectionId (serverErr error))).pushOutput
        (.close connectionId))

end Collider

/-- The value of a canonical decimal numeral below `2 ^ 64`. -/
def canonicalU64 (value : String) : Option Nat :=
  if value = "0" then some 0
  else if value.isEmpty || value.startsWith "0"
      || !value.toList.all Char.isDigit then none
  else
    let number := value.toList.foldl
      (fun number digit => number * 10 + (digit.toNat - '0'.toNat)) 0
    if number ≤ u64Max then some number else none

/-- The value of a JSON string that is a canonical decimal numeral. -/
def canonicalJsonU64 (value : JsonValue) : Option Nat :=
  value.asStr.bind canonicalU64

/-- The name of a mode in frames and responses. -/
def roomModeName : V2.RoomMode -> String
  | .p2p => "p2p"
  | .upgrading => "upgrading"
  | .sfu => "sfu"
  | .failed => "failed"

end Signaling
