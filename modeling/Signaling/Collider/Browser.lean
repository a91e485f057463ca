import Signaling.Collider.Defs

/-!
# The collider: browsers

The queues that leave a room table are drained into outputs and responses;
registration, sending and disconnection of browsers.
-/

namespace Signaling
namespace Collider

/-- Drop a V1 client's connection and close it. -/
def closeClientConnection
    (collider : Collider)
    (roomid : V1.RoomId)
    (clientid : V1.ClientId) : Collider :=
  match collider.connections[(roomid, clientid)]? with
  | none => collider
  | some connectionId =>
      { collider with
        connections := collider.connections.erase (roomid, clientid)
        sessions := collider.sessions.erase connectionId }.pushOutput
          (.close connectionId)

/-- Drop a V2 member's connection and close it. -/
def closeV2ClientConnection
    (collider : Collider)
    (roomId : V2.RoomId)
    (clientId : V2.ClientId) : Collider :=
  match collider.v2Connections[(roomId, clientId)]? with
  | none => collider
  | some connectionId =>
      { collider with
        v2Connections := collider.v2Connections.erase (roomId, clientId)
        sessions := collider.sessions.erase connectionId }.pushOutput
          (.close connectionId)

/-- Send a frame to a V2 member when a connection is bound to it. -/
def notifyMember
    (collider : Collider)
    (roomId : V2.RoomId)
    (clientId : V2.ClientId)
    (frame : Frame) : Collider :=
  match collider.v2Connections[(roomId, clientId)]? with
  | none => collider
  | some connectionId => collider.pushOutput (.text connectionId frame)

/-- Tell a survivor that it now offers. -/
def pushPromotion
    (collider : Collider)
    (promotion : V2.Promotion) : Collider :=
  collider.notifyMember promotion.roomId promotion.clientId (.promoted
    { control := "p2p-promote"
      roomid := V2.formatRoomToken promotion.roomId
      epoch := toString promotion.signalEpoch
      isInitiator := true })

/-- Write up to `fuel` messages of the V1 rooms to their connections. -/
def drainWrites
    (order : V1.VisitOrder) : Nat -> Collider -> Collider
  | 0, collider => collider
  | fuel + 1, collider =>
      match collider.rooms.pollWrite order with
      | (none, _) => collider
      | (some message, rooms) =>
          let collider := { collider with rooms := rooms }
          drainWrites order fuel
            (match collider.connections[(message.roomid, message.clientid)]? with
            | none => collider
            | some connectionId => collider.pushOutput
                (.text connectionId (serverMsg message.msg)))

/-- Write every message of the V1 rooms to its connection. -/
def drainRoomWrites
    (collider : Collider)
    (order : V1.VisitOrder) : Collider :=
  drainWrites order collider.rooms.writeCount collider

/-- The answer to a completed admission. -/
def admissionResult (admission : V2.Admission) : AuthorityResult :=
  .admittedV2 admission.mode admission.signalEpoch admission.admissionToken
    admission.isInitiator

/-- Carry one action of the V2 table out. -/
def performAction
    (collider : Collider) : V2.Action -> Collider
  | .sfu output => collider.pushOutput (.sfu output)
  | .admissionCompleted authorityRequestId result =>
      collider.pushResponse
        { requestId := authorityRequestId
          result := match result with
            | .ok admission => admissionResult admission
            | .error result => .error result }
  | .removalCompleted authorityRequestId roomId clientId result =>
      match result with
      | .ok () =>
          (collider.closeV2ClientConnection roomId clientId).pushResponse
            ⟨authorityRequestId, .removedV2⟩
      | .error result =>
          collider.pushResponse ⟨authorityRequestId, .error result⟩
  | .upgraded roomId signalEpoch existingClients =>
      existingClients.foldl
        (fun collider clientId => collider.notifyMember roomId clientId
          (.upgrade
            { control := "sfu-upgrade"
              roomid := V2.formatRoomToken roomId
              epoch := toString signalEpoch }))
        collider
  | .downgraded roomId signalEpoch initiatorClientId clients =>
      clients.foldl
        (fun collider clientId => collider.notifyMember roomId clientId
          (.downgrade
            { control := "sfu-downgrade"
              roomid := V2.formatRoomToken roomId
              epoch := toString signalEpoch
              isInitiator := decide (clientId = initiatorClientId) }))
        collider
  | .deliver delivery =>
      collider.notifyMember delivery.roomId delivery.clientId
        (serverMsg delivery.message)
  | .roomFailed roomId clients reason =>
      clients.foldl
        (fun collider clientId => collider.notifyMember roomId clientId
          (.roomFailed
            { control := "room-failed"
              roomid := V2.formatRoomToken roomId
              reason := reason }))
        collider

/-- Carry up to `fuel` actions of the V2 table out. -/
def drainActions : Nat -> Collider -> Collider
  | 0, collider => collider
  | fuel + 1, collider =>
      match collider.v2Rooms.pollAction with
      | (none, _) => collider
      | (some action, v2Rooms) =>
          drainActions fuel
            ({ collider with v2Rooms := v2Rooms }.performAction action)

/-- Carry every action of the V2 table out. -/
def drainV2Actions (collider : Collider) : Collider :=
  drainActions collider.v2Rooms.actions.length collider

/-- True when a client has registered on the connection. -/
def isRegistered
    (collider : Collider)
    (connectionId : ConnectionId) : Bool :=
  match collider.sessions[connectionId]? with
  | some (.registeredV1 ..) | some (.registeredV2 ..) => true
  | some .connected | none => false

/-- Register a V1 client on a connection. -/
def registerV1
    (collider : Collider)
    (order : VisitOrder)
    (connectionId : ConnectionId)
    (msg : WsClientMsg)
    (now : Instant) : Collider :=
  if collider.isRegistered connectionId then
    collider.failConnection connectionId "Duplicated register request"
  else if msg.roomid.isEmpty || msg.clientid.isEmpty then
    collider.failConnection connectionId
      "Invalid register request: missing 'clientid' or 'roomid'"
  else
    let (result, rooms) :=
      collider.rooms.register order.v1 now msg.roomid msg.clientid
    let collider := { collider with rooms := rooms }
    match result with
    | .error error => collider.failConnection connectionId error
    | .ok () =>
        { collider with
          sessions := collider.sessions.insert connectionId
            (.registeredV1 msg.roomid msg.clientid)
          connections := collider.connections.insert
            (msg.roomid, msg.clientid) connectionId
          totalWebsocketConnections :=
            saturatingAdd collider.totalWebsocketConnections 1
        }.drainRoomWrites order.v1

/-- Register a V2 member on a connection: the snapshot of its room precedes the
messages that were queued for it. -/
def registerV2
    (collider : Collider)
    (order : VisitOrder)
    (connectionId : ConnectionId)
    (msg : WsClientMsg) : Collider :=
  if collider.isRegistered connectionId then
    collider.failConnection connectionId "Duplicated register request"
  else
  match V2.parseRoomToken msg.roomid with
  | none => collider.failConnection connectionId "INVALID_ROOM_ID"
  | some roomId =>
  match canonicalU64 msg.clientid with
  | none => collider.failConnection connectionId "INVALID_CLIENT_ID"
  | some clientId =>
  if msg.token.isEmpty then
    collider.failConnection connectionId "UNAUTHORIZED"
  else
    let (result, v2Rooms) :=
      collider.v2Rooms.register order.v2 roomId clientId msg.token
    let collider := { collider with v2Rooms := v2Rooms }
    match result with
    | .error error => collider.failConnection connectionId error
    | .ok registration =>
        let collider :=
          { collider with
            sessions := collider.sessions.insert connectionId
              (.registeredV2 roomId clientId)
            v2Connections := collider.v2Connections.insert
              (roomId, clientId) connectionId
            totalWebsocketConnections :=
              saturatingAdd collider.totalWebsocketConnections 1
          }.pushOutput (.text connectionId (.registered
            { control := "registered"
              roomid := V2.formatRoomToken roomId
              epoch := toString registration.signalEpoch
              mode := roomModeName registration.mode
              isInitiator := registration.isInitiator }))
        registration.queuedMessages.foldl
          (fun collider message => collider.pushOutput
            (.text connectionId (serverMsg message)))
          collider

/-- Send up to `fuel` messages that V1 clients have received on their sockets
to their peers, stopping at the first error. -/
def relayReads
    (order : V1.VisitOrder)
    (now : Instant) :
    Nat -> V1.RoomTable -> Except String Unit × V1.RoomTable
  | 0, rooms => (.ok (), rooms)
  | fuel + 1, rooms =>
      match rooms.pollRead order with
      | (none, _) => (.ok (), rooms)
      | (some message, rooms) =>
          match rooms.send order now message.roomid message.clientid
              message.msg with
          | (.error error, rooms) => (.error error, rooms)
          | (.ok (), rooms) => relayReads order now fuel rooms

/-- Send a V1 client's message to its peer. -/
def sendV1
    (collider : Collider)
    (order : VisitOrder)
    (roomid : V1.RoomId)
    (clientid : V1.ClientId)
    (msg : String)
    (now : Instant) : Except String Unit × Collider :=
  let rooms := collider.rooms.handleRead ⟨roomid, clientid, msg⟩
  match relayReads order.v1 now rooms.readCount rooms with
  | (.error error, rooms) => (.error error, { collider with rooms := rooms })
  | (.ok (), rooms) =>
      (.ok (), { collider with rooms := rooms }.drainRoomWrites order.v1)

/-- Send a V2 member's message into its room, unless its epoch is not a
canonical number. -/
def sendV2
    (collider : Collider)
    (order : VisitOrder)
    (roomId : V2.RoomId)
    (clientId : V2.ClientId)
    (msg : WsClientMsg) : Except String Unit × Collider :=
  match msg.epoch.bind canonicalJsonU64 with
  | none => (.ok (), collider)
  | some signalEpoch =>
      match collider.v2Rooms.send order.v2 roomId clientId signalEpoch
          msg.msg with
      | (.error error, v2Rooms) =>
          (.error error, { collider with v2Rooms := v2Rooms })
      | (.ok result, v2Rooms) =>
          let collider := { collider with v2Rooms := v2Rooms }
          let collider := match result with
            | .p2p (some delivery) => collider.notifyMember delivery.roomId
                delivery.clientId (serverMsg delivery.message)
            | _ => collider
          (.ok (), collider.drainV2Actions)

/-- Take a message from a registered browser. -/
def send
    (collider : Collider)
    (order : VisitOrder)
    (connectionId : ConnectionId)
    (msg : WsClientMsg)
    (now : Instant) : Except String Unit × Collider :=
  match collider.sessions[connectionId]? with
  | none =>
      (.ok (), collider.failConnection connectionId "Client not registered")
  | some session =>
  if msg.msg.isEmpty then
    (.ok (), collider.failConnection connectionId
      "Invalid send request: missing 'msg'")
  else
  match session with
  | .registeredV1 roomid clientid =>
      collider.sendV1 order roomid clientid msg.msg now
  | .registeredV2 roomId clientId =>
      collider.sendV2 order roomId clientId msg
  | .connected =>
      (.ok (), collider.failConnection connectionId "Client not registered")

/-- Drop a connection and, when it is the current one of a client, the client's
registration. -/
def disconnect
    (collider : Collider)
    (connectionId : ConnectionId)
    (now : Instant) : Collider :=
  match collider.sessions[connectionId]? with
  | none => collider
  | some session =>
      let collider := { collider with
        sessions := collider.sessions.erase connectionId }
      match session with
      | .registeredV1 roomid clientid =>
          if collider.connections[(roomid, clientid)]? = some connectionId then
            { collider with
              connections := collider.connections.erase (roomid, clientid)
              rooms := collider.rooms.deregister now roomid clientid }
          else collider
      | .registeredV2 roomId clientId =>
          if collider.v2Connections[(roomId, clientId)]? = some connectionId then
            { collider with
              v2Connections := collider.v2Connections.erase (roomId, clientId)
              v2Rooms := collider.v2Rooms.deregister now roomId clientId
            }.drainV2Actions
          else collider
      | .connected => collider

/-- Take a frame from a browser. `decode` reads its text. -/
def handleBrowserText
    (decode : String -> Except String WsClientMsg)
    (collider : Collider)
    (order : VisitOrder)
    (connectionId : ConnectionId)
    (text : String)
    (now : Instant) : Except String Unit × Collider :=
  match decode text with
  | .error error => (.ok (), collider.failConnection connectionId
      s!"websocket.JSON.Receive error: {error}")
  | .ok msg =>
      if msg.cmd = "register" then
        if msg.ver = some 2 then
          (.ok (), collider.registerV2 order connectionId msg)
        else if msg.ver = none then
          (.ok (), collider.registerV1 order connectionId msg now)
        else (.ok (), collider.failConnection connectionId "INVALID_VERSION")
      else if msg.cmd = "send" then
        collider.send order connectionId msg now
      else (.ok (), collider.failConnection connectionId
        "Invalid message: unexpected 'cmd'")

end Collider
end Signaling
