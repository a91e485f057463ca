import Signaling.V2.Transitions

/-!
# The V2 room table: membership and signaling

Admission, registration, deregistration, removal, and the relay of browser
messages.
-/

namespace Signaling
namespace V2

open Std (ExtTreeMap)

/-- The bytes of a token. -/
def tokenBytes (token : String) : List UInt8 :=
  token.toUTF8.data.toList

namespace Room

/-- A P2P room with its first member. -/
def create (clientId : ClientId) (member : Member) : Room where
  members := (∅ : ExtTreeMap ClientId Member).insert clientId member
  mode := .p2p
  signalEpoch := 0
  assignmentEpoch := 0
  assignedInstance := none
  upgrade := none
  pendingJoin := none
  pendingLeave := none
  downgradeDeadline := none

/-- The room after every other member's queue has been handed over. -/
def drainOthers (room : Room) (clientId : ClientId) : Room :=
  { room with
    members := room.members.map fun otherId other =>
      if otherId = clientId then other
      else { other with queuedMessages := [] } }

/-- The room after one of its members has been bound to a browser. -/
def registerMember
    (room : Room)
    (clientId : ClientId)
    (member : Member) : Room :=
  let room := room.insertMember clientId
    { member with registered := true, reconnectDeadline := none }
  if room.mode = .p2p then room.drainOthers clientId else room

/-- The messages that every other member has queued, in visiting order. -/
def queuedFor
    (room : Room)
    (order : VisitOrder)
    (roomId : RoomId)
    (clientId : ClientId) : List String :=
  (room.clients order roomId).flatMap fun otherId =>
    if otherId = clientId then []
    else match room.members[otherId]? with
      | none => []
      | some other => other.queuedMessages

end Room

namespace RoomTable

/-- Give every listed member a fresh lifecycle id. -/
def freshLifecycles
    (roomId : RoomId) : List ClientId -> RoomTable -> RoomTable
  | [], table => table
  | clientId :: clients, table =>
      let (lifecycleId, table) := table.nextLifecycle roomId clientId
      freshLifecycles roomId clients
        { table with
          rooms := table.rooms.modify roomId fun room =>
            room.modifyMember clientId fun member =>
              { member with lifecycleId := lifecycleId } }

/-- The clients of an upgrade in join order: the present members ascending, the
new member last. -/
def upgradeOrder (room : Room) (clientId : ClientId) : List ClientId :=
  (room.members.keys.filter fun candidate => decide (candidate ≠ clientId))
    ++ [clientId]

/-- Admit a further member to an SFU room: record the join and ask the worker. -/
def admitToSfu
    (table : RoomTable)
    (authorityRequestId : Nat)
    (now : Instant)
    (roomId : RoomId)
    (clientId : ClientId)
    (admissionToken : String) : Except String AdmissionResult × RoomTable :=
  match table.rooms[roomId]? with
  | none => (.error "ROOM_NOT_FOUND", table)
  | some room =>
  match room.assignedInstance with
  | none => (.error "WORKER_UNAVAILABLE", table)
  | some instanceId =>
  match table.connection? instanceId with
  | none => (.error "WORKER_UNAVAILABLE", table)
  | some connectionId =>
      let (lifecycleId, table) := table.nextLifecycle roomId clientId
      let room := room.insertMember clientId
        (newMember now table.reconnectGrace admissionToken false lifecycleId)
      let room :=
        { room with
          pendingJoin := some ⟨authorityRequestId, clientId⟩
          downgradeDeadline := none }
      let table := table.setRoom roomId room
      (.ok .pending, table.issueCommand instanceId connectionId
        (.join ⟨roomId, clientId, lifecycleId, room.assignmentEpoch⟩)
        (.sfuJoin instanceId roomId clientId lifecycleId
          room.assignmentEpoch))

/-- Put a P2P room into the upgrade to `instanceId` for its third member, and
ask for the first join. -/
def beginUpgrade
    (table : RoomTable)
    (authorityRequestId : Nat)
    (now : Instant)
    (roomId : RoomId)
    (room : Room)
    (clientId : ClientId)
    (admissionToken : String)
    (instanceId : InstanceId) : Except String AdmissionResult × RoomTable :=
  let (lifecycleId, table) := table.nextLifecycle roomId clientId
  let room := room.insertMember clientId
    (newMember now table.reconnectGrace admissionToken false lifecycleId)
  let orderedClients := upgradeOrder room clientId
  let room :=
    { room with
      mode := .upgrading
      assignmentEpoch := saturatingAdd room.assignmentEpoch 1
      assignedInstance := some instanceId }
  let table := freshLifecycles roomId
    (orderedClients.filter fun candidate => decide (candidate ≠ clientId))
    (table.setRoom roomId room)
  let table :=
    { table with
      rooms := table.rooms.modify roomId fun room =>
        { room with
          upgrade := some
            { authorityRequestId := authorityRequestId
              joiningClientId := clientId
              orderedClients := orderedClients
              joinedClients := []
              nextClient := 0 } } }
  let table := table.modifyWorker instanceId fun worker =>
    { worker with
      assignedRooms := worker.assignedRooms.insert roomId
      assignedClients := saturatingAdd worker.assignedClients 3 }
  match table.issueNextUpgradeJoin roomId with
  | (.error error, table) => (.error error, table)
  | (.ok (), table) => (.ok .pending, table)

/-- Admit a client to a room, creating the room for the first one. -/
def admitClient
    (table : RoomTable)
    (authorityRequestId : Nat)
    (now : Instant)
    (roomId : RoomId)
    (clientId : ClientId)
    (admissionToken : String) : Except String AdmissionResult × RoomTable :=
  match table.rooms[roomId]? with
  | none =>
      let (lifecycleId, table) := table.nextLifecycle roomId clientId
      (.ok (.complete
          { mode := .p2p
            signalEpoch := 0
            admissionToken := admissionToken
            isInitiator := some true }),
        table.setRoom roomId (Room.create clientId
          (newMember now table.reconnectGrace admissionToken true
            lifecycleId)))
  | some room =>
  if room.members.contains clientId then (.error "DUPLICATE_CLIENT", table)
  else
  match room.mode with
  | .upgrading => (.error "ROOM_TRANSITION", table)
  | .failed => (.error "WORKER_UNAVAILABLE", table)
  | .sfu =>
      if room.pendingJoin.isSome || room.pendingLeave.isSome then
        (.error "ROOM_TRANSITION", table)
      else
        table.admitToSfu authorityRequestId now roomId clientId admissionToken
  | .p2p =>
      if room.members.size < maxP2pMembers then
        let (lifecycleId, table) := table.nextLifecycle roomId clientId
        (.ok (.complete
            { mode := .p2p
              signalEpoch := room.signalEpoch
              admissionToken := admissionToken
              isInitiator := some false }),
          table.setRoom roomId (room.insertMember clientId
            (newMember now table.reconnectGrace admissionToken false
              lifecycleId)))
      else
        match table.selectWorker 3 with
        | none => (.error "NO_SFU_AVAILABLE", table)
        | some instanceId =>
            table.beginUpgrade authorityRequestId now roomId room clientId
              admissionToken instanceId

/-- Bind a browser to its membership and hand over what was queued for it. -/
def register
    (table : RoomTable)
    (order : VisitOrder)
    (roomId : RoomId)
    (clientId : ClientId)
    (token : String) : Except String Registration × RoomTable :=
  match table.rooms[roomId]? with
  | none => (.error "UNAUTHORIZED", table)
  | some room =>
  if room.mode = .upgrading then (.error "ROOM_TRANSITION", table)
  else
  match room.members[clientId]? with
  | none => (.error "UNAUTHORIZED", table)
  | some member =>
  if !constantTimeEq (tokenBytes member.token) (tokenBytes token) then
    (.error "UNAUTHORIZED", table)
  else if member.registered then (.error "Duplicated registration", table)
  else
    (.ok
      { mode := room.mode
        signalEpoch := room.signalEpoch
        isInitiator :=
          if room.mode = .p2p then some member.isInitiator else none
        queuedMessages :=
          if room.mode = .p2p then room.queuedFor order roomId clientId
          else [] },
      table.setRoom roomId (room.registerMember clientId member))

/-- Drop a browser's registration: an SFU member leaves at once, any other
member keeps the reconnect grace. -/
def deregister
    (table : RoomTable)
    (now : Instant)
    (roomId : RoomId)
    (clientId : ClientId) : RoomTable :=
  match table.rooms[roomId]? with
  | none => table
  | some room =>
  match room.members[clientId]? with
  | none => table
  | some member =>
  if !member.registered then table
  else
    let isSfu := decide (room.mode = .sfu)
    let table := table.setRoom roomId (room.insertMember clientId
      { member with registered := false })
    let (left, table) :=
      if isSfu then table.issueSfuLeave roomId clientId .disconnected
      else (false, table)
    if left then table
    else
      { table with
        rooms := table.rooms.modify roomId fun room =>
          room.modifyMember clientId fun member =>
            { member with
              reconnectDeadline := some (now + table.reconnectGrace) } }

/-- Relay a browser's message: to the worker in SFU mode, to the other member
or onto the sender's queue otherwise. -/
def send
    (table : RoomTable)
    (order : VisitOrder)
    (roomId : RoomId)
    (clientId : ClientId)
    (signalEpoch : Nat)
    (message : String) : Except String SendResult × RoomTable :=
  match table.rooms[roomId]? with
  | none => (.error "CLIENT_NOT_FOUND", table)
  | some room =>
  if room.signalEpoch ≠ signalEpoch || room.mode = .upgrading then
    (.ok .dropped, table)
  else
  match room.members[clientId]? with
  | none => (.error "CLIENT_NOT_FOUND", table)
  | some member =>
  if room.mode = .sfu then
    match room.assignedInstance with
    | none => (.error "WORKER_UNAVAILABLE", table)
    | some instanceId =>
    match table.connection? instanceId with
    | none => (.error "WORKER_UNAVAILABLE", table)
    | some connectionId =>
        (.ok .sfu, table.issueCommand instanceId connectionId
          (.signal
            { roomId := roomId
              clientId := clientId
              lifecycleId := member.lifecycleId
              assignmentEpoch := room.assignmentEpoch
              messageJson := message
              sdpRequestId := none })
          .signal)
  else
    let peer := (room.clients order roomId).find? fun candidate =>
      decide (candidate ≠ clientId)
    let registeredPeer := peer.filter fun peerId =>
      room.members[peerId]?.any (·.registered)
    match registeredPeer with
    | some peerId => (.ok (.p2p (some ⟨roomId, peerId, message⟩)), table)
    | none =>
        match pushQueued member message with
        | .error error => (.error error, table)
        | .ok member =>
            (.ok (.p2p none),
              table.setRoom roomId (room.insertMember clientId member))

/-- Remove a member on behalf of the authority. -/
def remove
    (table : RoomTable)
    (authorityRequestId : Nat)
    (roomId : RoomId)
    (clientId : ClientId)
    (token : String) : Except String RemovalResult × RoomTable :=
  match table.rooms[roomId]? with
  | none => (.error "ROOM_NOT_FOUND", table)
  | some room =>
  match room.members[clientId]? with
  | none => (.error "CLIENT_NOT_FOUND", table)
  | some member =>
  if !constantTimeEq (tokenBytes member.token) (tokenBytes token) then
    (.error "UNAUTHORIZED", table)
  else if room.mode = .upgrading || room.pendingJoin.isSome
      || room.pendingLeave.isSome then
    (.error "ROOM_TRANSITION", table)
  else
  match room.mode with
  | .sfu =>
      match room.assignedInstance with
      | none => (.error "WORKER_UNAVAILABLE", table)
      | some instanceId =>
      match table.connection? instanceId with
      | none => (.error "WORKER_UNAVAILABLE", table)
      | some connectionId =>
          let table := table.setRoom roomId
            { room with
              pendingLeave := some ⟨some authorityRequestId, clientId⟩ }
          (.ok .pending, table.issueCommand instanceId connectionId
            (.leave ⟨roomId, clientId, member.lifecycleId,
              room.assignmentEpoch, .user⟩)
            (.sfuLeave instanceId roomId clientId member.lifecycleId
              room.assignmentEpoch))
  | .failed =>
      (.ok (.complete none),
        table.setOrDropRoom roomId (room.eraseMember clientId))
  | _ =>
      let (promotion, room) :=
        promoteSurvivor roomId (room.eraseMember clientId)
      (.ok (.complete promotion), table.setOrDropRoom roomId room)

/-- Number of members and mode of a room, as the authority sees it. -/
def occupancy
    (table : RoomTable)
    (roomId : RoomId) : Nat × RoomMode :=
  match table.rooms[roomId]? with
  | none => (0, .p2p)
  | some room => (room.members.size, room.mode)

/-- The number of rooms. -/
def roomCount (table : RoomTable) : Nat :=
  table.rooms.size

/-- The number of members of all rooms. -/
def memberCount (table : RoomTable) : Nat :=
  (table.rooms.values.map fun room => room.members.size).sum

/-- The number of members with a registered browser. -/
def registeredCount (table : RoomTable) : Nat :=
  (table.rooms.values.flatMap fun room => room.members.values).countP
    fun member => member.registered

/-- The number of workers whose stream is up. -/
def connectedSfuCount (table : RoomTable) : Nat :=
  table.workers.values.countP fun worker => worker.connectionId.isSome

/-- The number of connected workers that last reported to be ready. -/
def readySfuCount (table : RoomTable) : Nat :=
  table.workers.values.countP fun worker =>
    worker.connectionId.isSome
      && worker.health.any fun health => health.state = .ready

end RoomTable
end V2
end Signaling
