import Signaling.V2.Defs

/-!
# The V2 room table: mode transitions

The join barrier of an upgrade with its commit and its rollback, the dwell and
the commit of a downgrade, room failure, worker choice, and the immediate leave
of an SFU member.
-/

namespace Signaling
namespace V2

/-- True when a deadline is set and has passed. -/
def isDue (deadline : Option Instant) (now : Instant) : Bool :=
  deadline.any fun deadline => decide (deadline ≤ now)

namespace Room

/-- The room after an upgrade has been committed. -/
def commitSfu (room : Room) : Room :=
  { room with
    upgrade := none
    mode := .sfu
    signalEpoch := saturatingAdd room.signalEpoch 1
    members := room.members.map fun _ member =>
      { member with queuedMessages := [], isInitiator := false } }

/-- The room after an upgrade has been rolled back; the assignment is taken by
the caller. -/
def rollBack (room : Room) (joiningClientId : ClientId) : Room :=
  { room.eraseMember joiningClientId with
    upgrade := none
    mode := .p2p }

/-- The room after a downgrade that elected `initiatorClientId`. -/
def commitP2p (room : Room) (initiatorClientId : ClientId) : Room :=
  { room with
    mode := .p2p
    signalEpoch := saturatingAdd room.signalEpoch 1
    downgradeDeadline := none
    assignedInstance := none
    members := room.members.map fun clientId member =>
      { member with
        isInitiator := decide (clientId = initiatorClientId)
        queuedMessages := [] } }

end Room

namespace Worker

/-- The key by which workers are compared: clients, rooms, instance id. -/
def lighter
    (left right : InstanceId × Worker) : Bool :=
  if left.2.assignedClients ≠ right.2.assignedClients then
    decide (left.2.assignedClients < right.2.assignedClients)
  else if left.2.assignedRooms.size ≠ right.2.assignedRooms.size then
    decide (left.2.assignedRooms.size < right.2.assignedRooms.size)
  else decide (left.1 < right.1)

/-- True when the worker is connected, ready, and has room for one more room
with the given number of clients. -/
def takes (worker : Worker) (additionalClients : Nat) : Bool :=
  match worker.health with
  | none => false
  | some health =>
      worker.connectionId.isSome
        && health.state = .ready
        && worker.assignedRooms.size < worker.capacity.maxRooms
        && saturatingAdd worker.assignedClients additionalClients
            ≤ worker.capacity.maxClients

end Worker

namespace RoomTable

/-- The least loaded worker that takes the given number of clients. -/
def selectWorker
    (table : RoomTable)
    (additionalClients : Nat) : Option InstanceId :=
  let candidates := table.workers.toList.filter fun entry =>
    entry.2.takes additionalClients
  match candidates with
  | [] => none
  | first :: rest =>
      some (rest.foldl
        (fun best entry => if Worker.lighter entry best then entry else best)
        first).1

/-- Ask the worker to join the next client of the upgrade. An index outside the
client list would panic in the program; it is the last error here. -/
def issueNextUpgradeJoin
    (table : RoomTable)
    (roomId : RoomId) : Except String Unit × RoomTable :=
  match table.rooms[roomId]? with
  | none => (.error "ROOM_NOT_FOUND", table)
  | some room =>
  match room.upgrade with
  | none => (.error "ROOM_TRANSITION", table)
  | some upgrade =>
  match upgrade.orderedClients[upgrade.nextClient]? with
  | none => (.error "index out of bounds", table)
  | some clientId =>
  match room.members[clientId]? with
  | none => (.error "CLIENT_NOT_FOUND", table)
  | some member =>
  match room.assignedInstance with
  | none => (.error "WORKER_UNAVAILABLE", table)
  | some instanceId =>
  match table.connection? instanceId with
  | none => (.error "WORKER_UNAVAILABLE", table)
  | some connectionId =>
      (.ok (), table.issueCommand instanceId connectionId
        (.join ⟨roomId, clientId, member.lifecycleId, room.assignmentEpoch⟩)
        (.upgradeJoin instanceId roomId clientId member.lifecycleId
          room.assignmentEpoch))

/-- Switch the room to SFU, announce it, and answer the admission. -/
def commitUpgrade
    (table : RoomTable)
    (order : VisitOrder)
    (roomId : RoomId) : Except String Unit × RoomTable :=
  match table.rooms[roomId]? with
  | none => (.error "ROOM_NOT_FOUND", table)
  | some room =>
  match room.upgrade with
  | none => (.error "ROOM_TRANSITION", table)
  | some upgrade =>
      let room := room.commitSfu
      let table := table.setRoom roomId room
      match room.members[upgrade.joiningClientId]? with
      | none => (.error "CLIENT_NOT_FOUND", table)
      | some joining =>
          let admission : Admission :=
            { mode := .sfu
              signalEpoch := room.signalEpoch
              admissionToken := joining.token
              isInitiator := none }
          let existingClients := (room.clients order roomId).filter
            fun clientId => decide (clientId ≠ upgrade.joiningClientId)
          (.ok (), (table.pushAction
            (.upgraded roomId room.signalEpoch existingClients)).pushAction
              (.admissionCompleted upgrade.authorityRequestId (.ok admission)))

/-- Leave every client that an aborted upgrade had joined. -/
def leaveJoined
    (instanceId : InstanceId)
    (connectionId : Sfu.ConnectionId)
    (roomId : RoomId)
    (assignmentEpoch : Nat) :
    List ClientId -> RoomTable -> Except String Unit × RoomTable
  | [], table => (.ok (), table)
  | clientId :: clients, table =>
      match table.member? roomId clientId with
      | none => (.error "CLIENT_NOT_FOUND", table)
      | some member =>
          leaveJoined instanceId connectionId roomId assignmentEpoch clients
            (table.issueCommand instanceId connectionId
              (.leave ⟨roomId, clientId, member.lifecycleId, assignmentEpoch,
                .roomClosed⟩) .cleanup)

/-- Roll an upgrade back to P2P: drop the joining client, release the worker,
leave the clients already joined, and answer the admission. -/
def abortUpgrade
    (table : RoomTable)
    (roomId : RoomId)
    (reason : String) : Except String Unit × RoomTable :=
  match table.rooms[roomId]? with
  | none => (.error "ROOM_NOT_FOUND", table)
  | some room =>
  match room.upgrade with
  | none => (.error "ROOM_TRANSITION", table)
  | some upgrade =>
      let room := room.rollBack upgrade.joiningClientId
      match room.assignedInstance with
      | none => (.error "WORKER_UNAVAILABLE", table.setRoom roomId room)
      | some instanceId =>
          let room := { room with assignedInstance := none }
          let connectionId := table.connection? instanceId
          let table := (table.setRoom roomId room).modifyWorker instanceId
            fun worker =>
              { worker with
                assignedRooms := worker.assignedRooms.erase roomId
                assignedClients := worker.assignedClients - 3 }
          let left : Except String Unit × RoomTable :=
            match connectionId with
            | none => (.ok (), table)
            | some connectionId =>
                leaveJoined instanceId connectionId roomId
                  room.assignmentEpoch upgrade.joinedClients table
          match left with
          | (.error error, table) => (.error error, table)
          | (.ok (), table) => (.ok (), table.pushAction
              (.admissionCompleted upgrade.authorityRequestId
                (.error (if reason.isEmpty then "WORKER_UNAVAILABLE"
                  else reason))))

/-- True when the room is a stable SFU room small enough for direct P2P. -/
def isDowngradeEligible
    (table : RoomTable)
    (roomId : RoomId) : Bool :=
  table.rooms[roomId]?.any fun room =>
    room.mode = .sfu
      && !room.members.isEmpty
      && room.members.size ≤ maxP2pMembers
      && room.upgrade.isNone
      && room.pendingJoin.isNone
      && room.pendingLeave.isNone

/-- Arm the downgrade dwell of an eligible room, keeping an armed deadline, and
clear it otherwise. -/
def armDowngrade
    (table : RoomTable)
    (roomId : RoomId)
    (now : Instant) : RoomTable :=
  let eligible := table.isDowngradeEligible roomId
  match table.rooms[roomId]? with
  | none => table
  | some room =>
      if eligible then
        if room.downgradeDeadline.isNone then
          table.setRoom roomId
            { room with
              downgradeDeadline := some (now + table.downgradeDwell) }
        else table
      else table.setRoom roomId { room with downgradeDeadline := none }

/-- Leave every member of a downgraded room. -/
def leaveAll
    (instanceId : InstanceId)
    (connectionId : Sfu.ConnectionId)
    (roomId : RoomId)
    (assignmentEpoch : Nat)
    (leaving : List (ClientId × Nat))
    (table : RoomTable) : RoomTable :=
  leaving.foldl
    (fun table leave => table.issueCommand instanceId connectionId
      (.leave ⟨roomId, leave.1, leave.2, assignmentEpoch, .roomClosed⟩)
      .cleanup)
    table

/-- Return an SFU room to P2P: elect the lowest client id, tear down every SFU
leg, free the assignment, and announce the downgrade. -/
def commitDowngrade
    (table : RoomTable)
    (order : VisitOrder)
    (roomId : RoomId) : Except String Unit × RoomTable :=
  match table.rooms[roomId]? with
  | none => (.error "ROOM_NOT_FOUND", table)
  | some room =>
      let clients := room.members.keys
      match clients with
      | [] => (.error "CLIENT_NOT_FOUND", table.setRoom roomId
          { room with
            mode := .p2p
            signalEpoch := saturatingAdd room.signalEpoch 1
            downgradeDeadline := none
            assignedInstance := none })
      | initiatorClientId :: _ =>
          let leaving :=
            (order.visit (.members roomId) room.members.toList).map
              fun entry => (entry.1, entry.2.lifecycleId)
          let committed := room.commitP2p initiatorClientId
          let table := table.setRoom roomId committed
          let table := match room.assignedInstance with
            | none => table
            | some instanceId =>
                let connectionId := table.connection? instanceId
                let table := table.modifyWorker instanceId fun worker =>
                  { worker with
                    assignedRooms := worker.assignedRooms.erase roomId
                    assignedClients :=
                      worker.assignedClients - leaving.length }
                match connectionId with
                | none => table
                | some connectionId =>
                    leaveAll instanceId connectionId roomId
                      room.assignmentEpoch leaving table
          (.ok (), table.pushAction
            (.downgraded roomId committed.signalEpoch initiatorClientId
              clients))

/-- Put a room into the failed mode and announce it. -/
def failRoom
    (table : RoomTable)
    (order : VisitOrder)
    (roomId : RoomId)
    (reason : String) : RoomTable :=
  match table.rooms[roomId]? with
  | none => table
  | some room =>
      (table.setRoom roomId { room with mode := .failed }).pushAction
        (.roomFailed roomId (room.clients order roomId) reason)

/-- Queue an immediate leave to the worker that owns the room. The answer is
`false`, and nothing is queued, when the room or the member is gone, a leave is
in flight, or the worker has no connection. -/
def issueSfuLeave
    (table : RoomTable)
    (roomId : RoomId)
    (clientId : ClientId)
    (reason : Sfu.LeaveReason) : Bool × RoomTable :=
  match table.rooms[roomId]? with
  | none => (false, table)
  | some room =>
  if room.mode ≠ .sfu || room.pendingLeave.isSome then (false, table)
  else
  match room.members[clientId]? with
  | none => (false, table)
  | some member =>
  match room.assignedInstance with
  | none => (false, table)
  | some instanceId =>
  match table.connection? instanceId with
  | none => (false, table)
  | some connectionId =>
      let table := table.setRoom roomId
        { room with pendingLeave := some ⟨none, clientId⟩ }
      (true, table.issueCommand instanceId connectionId
        (.leave ⟨roomId, clientId, member.lifecycleId, room.assignmentEpoch,
          reason⟩)
        (.sfuLeave instanceId roomId clientId member.lifecycleId
          room.assignmentEpoch))

end RoomTable
end V2
end Signaling
