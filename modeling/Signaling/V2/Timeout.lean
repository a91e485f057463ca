import Signaling.V2.Workers

/-!
# The V2 room table: deadlines

The expiry of workers whose stream stayed down, and the sweep over all rooms
that commits due downgrades, retries leaves, and removes P2P members whose
reconnect grace has passed.
-/

namespace Signaling
namespace V2

open Std (ExtTreeSet)

namespace Room

/-- The first member, in visiting order, of an idle SFU room whose reconnect
deadline has passed. -/
def expiredSfuClient
    (room : Room)
    (order : VisitOrder)
    (roomId : RoomId)
    (now : Instant) : Option ClientId :=
  if room.mode = .sfu && room.pendingLeave.isNone then
    (room.clients order roomId).find? fun clientId =>
      room.members[clientId]?.any fun member =>
        isDue member.reconnectDeadline now
  else none

/-- The members whose reconnect deadline has passed. -/
def expiredClients (room : Room) (now : Instant) : List ClientId :=
  room.members.keys.filter fun clientId =>
    room.members[clientId]?.any fun member =>
      isDue member.reconnectDeadline now

/-- The room without the listed members. -/
def eraseMembers
    (room : Room)
    (clients : List ClientId) : Room :=
  clients.foldl eraseMember room

/-- The P2P room after its expired members have been removed. Only an actual
removal can leave a survivor to promote. -/
def expireMembers
    (room : Room)
    (roomId : RoomId)
    (now : Instant) : Option Promotion × Room :=
  let expired := room.expiredClients now
  let room := room.eraseMembers expired
  if expired.isEmpty then (none, room) else promoteSurvivor roomId room

/-- The room once its worker has been given up outside an upgrade. -/
def fail (room : Room) : Room :=
  { room with
    members := match room.pendingJoin with
      | none => room.members
      | some join => room.members.erase join.clientId
    pendingJoin := none
    pendingLeave := none
    mode := .failed }

end Room

namespace RoomTable

/-- Fail a room of an expired worker: its pending join and leave are answered,
and the joining client is dropped. -/
def failExpired
    (table : RoomTable)
    (order : VisitOrder)
    (roomId : RoomId)
    (room : Room) : RoomTable :=
  let joinAnswers : List Action := match room.pendingJoin with
    | none => []
    | some join => [.admissionCompleted join.authorityRequestId
        (.error "WORKER_UNAVAILABLE")]
  let leaveAnswers : List Action :=
    match room.pendingLeave with
    | none => []
    | some leave => match leave.authorityRequestId with
      | none => []
      | some authorityRequestId => [.removalCompleted authorityRequestId roomId
          leave.clientId (.error "WORKER_UNAVAILABLE")]
  let room := room.fail
  (table.setRoom roomId room).pushActions (joinAnswers ++ leaveAnswers ++
    [.roomFailed roomId (room.clients order roomId) "WORKER_UNAVAILABLE"])

/-- Give a room of an expired worker up: roll back an upgrade, fail any other
room. -/
def expireRoom
    (order : VisitOrder)
    (table : RoomTable)
    (roomId : RoomId) : RoomTable :=
  match table.rooms[roomId]? with
  | none => table
  | some room =>
  if room.mode = .upgrading then
    (table.abortUpgrade roomId "WORKER_UNAVAILABLE").2
  else table.failExpired order roomId room

/-- The command ids addressed to a worker. -/
def commandsOf
    (table : RoomTable)
    (instanceId : InstanceId) : List Nat :=
  (table.commandWorkers.toList.filter fun entry =>
    entry.2 = instanceId).map Prod.fst

/-- Drop every command addressed to an expired worker and clear its record. -/
def releaseWorker
    (table : RoomTable)
    (instanceId : InstanceId) : RoomTable :=
  (table.retireAll (table.commandsOf instanceId)).modifyWorker instanceId
    fun worker =>
      { worker with
        disconnectDeadline := none
        assignedRooms := ∅
        assignedClients := 0 }

/-- Give up a worker whose reconnect grace has passed, with all its rooms. -/
def expireWorker
    (order : VisitOrder)
    (table : RoomTable)
    (instanceId : InstanceId) : RoomTable :=
  let assignedRooms := match table.workers[instanceId]? with
    | none => []
    | some worker => order.visit (.assignedRooms instanceId)
        worker.assignedRooms.toList
  (assignedRooms.foldl (expireRoom order) table).releaseWorker instanceId

/-- The workers whose reconnect grace has passed, in visiting order. -/
def expiredWorkers
    (table : RoomTable)
    (order : VisitOrder)
    (now : Instant) : List InstanceId :=
  (order.visit .workers table.workers.keys).filter fun instanceId =>
    table.workers[instanceId]?.any fun worker =>
      isDue worker.disconnectDeadline now

/-- Visit one room of the sweep: commit a due downgrade, retry a leave, or
remove the expired members of a P2P room and promote its survivor. -/
def sweepRoom
    (order : VisitOrder)
    (now : Instant)
    (state : List Promotion × RoomTable)
    (roomId : RoomId) : List Promotion × RoomTable :=
  let (promotions, table) := state
  match table.rooms[roomId]? with
  | none => (promotions, table)
  | some room =>
  if isDue room.downgradeDeadline now then
    if table.isDowngradeEligible roomId then
      (promotions, (table.commitDowngrade order roomId).2)
    else
      (promotions, table.setRoom roomId
        { room with downgradeDeadline := none })
  else
  match room.expiredSfuClient order roomId now with
  | some clientId =>
      match table.issueSfuLeave roomId clientId .disconnected with
      | (true, table) => (promotions, table)
      | (false, table) => (promotions, table.setRoom roomId
          (room.modifyMember clientId fun member =>
            { member with
              reconnectDeadline := some (now + table.reconnectGrace) }))
  | none =>
  if room.mode ≠ .p2p then (promotions, table)
  else
    let (promotion, room) := room.expireMembers roomId now
    (promotions ++ promotion.toList, table.setOrDropRoom roomId room)

/-- Let every deadline up to `now` take effect. -/
def handleTimeout
    (table : RoomTable)
    (order : VisitOrder)
    (now : Instant) : List Promotion × RoomTable :=
  let table := (table.expiredWorkers order now).foldl (expireWorker order)
    table
  (order.visit .rooms table.rooms.keys).foldl (sweepRoom order now) ([], table)

/-- The earliest deadline on which `handleTimeout` has work. -/
def pollTimeout (table : RoomTable) : Option Instant :=
  let browserTimeouts := (table.rooms.values.filter fun room =>
      room.mode = .p2p || (room.mode = .sfu && room.pendingLeave.isNone)).flatMap
    fun room => room.members.values.filterMap (·.reconnectDeadline)
  let workerTimeouts := table.workers.values.filterMap (·.disconnectDeadline)
  let downgradeTimeouts := table.rooms.values.filterMap (·.downgradeDeadline)
  (browserTimeouts ++ workerTimeouts ++ downgradeTimeouts).min?

/-- Take the next action off the queue. -/
def pollAction (table : RoomTable) : Option Action × RoomTable :=
  match table.actions with
  | [] => (none, table)
  | action :: rest => (some action, { table with actions := rest })

end RoomTable
end V2
end Signaling
