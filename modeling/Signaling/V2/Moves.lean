import Signaling.V2.Run

/-!
# What a call can do to the table

Every call of the table is a chain of moves. A move is one branch of the
program with its tests as premises, so that an invariant is proved once for
each move. Worker expiry visits rooms one by one before it drops the worker's
commands; in between, a move carries the worker that is being given up.
-/

namespace Signaling
namespace V2

/-- The name of a move, with the parameters that guards refer to. -/
inductive Move
  | create (roomId : RoomId) (clientId : ClientId)
  | joinDirect (roomId : RoomId) (clientId : ClientId)
  | beginUpgrade
      (authorityRequestId : Nat)
      (roomId : RoomId)
      (clientId : ClientId)
  | beginJoin
      (authorityRequestId : Nat)
      (roomId : RoomId)
      (clientId : ClientId)
  | register (roomId : RoomId) (clientId : ClientId)
  | dropWithLeave (roomId : RoomId) (clientId : ClientId)
  | dropWithGrace (roomId : RoomId) (clientId : ClientId)
  | forwardSignal (roomId : RoomId) (clientId : ClientId)
  | queueMessage
      (roomId : RoomId)
      (clientId : ClientId)
      (message : String)
  | requestLeave
      (authorityRequestId : Nat)
      (roomId : RoomId)
      (clientId : ClientId)
  | removeFailed (roomId : RoomId) (clientId : ClientId)
  | removeDirect (roomId : RoomId) (clientId : ClientId)
  | connectWorker (instanceId : InstanceId)
  | syncRoom (instanceId : InstanceId) (roomId : RoomId)
  | noteEvent (instanceId : InstanceId)
  | reportFailure (instanceId : InstanceId) (roomId : RoomId)
  | disconnectWorker (instanceId : InstanceId)
  | push
  | answer (requestId : Nat)
  | refuseSync (requestId : Nat) (roomId : RoomId)
  | advanceUpgrade (requestId : Nat) (roomId : RoomId)
  | commitUpgrade (requestId : Nat) (roomId : RoomId)
  | abortUpgrade (requestId : Nat) (roomId : RoomId)
  | completeJoin
      (instanceId : InstanceId)
      (requestId : Nat)
      (roomId : RoomId)
      (clientId : ClientId)
  | refuseJoin (requestId : Nat) (roomId : RoomId)
  | completeLeave
      (requestId : Nat)
      (roomId : RoomId)
      (clientId : ClientId)
  | refuseLeave (requestId : Nat) (roomId : RoomId)
  | beginExpiry (instanceId : InstanceId)
  | expireRoom (instanceId : InstanceId) (roomId : RoomId)
  | endExpiry (instanceId : InstanceId)
  | downgrade (roomId : RoomId)
  | clearDeadline (roomId : RoomId)
  | retryLeave (roomId : RoomId) (clientId : ClientId)
  | rearmGrace (roomId : RoomId) (clientId : ClientId)
  | expireMembers (roomId : RoomId)
  | setDwell
  | pollAction

/-- An action that answers nobody and announces no change of mode. -/
def Action.Plain : Action -> Prop
  | .sfu _ | .deliver _ => True
  | _ => False

/-- An action that hands no command to a worker either. -/
def Action.Notice : Action -> Prop
  | .sfu (.command ..) => False
  | .sfu _ | .deliver _ => True
  | _ => False

theorem Action.Notice.plain
    {action : Action}
    (notice : action.Notice) :
    action.Plain := by
  cases action with
  | sfu | deliver => trivial
  | _ => exact notice

/-- The actions with which the answer to a recorded command is followed up
outside a transition: the commands that waited for a synchronization. -/
def RoomTable.Replays
    (table : RoomTable)
    (pending : PendingCommand)
    (actions : List Action) : Prop :=
  actions = [] ∨ ∃ instanceId roomId assignmentEpoch replay connectionId,
    pending = .syncRoom instanceId roomId assignmentEpoch replay ∧
      table.connection? instanceId = some connectionId ∧
      actions = replay.map fun command => .sfu (.command connectionId command)

theorem RoomTable.Replays.plain
    {table : RoomTable}
    {pending : PendingCommand}
    {actions : List Action}
    (replays : table.Replays pending actions) :
    ∀ action ∈ actions, action.Plain := by
  rcases replays with rfl | ⟨_, _, _, _, _, -, -, rfl⟩
  · simp
  · simp [Action.Plain]

/-- A worker has a room on its list. -/
def RoomTable.Lists
    (table : RoomTable)
    (instanceId : InstanceId)
    (roomId : RoomId) : Prop :=
  ∃ worker, table.workers[instanceId]? = some worker ∧
    roomId ∈ worker.assignedRooms

/-- A worker is waiting for its reconnection. -/
def RoomTable.Waits
    (table : RoomTable)
    (instanceId : InstanceId) : Prop :=
  ∃ worker, table.workers[instanceId]? = some worker ∧
    worker.disconnectDeadline.isSome

/-- A room that no worker is responsible for any more. -/
def Room.GivenUp (room : Room) : Prop :=
  room.mode ≠ .upgrading ∧ room.mode ≠ .sfu ∧ room.pendingJoin = none ∧
    room.pendingLeave = none

/-- True when an outstanding command has a transition record to complete. -/
def RoomTable.Awaits
    (table : RoomTable)
    (pending : PendingCommand) : Prop :=
  match pending with
  | .syncRoom .. => False
  | .upgradeJoin _ roomId _ _ _ => ∃ room,
      table.rooms[roomId]? = some room ∧ room.upgrade.isSome
  | .sfuJoin _ roomId _ _ _ => ∃ room,
      table.rooms[roomId]? = some room ∧ room.pendingJoin.isSome
  | .sfuLeave _ roomId _ _ _ => ∃ room,
      table.rooms[roomId]? = some room ∧ room.pendingLeave.isSome
  | .signal => False
  | .cleanup => False

open RoomTable in
/-- `Moved phase table move phase' table'` holds when the move leads from
`table` to `table'`. The phase names the worker that is being given up. -/
inductive Moved :
    Option InstanceId -> RoomTable -> Move ->
    Option InstanceId -> RoomTable -> Prop
  | create
      {table : RoomTable} {roomId : RoomId}
      (clientId : ClientId) (now : Instant) (token : String)
      (absent : table.rooms[roomId]? = none) :
      Moved none table (.create roomId clientId) none
        ((table.nextLifecycle roomId clientId).2.setRoom roomId
          (Room.create clientId (newMember now table.reconnectGrace token true
            (table.nextLifecycle roomId clientId).1)))
  | joinDirect
      {table : RoomTable} {roomId : RoomId} {room : Room}
      {clientId : ClientId}
      (now : Instant) (token : String)
      (found : table.rooms[roomId]? = some room)
      (fresh : room.members.contains clientId = false)
      (direct : room.mode = .p2p)
      (space : room.members.size < maxP2pMembers) :
      Moved none table (.joinDirect roomId clientId) none
        ((table.nextLifecycle roomId clientId).2.setRoom roomId
          (room.insertMember clientId
            (newMember now table.reconnectGrace token false
              (table.nextLifecycle roomId clientId).1)))
  | beginUpgrade
      {table : RoomTable} {roomId : RoomId} {room : Room}
      {clientId : ClientId} {instanceId : InstanceId}
      (authorityRequestId : Nat) (now : Instant) (token : String)
      (found : table.rooms[roomId]? = some room)
      (fresh : room.members.contains clientId = false)
      (direct : room.mode = .p2p)
      (full : ¬room.members.size < maxP2pMembers)
      (selected : table.selectWorker 3 = some instanceId) :
      Moved none table (.beginUpgrade authorityRequestId roomId clientId) none
        (table.beginUpgrade authorityRequestId now roomId room clientId token
          instanceId).2
  | beginJoin
      {table : RoomTable} {roomId : RoomId} {room : Room}
      {clientId : ClientId} {instanceId : InstanceId}
      {connectionId : Sfu.ConnectionId}
      (authorityRequestId : Nat) (now : Instant) (token : String)
      (found : table.rooms[roomId]? = some room)
      (fresh : room.members.contains clientId = false)
      (forwarded : room.mode = .sfu)
      (noJoin : room.pendingJoin = none)
      (noLeave : room.pendingLeave = none)
      (assigned : room.assignedInstance = some instanceId)
      (connected : table.connection? instanceId = some connectionId) :
      Moved none table (.beginJoin authorityRequestId roomId clientId) none
        (((table.nextLifecycle roomId clientId).2.setRoom roomId
          { room.insertMember clientId
              (newMember now table.reconnectGrace token false
                (table.nextLifecycle roomId clientId).1) with
            pendingJoin := some ⟨authorityRequestId, clientId⟩
            downgradeDeadline := none }).issueCommand instanceId connectionId
          (.join ⟨roomId, clientId, (table.nextLifecycle roomId clientId).1,
            room.assignmentEpoch⟩)
          (.sfuJoin instanceId roomId clientId
            (table.nextLifecycle roomId clientId).1 room.assignmentEpoch))
  | register
      {table : RoomTable} {roomId : RoomId} {room : Room}
      {clientId : ClientId} {member : Member}
      (found : table.rooms[roomId]? = some room)
      (settled : room.mode ≠ .upgrading)
      (present : room.members[clientId]? = some member)
      (unregistered : member.registered = false) :
      Moved none table (.register roomId clientId) none
        (table.setRoom roomId (room.registerMember clientId member))
  | dropWithLeave
      {table : RoomTable} {roomId : RoomId} {room : Room}
      {clientId : ClientId} {member : Member} {instanceId : InstanceId}
      {connectionId : Sfu.ConnectionId}
      (found : table.rooms[roomId]? = some room)
      (present : room.members[clientId]? = some member)
      (registered : member.registered = true)
      (forwarded : room.mode = .sfu)
      (noLeave : room.pendingLeave = none)
      (assigned : room.assignedInstance = some instanceId)
      (connected : table.connection? instanceId = some connectionId) :
      Moved none table (.dropWithLeave roomId clientId) none
        ((table.setRoom roomId
          { room.insertMember clientId { member with registered := false } with
            pendingLeave := some ⟨none, clientId⟩ }).issueCommand
          instanceId connectionId
          (.leave ⟨roomId, clientId, member.lifecycleId, room.assignmentEpoch,
            .disconnected⟩)
          (.sfuLeave instanceId roomId clientId member.lifecycleId
            room.assignmentEpoch))
  | dropWithGrace
      {table : RoomTable} {roomId : RoomId} {room : Room}
      {clientId : ClientId} {member : Member}
      (now : Instant)
      (found : table.rooms[roomId]? = some room)
      (present : room.members[clientId]? = some member)
      (registered : member.registered = true) :
      Moved none table (.dropWithGrace roomId clientId) none
        (table.setRoom roomId (room.insertMember clientId
          { member with
            registered := false
            reconnectDeadline := some (now + table.reconnectGrace) }))
  | forwardSignal
      {table : RoomTable} {roomId : RoomId} {room : Room}
      {clientId : ClientId} {member : Member} {instanceId : InstanceId}
      {connectionId : Sfu.ConnectionId}
      (message : String)
      (found : table.rooms[roomId]? = some room)
      (present : room.members[clientId]? = some member)
      (forwarded : room.mode = .sfu)
      (assigned : room.assignedInstance = some instanceId)
      (connected : table.connection? instanceId = some connectionId) :
      Moved none table (.forwardSignal roomId clientId) none
        (table.issueCommand instanceId connectionId
          (.signal ⟨roomId, clientId, member.lifecycleId,
            room.assignmentEpoch, message, none⟩) .signal)
  | queueMessage
      {table : RoomTable} {roomId : RoomId} {room : Room}
      {clientId : ClientId} {member queued : Member}
      {message : String}
      (found : table.rooms[roomId]? = some room)
      (present : room.members[clientId]? = some member)
      (settled : room.mode ≠ .upgrading)
      (direct : room.mode ≠ .sfu)
      (accepted : pushQueued member message = .ok queued) :
      Moved none table (.queueMessage roomId clientId message) none
        (table.setRoom roomId (room.insertMember clientId queued))
  | requestLeave
      {table : RoomTable} {roomId : RoomId} {room : Room}
      {clientId : ClientId} {member : Member} {instanceId : InstanceId}
      {connectionId : Sfu.ConnectionId}
      (authorityRequestId : Nat)
      (found : table.rooms[roomId]? = some room)
      (present : room.members[clientId]? = some member)
      (forwarded : room.mode = .sfu)
      (noJoin : room.pendingJoin = none)
      (noLeave : room.pendingLeave = none)
      (assigned : room.assignedInstance = some instanceId)
      (connected : table.connection? instanceId = some connectionId) :
      Moved none table (.requestLeave authorityRequestId roomId clientId) none
        ((table.setRoom roomId
          { room with
            pendingLeave := some ⟨some authorityRequestId, clientId⟩
          }).issueCommand instanceId connectionId
          (.leave ⟨roomId, clientId, member.lifecycleId, room.assignmentEpoch,
            .user⟩)
          (.sfuLeave instanceId roomId clientId member.lifecycleId
            room.assignmentEpoch))
  | removeFailed
      {table : RoomTable} {roomId : RoomId} {room : Room}
      {clientId : ClientId} {member : Member}
      (found : table.rooms[roomId]? = some room)
      (present : room.members[clientId]? = some member)
      (noJoin : room.pendingJoin = none)
      (noLeave : room.pendingLeave = none)
      (failed : room.mode = .failed) :
      Moved none table (.removeFailed roomId clientId) none
        (table.setOrDropRoom roomId (room.eraseMember clientId))
  | removeDirect
      {table : RoomTable} {roomId : RoomId} {room : Room}
      {clientId : ClientId} {member : Member}
      (found : table.rooms[roomId]? = some room)
      (present : room.members[clientId]? = some member)
      (noJoin : room.pendingJoin = none)
      (noLeave : room.pendingLeave = none)
      (direct : room.mode = .p2p) :
      Moved none table (.removeDirect roomId clientId) none
        (table.setOrDropRoom roomId
          (promoteSurvivor roomId (room.eraseMember clientId)).2)
  | connectWorker
      {table : RoomTable} {instanceId : InstanceId}
      (connectionId : Sfu.ConnectionId) (capacity : Sfu.Capacity)
      (actions : List Action)
      (notices : ∀ action ∈ actions, action.Notice) :
      Moved none table (.connectWorker instanceId) none
        (((table.connectWorker connectionId instanceId capacity).pushActions
            actions).retireAll (table.syncsOf instanceId))
  | syncRoom
      {table : RoomTable} {roomId : RoomId} {room : Room}
      {instanceId : InstanceId} {connectionId : Sfu.ConnectionId}
      (order : VisitOrder)
      (found : table.rooms[roomId]? = some room)
      (listed : table.Lists instanceId roomId)
      (connected : table.connection? instanceId = some connectionId) :
      Moved none table (.syncRoom instanceId roomId) none
        (syncAssignedRoom order instanceId connectionId table roomId)
  | noteEvent
      {table : RoomTable} {instanceId : InstanceId}
      (update : Worker -> Worker) (actions : List Action)
      (keepsConnection : ∀ worker,
        (update worker).connectionId = worker.connectionId)
      (keepsDeadline : ∀ worker,
        (update worker).disconnectDeadline = worker.disconnectDeadline)
      (keepsRooms : ∀ worker,
        (update worker).assignedRooms = worker.assignedRooms)
      (keepsClients : ∀ worker,
        (update worker).assignedClients = worker.assignedClients)
      (notices : ∀ action ∈ actions, action.Notice) :
      Moved none table (.noteEvent instanceId) none
        ((table.modifyWorker instanceId update).pushActions actions)
  | reportFailure
      {table : RoomTable} {instanceId : InstanceId} {worker : Worker}
      {roomId : RoomId}
      (requestId : Nat) (order : VisitOrder) (reason : String) (ack : Action)
      (known : table.workers[instanceId]? = some worker)
      (notice : ack.Notice) :
      Moved none table (.reportFailure instanceId roomId) none
        (((table.modifyWorker instanceId
          (Worker.remember · requestId)).failRoom order roomId reason).pushAction
            ack)
  | disconnectWorker
      {table : RoomTable} {instanceId : InstanceId}
      (now : Instant) :
      Moved none table (.disconnectWorker instanceId) none
        (table.modifyWorker instanceId fun worker =>
          { worker with
            connectionId := none
            health := none
            disconnectDeadline := some (now + table.reconnectGrace) })
  | push
      {table : RoomTable}
      (action : Action)
      (notice : action.Notice) :
      Moved none table .push none (table.pushAction action)
  | answer
      {table : RoomTable} {requestId : Nat} {pending : PendingCommand}
      (actions : List Action)
      (outstanding : table.pendingCommands[requestId]? = some pending)
      (idle : ¬table.Awaits pending)
      (replays : table.Replays pending actions) :
      Moved none table (.answer requestId) none
        ((table.retireCommand requestId).pushActions actions)
  | refuseSync
      {table : RoomTable} {requestId : Nat} {instanceId : InstanceId}
      {roomId : RoomId} {assignmentEpoch : Nat} {replay : List Sfu.Command}
      (order : VisitOrder)
      (outstanding : table.pendingCommands[requestId]? =
        some (.syncRoom instanceId roomId assignmentEpoch replay)) :
      Moved none table (.refuseSync requestId roomId) none
        ((table.retireCommand requestId).failRoom order roomId
          "WORKER_UNAVAILABLE")
  | advanceUpgrade
      {table : RoomTable} {requestId : Nat} {instanceId : InstanceId}
      {roomId : RoomId} {clientId : ClientId}
      {lifecycleId assignmentEpoch : Nat} {room : Room} {upgrade : Upgrade}
      {connectionId : Sfu.ConnectionId}
      (outstanding : table.pendingCommands[requestId]? =
        some (.upgradeJoin instanceId roomId clientId lifecycleId
          assignmentEpoch))
      (connected : table.connection? instanceId = some connectionId)
      (found : table.rooms[roomId]? = some room)
      (upgrading : room.upgrade = some upgrade)
      (unfinished :
        upgrade.nextClient + 1 ≠ upgrade.orderedClients.length) :
      Moved none table (.advanceUpgrade requestId roomId) none
        (((table.retireCommand requestId).setRoom roomId
          (room.advanceUpgrade upgrade clientId)).issueNextUpgradeJoin roomId).2
  | commitUpgrade
      {table : RoomTable} {requestId : Nat} {instanceId : InstanceId}
      {roomId : RoomId} {clientId : ClientId}
      {lifecycleId assignmentEpoch : Nat} {room : Room} {upgrade : Upgrade}
      {connectionId : Sfu.ConnectionId}
      (order : VisitOrder)
      (outstanding : table.pendingCommands[requestId]? =
        some (.upgradeJoin instanceId roomId clientId lifecycleId
          assignmentEpoch))
      (connected : table.connection? instanceId = some connectionId)
      (found : table.rooms[roomId]? = some room)
      (upgrading : room.upgrade = some upgrade)
      (finished :
        upgrade.nextClient + 1 = upgrade.orderedClients.length) :
      Moved none table (.commitUpgrade requestId roomId) none
        (((table.retireCommand requestId).setRoom roomId
          (room.advanceUpgrade upgrade clientId)).commitUpgrade order roomId).2
  | abortUpgrade
      {table : RoomTable} {requestId : Nat} {instanceId : InstanceId}
      {roomId : RoomId} {clientId : ClientId}
      {lifecycleId assignmentEpoch : Nat} {room : Room} {upgrade : Upgrade}
      (reason : String)
      (outstanding : table.pendingCommands[requestId]? =
        some (.upgradeJoin instanceId roomId clientId lifecycleId
          assignmentEpoch))
      (found : table.rooms[roomId]? = some room)
      (upgrading : room.upgrade = some upgrade) :
      Moved none table (.abortUpgrade requestId roomId) none
        ((table.retireCommand requestId).abortUpgrade roomId reason).2
  | completeJoin
      {table : RoomTable} {requestId : Nat} {instanceId : InstanceId}
      {roomId : RoomId} {clientId : ClientId}
      {lifecycleId assignmentEpoch : Nat} {room : Room}
      {pendingJoin : PendingJoin}
      (outstanding : table.pendingCommands[requestId]? =
        some (.sfuJoin instanceId roomId clientId lifecycleId
          assignmentEpoch))
      (found : table.rooms[roomId]? = some room)
      (joining : room.pendingJoin = some pendingJoin) :
      Moved none table (.completeJoin instanceId requestId roomId clientId) none
        ((table.retireCommand requestId).completeJoin instanceId roomId room
          clientId pendingJoin).2
  | refuseJoin
      {table : RoomTable} {requestId : Nat} {instanceId : InstanceId}
      {roomId : RoomId} {clientId : ClientId}
      {lifecycleId assignmentEpoch : Nat} {room : Room}
      {pendingJoin : PendingJoin}
      (reason : String)
      (outstanding : table.pendingCommands[requestId]? =
        some (.sfuJoin instanceId roomId clientId lifecycleId
          assignmentEpoch))
      (found : table.rooms[roomId]? = some room)
      (joining : room.pendingJoin = some pendingJoin) :
      Moved none table (.refuseJoin requestId roomId) none
        (((table.retireCommand requestId).setRoom roomId
          { room.eraseMember pendingJoin.clientId with
            pendingJoin := none }).pushAction
          (.admissionCompleted pendingJoin.authorityRequestId (.error reason)))
  | completeLeave
      {table : RoomTable} {requestId : Nat} {instanceId : InstanceId}
      {roomId : RoomId} {clientId : ClientId}
      {lifecycleId assignmentEpoch : Nat} {room : Room}
      {pendingLeave : PendingLeave}
      (now : Instant)
      (outstanding : table.pendingCommands[requestId]? =
        some (.sfuLeave instanceId roomId clientId lifecycleId
          assignmentEpoch))
      (found : table.rooms[roomId]? = some room)
      (leaving : room.pendingLeave = some pendingLeave) :
      Moved none table (.completeLeave requestId roomId clientId) none
        ((table.retireCommand requestId).completeLeave instanceId roomId room
          clientId pendingLeave now)
  | refuseLeave
      {table : RoomTable} {requestId : Nat} {instanceId : InstanceId}
      {roomId : RoomId} {clientId : ClientId}
      {lifecycleId assignmentEpoch : Nat} {room : Room}
      {pendingLeave : PendingLeave}
      (reason : String)
      (outstanding : table.pendingCommands[requestId]? =
        some (.sfuLeave instanceId roomId clientId lifecycleId
          assignmentEpoch))
      (found : table.rooms[roomId]? = some room)
      (leaving : room.pendingLeave = some pendingLeave) :
      Moved none table (.refuseLeave requestId roomId) none
        (removalAnswer pendingLeave roomId clientId (.error reason)
          ((table.retireCommand requestId).setRoom roomId
            { room with pendingLeave := none }))
  | beginExpiry
      {table : RoomTable} {instanceId : InstanceId}
      (waits : table.Waits instanceId) :
      Moved none table (.beginExpiry instanceId) (some instanceId) table
  | expireUpgrade
      {table : RoomTable} {instanceId : InstanceId} {roomId : RoomId}
      {room : Room}
      (waits : table.Waits instanceId)
      (listed : table.Lists instanceId roomId)
      (found : table.rooms[roomId]? = some room)
      (upgrading : room.mode = .upgrading) :
      Moved (some instanceId) table (.expireRoom instanceId roomId)
        (some instanceId) (table.abortUpgrade roomId "WORKER_UNAVAILABLE").2
  | expireRoom
      {table : RoomTable} {instanceId : InstanceId} {roomId : RoomId}
      {room : Room}
      (order : VisitOrder)
      (waits : table.Waits instanceId)
      (listed : table.Lists instanceId roomId)
      (found : table.rooms[roomId]? = some room)
      (settled : room.mode ≠ .upgrading) :
      Moved (some instanceId) table (.expireRoom instanceId roomId)
        (some instanceId) (table.failExpired order roomId room)
  | endExpiry
      {table : RoomTable} {instanceId : InstanceId}
      (waits : table.Waits instanceId)
      (settled : ∀ roomId room, table.Lists instanceId roomId ->
        table.rooms[roomId]? = some room -> room.GivenUp) :
      Moved (some instanceId) table (.endExpiry instanceId) none
        (table.releaseWorker instanceId)
  | downgrade
      {table : RoomTable} {roomId : RoomId}
      (order : VisitOrder)
      (eligible : table.isDowngradeEligible roomId = true) :
      Moved none table (.downgrade roomId) none
        (table.commitDowngrade order roomId).2
  | clearDeadline
      {table : RoomTable} {roomId : RoomId} {room : Room}
      (found : table.rooms[roomId]? = some room)
      (ineligible : table.isDowngradeEligible roomId = false) :
      Moved none table (.clearDeadline roomId) none
        (table.setRoom roomId { room with downgradeDeadline := none })
  | retryLeave
      {table : RoomTable} {roomId : RoomId} {room : Room}
      {clientId : ClientId} {member : Member} {instanceId : InstanceId}
      {connectionId : Sfu.ConnectionId} {deadline : Instant}
      (found : table.rooms[roomId]? = some room)
      (present : room.members[clientId]? = some member)
      (waiting : member.reconnectDeadline = some deadline)
      (forwarded : room.mode = .sfu)
      (noLeave : room.pendingLeave = none)
      (assigned : room.assignedInstance = some instanceId)
      (connected : table.connection? instanceId = some connectionId) :
      Moved none table (.retryLeave roomId clientId) none
        ((table.setRoom roomId
          { room with pendingLeave := some ⟨none, clientId⟩ }).issueCommand
          instanceId connectionId
          (.leave ⟨roomId, clientId, member.lifecycleId, room.assignmentEpoch,
            .disconnected⟩)
          (.sfuLeave instanceId roomId clientId member.lifecycleId
            room.assignmentEpoch))
  | rearmGrace
      {table : RoomTable} {roomId : RoomId} {room : Room}
      {clientId : ClientId} {member : Member} {deadline : Instant}
      (now : Instant)
      (found : table.rooms[roomId]? = some room)
      (present : room.members[clientId]? = some member)
      (waiting : member.reconnectDeadline = some deadline)
      (forwarded : room.mode = .sfu) :
      Moved none table (.rearmGrace roomId clientId) none
        (table.setRoom roomId (room.modifyMember clientId fun member =>
          { member with
            reconnectDeadline := some (now + table.reconnectGrace) }))
  | expireMembers
      {table : RoomTable} {roomId : RoomId} {room : Room}
      (now : Instant)
      (found : table.rooms[roomId]? = some room)
      (direct : room.mode = .p2p) :
      Moved none table (.expireMembers roomId) none
        (table.setOrDropRoom roomId (room.expireMembers roomId now).2)
  | setDwell
      {table : RoomTable}
      (dwell : Duration) :
      Moved none table .setDwell none (table.setDowngradeDwell dwell)
  | pollAction
      {table : RoomTable} :
      Moved none table .pollAction none table.pollAction.2

end V2
end Signaling
