import Signaling.V2.Membership

/-!
# The V2 room table: worker sessions

Registration and reconnection of a worker with the replay behind its room
synchronizations, worker events, and the results of commands.
-/

namespace Signaling
namespace V2

open Std (ExtTreeSet)

namespace Worker

/-- A worker that registers for the first time. -/
def unseen (capacity : Sfu.Capacity) : Worker where
  connectionId := none
  capacity := capacity
  health := none
  assignedRooms := ∅
  assignedClients := 0
  seenEvents := ∅
  seenEventOrder := []
  disconnectDeadline := none

/-- Remember an event id, forgetting the oldest one beyond the capacity. -/
def remember (worker : Worker) (requestId : Nat) : Worker :=
  let seenEvents := worker.seenEvents.insert requestId
  let seenEventOrder := worker.seenEventOrder ++ [requestId]
  if seenEventOrder.length > eventDedupCapacity then
    match seenEventOrder with
    | [] => { worker with
        seenEvents := seenEvents
        seenEventOrder := seenEventOrder }
    | oldest :: rest => { worker with
        seenEvents := seenEvents.erase oldest
        seenEventOrder := rest }
  else
    { worker with
      seenEvents := seenEvents
      seenEventOrder := seenEventOrder }

end Worker

namespace Room

/-- The room after one more client of its upgrade has joined. -/
def advanceUpgrade
    (room : Room)
    (upgrade : Upgrade)
    (clientId : ClientId) : Room :=
  { room with
    upgrade := some
      { upgrade with
        joinedClients := upgrade.joinedClients ++ [clientId]
        nextClient := upgrade.nextClient + 1 } }

end Room

namespace PendingCommand

/-- True for a room synchronization. -/
def isSync : PendingCommand -> Bool
  | .syncRoom .. => true
  | _ => false

/-- True for a room synchronization of the given worker. -/
def isSyncOf (instanceId : InstanceId) : PendingCommand -> Bool
  | .syncRoom pendingInstance _ _ _ => pendingInstance = instanceId
  | _ => false

end PendingCommand

/-- The error text with which a refused or mismatching result is answered. -/
def resultReason (result : Except Sfu.Error Sfu.CommandOk) : String :=
  match result with
  | .ok _ => "INVALID_COMMAND_RESULT"
  | .error error => error.reason

/-- True when the result confirms the join of the recorded member. -/
def confirmsJoin
    (roomId : RoomId)
    (clientId : ClientId)
    (lifecycleId assignmentEpoch : Nat)
    (result : Except Sfu.Error Sfu.CommandOk) : Bool :=
  match result with
  | .ok (.memberJoined joined) =>
      joined.roomId = roomId
        && joined.clientId = clientId
        && joined.lifecycleId = lifecycleId
        && joined.assignmentEpoch = assignmentEpoch
  | _ => false

/-- True when the result confirms the leave of the recorded member. -/
def confirmsLeave
    (roomId : RoomId)
    (clientId : ClientId)
    (lifecycleId assignmentEpoch : Nat)
    (result : Except Sfu.Error Sfu.CommandOk) : Bool :=
  match result with
  | .ok (.memberLeft left) =>
      left.roomId = roomId
        && left.clientId = clientId
        && left.lifecycleId = lifecycleId
        && left.assignmentEpoch = assignmentEpoch
  | _ => false

/-- True when the result confirms the recorded synchronization. -/
def confirmsSync
    (roomId : RoomId)
    (assignmentEpoch : Nat)
    (result : Except Sfu.Error Sfu.CommandOk) : Bool :=
  match result with
  | .ok (.roomSynced synced) =>
      synced.roomId = roomId && synced.assignmentEpoch = assignmentEpoch
  | _ => false

namespace RoomTable

/-- Append several actions to the queue. -/
def pushActions
    (table : RoomTable)
    (actions : List Action) : RoomTable :=
  actions.foldl pushAction table

/-- Forget every listed command. -/
def retireAll
    (table : RoomTable)
    (requestIds : List Nat) : RoomTable :=
  requestIds.foldl retireCommand table

/-- The outstanding synchronizations of a worker. -/
def syncsOf
    (table : RoomTable)
    (instanceId : InstanceId) : List Nat :=
  (table.pendingCommands.toList.filter
    fun entry => entry.2.isSyncOf instanceId).map Prod.fst

/-- The unacknowledged commands of a worker for one room, apart from room
synchronizations, in visiting order. -/
def replayFor
    (table : RoomTable)
    (order : VisitOrder)
    (instanceId : InstanceId)
    (roomId : RoomId) : List Sfu.Command :=
  ((order.visit (.commandWorkers roomId) table.commandWorkers.toList).filter
    fun entry => entry.2 = instanceId
      && !table.pendingCommands[entry.1]?.any PendingCommand.isSync).filterMap
    fun entry => table.unacknowledgedCommands[entry.1]?.filter
      fun command => commandRoomId command = roomId

/-- Ask a registering worker to synchronize one of its rooms. -/
def syncAssignedRoom
    (order : VisitOrder)
    (instanceId : InstanceId)
    (connectionId : Sfu.ConnectionId)
    (table : RoomTable)
    (roomId : RoomId) : RoomTable :=
  match table.rooms[roomId]? with
  | none => table
  | some room =>
      let members :=
        (order.visit (.members roomId) room.members.toList).map
          fun entry => Sfu.MemberProjection.mk entry.1 entry.2.lifecycleId
      table.issueCommand instanceId connectionId
        (.syncRoom ⟨roomId, room.assignmentEpoch, members⟩)
        (.syncRoom instanceId roomId room.assignmentEpoch
          (table.replayFor order instanceId roomId))

/-- The table after a worker's record has been bound to a new connection. -/
def connectWorker
    (table : RoomTable)
    (connectionId : Sfu.ConnectionId)
    (instanceId : InstanceId)
    (capacity : Sfu.Capacity) : RoomTable :=
  let worker := table.workers[instanceId]?.getD (Worker.unseen capacity)
  { table with
    workers := table.workers.insert instanceId
      { worker with
        connectionId := some connectionId
        capacity := capacity
        health := none
        disconnectDeadline := none } }

/-- Bind a worker session: a known instance resumes with a synchronization of
each assigned room. -/
def registerWorker
    (table : RoomTable)
    (order : VisitOrder)
    (connectionId : Sfu.ConnectionId)
    (instanceId : InstanceId)
    (requestId : Nat)
    (capacity : Sfu.Capacity) : Except String Unit × RoomTable :=
  if instanceId.isEmpty || requestId = 0 || capacity.maxRooms = 0
      || capacity.maxClients = 0 then
    (.ok (), table.pushAction (.sfu (.registrationError connectionId requestId
      { reason := "INVALID_REQUEST", retryable := false })))
  else
    let resumed := table.workers.contains instanceId
    let oldConnection := table.connection? instanceId
    let table := table.connectWorker connectionId instanceId capacity
    let closed := match oldConnection with
      | none => []
      | some old => if old = connectionId then [] else [.sfu (.close old)]
    let table := table.pushActions (closed ++
      [.sfu (.registered connectionId requestId healthIntervalMs resumed)])
    -- A new session supersedes the synchronizations of the old one.
    let table := table.retireAll (table.syncsOf instanceId)
    let assignedRooms := match table.workers[instanceId]? with
      | none => []
      | some worker => worker.assignedRooms.toList
    (.ok (), assignedRooms.foldl
      (syncAssignedRoom order instanceId connectionId) table)

/-- Accept a worker event once and acknowledge it. -/
def handleWorkerEvent
    (table : RoomTable)
    (order : VisitOrder)
    (connectionId : Sfu.ConnectionId)
    (instanceId : InstanceId)
    (event : Sfu.Event) : Except String Unit × RoomTable :=
  match table.workers[instanceId]? with
  | none => (.error "UNKNOWN_SFU", table)
  | some worker =>
  if worker.connectionId ≠ some connectionId || event.requestId = 0 then
    (.error "STALE_SFU_SESSION", table)
  else
  let ack : Action := .sfu (.eventAck connectionId event.requestId)
  if worker.seenEvents.contains event.requestId then
    (.ok (), table.pushAction ack)
  else
    let table := table.modifyWorker instanceId
      (Worker.remember · event.requestId)
    match event.event with
    | .health health =>
        (.ok (), (table.modifyWorker instanceId fun worker =>
          { worker with
            capacity := health.capacity
            health := some health }).pushAction ack)
    | .signal signal =>
        match table.rooms[signal.roomId]? with
        | none => (.error "ROOM_NOT_FOUND", table)
        | some room =>
        match room.members[signal.clientId]? with
        | none => (.error "CLIENT_NOT_FOUND", table)
        | some member =>
        if room.mode ≠ .sfu || room.assignedInstance ≠ some instanceId
            || room.assignmentEpoch ≠ signal.assignmentEpoch
            || member.lifecycleId ≠ signal.lifecycleId then
          (.error "STALE_ASSIGNMENT", table)
        else
          (.ok (), (table.pushAction (.deliver
            ⟨signal.roomId, signal.clientId, signal.messageJson⟩)).pushAction
              ack)
    | .failure error roomId _ _ _ =>
        match roomId with
        | none => (.ok (), table.pushAction ack)
        | some roomId =>
            (.ok (), (table.failRoom order roomId error.reason).pushAction ack)

/-- Emit the replayed commands of a synchronized room. -/
def replayCommands
    (table : RoomTable)
    (connectionId : Sfu.ConnectionId)
    (replay : List Sfu.Command) : RoomTable :=
  table.pushActions (replay.map fun command =>
    .sfu (.command connectionId command))

/-- A valid upgrade join: count the client, then commit the upgrade or ask for
the next join. -/
def acceptUpgradeJoin
    (table : RoomTable)
    (order : VisitOrder)
    (roomId : RoomId)
    (room : Room)
    (upgrade : Upgrade)
    (clientId : ClientId) : Except String Unit × RoomTable :=
  let table := table.setRoom roomId (room.advanceUpgrade upgrade clientId)
  if upgrade.nextClient + 1 = upgrade.orderedClients.length then
    table.commitUpgrade order roomId
  else table.issueNextUpgradeJoin roomId

/-- The result of an upgrade join: advance the barrier or roll it back. -/
def upgradeJoinResult
    (table : RoomTable)
    (order : VisitOrder)
    (expectedInstance instanceId : InstanceId)
    (roomId : RoomId)
    (clientId : ClientId)
    (lifecycleId assignmentEpoch : Nat)
    (result : Except Sfu.Error Sfu.CommandOk) :
    Except String Unit × RoomTable :=
  let valid := confirmsJoin roomId clientId lifecycleId assignmentEpoch result
  if expectedInstance ≠ instanceId || !valid then
    table.abortUpgrade roomId (resultReason result)
  else
  match table.rooms[roomId]? with
  | none => (.error "ROOM_NOT_FOUND", table)
  | some room =>
  match room.upgrade with
  | none => (.error "ROOM_TRANSITION", table)
  | some upgrade =>
      table.acceptUpgradeJoin order roomId room upgrade clientId

/-- A valid join into an SFU room: charge the worker and answer the admission. -/
def completeJoin
    (table : RoomTable)
    (instanceId : InstanceId)
    (roomId : RoomId)
    (room : Room)
    (clientId : ClientId)
    (pendingJoin : PendingJoin) : Except String Unit × RoomTable :=
  let table := (table.setRoom roomId
    { room with pendingJoin := none }).modifyWorker instanceId fun worker =>
      { worker with
        assignedClients := saturatingAdd worker.assignedClients 1 }
  match room.members[clientId]? with
  | none => (.error "CLIENT_NOT_FOUND", table)
  | some member =>
      (.ok (), table.pushAction
        (.admissionCompleted pendingJoin.authorityRequestId (.ok
          { mode := .sfu
            signalEpoch := room.signalEpoch
            admissionToken := member.token
            isInitiator := none })))

/-- The result of a join into an SFU room: answer the admission. -/
def sfuJoinResult
    (table : RoomTable)
    (expectedInstance instanceId : InstanceId)
    (roomId : RoomId)
    (clientId : ClientId)
    (lifecycleId assignmentEpoch : Nat)
    (result : Except Sfu.Error Sfu.CommandOk) :
    Except String Unit × RoomTable :=
  let valid := confirmsJoin roomId clientId lifecycleId assignmentEpoch result
  match table.rooms[roomId]? with
  | none => (.error "ROOM_NOT_FOUND", table)
  | some room =>
  match room.pendingJoin with
  | none => (.error "ROOM_TRANSITION", table)
  | some pendingJoin =>
      if expectedInstance = instanceId && valid then
        table.completeJoin instanceId roomId room clientId pendingJoin
      else
        (.ok (), (table.setRoom roomId
          { room.eraseMember pendingJoin.clientId with
            pendingJoin := none }).pushAction
            (.admissionCompleted pendingJoin.authorityRequestId
              (.error (resultReason result))))

/-- The answer to the authority when a leave that it asked for has ended. -/
def removalAnswer
    (pendingLeave : PendingLeave)
    (roomId : RoomId)
    (clientId : ClientId)
    (result : Except String Unit)
    (table : RoomTable) : RoomTable :=
  match pendingLeave.authorityRequestId with
  | none => table
  | some authorityRequestId => table.pushAction
      (.removalCompleted authorityRequestId roomId clientId result)

/-- A valid leave from an SFU room: drop the member, discharge the worker,
answer the authority, and drop the room or arm its downgrade. -/
def completeLeave
    (table : RoomTable)
    (instanceId : InstanceId)
    (roomId : RoomId)
    (room : Room)
    (clientId : ClientId)
    (pendingLeave : PendingLeave)
    (now : Instant) : RoomTable :=
  let room := { room.eraseMember clientId with pendingLeave := none }
  let table := (table.setRoom roomId room).modifyWorker instanceId
    fun worker =>
      { worker with
        assignedClients := worker.assignedClients - 1
        assignedRooms :=
          if room.members.isEmpty then worker.assignedRooms.erase roomId
          else worker.assignedRooms }
  let table := removalAnswer pendingLeave roomId clientId (.ok ()) table
  if room.members.isEmpty then table.dropRoom roomId
  else table.armDowngrade roomId now

/-- The result of a leave from an SFU room: drop the member and its room when
it was the last one, or keep it when the worker refused. -/
def sfuLeaveResult
    (table : RoomTable)
    (expectedInstance instanceId : InstanceId)
    (roomId : RoomId)
    (clientId : ClientId)
    (lifecycleId assignmentEpoch : Nat)
    (result : Except Sfu.Error Sfu.CommandOk)
    (now : Instant) : Except String Unit × RoomTable :=
  let valid := confirmsLeave roomId clientId lifecycleId assignmentEpoch result
  match table.rooms[roomId]? with
  | none => (.error "ROOM_NOT_FOUND", table)
  | some room =>
  match room.pendingLeave with
  | none => (.error "ROOM_TRANSITION", table)
  | some pendingLeave =>
      if expectedInstance = instanceId && valid then
        (.ok (), table.completeLeave instanceId roomId room clientId
          pendingLeave now)
      else
        (.ok (), removalAnswer pendingLeave roomId clientId
          (.error (resultReason result))
          (table.setRoom roomId { room with pendingLeave := none }))

/-- Accept the result of an outstanding command. -/
def handleCommandResult
    (table : RoomTable)
    (order : VisitOrder)
    (connectionId : Sfu.ConnectionId)
    (instanceId : InstanceId)
    (result : Sfu.CommandResult)
    (now : Instant) : Except String Unit × RoomTable :=
  match table.workers[instanceId]? with
  | none => (.error "UNKNOWN_SFU", table)
  | some worker =>
  if worker.connectionId ≠ some connectionId then
    (.error "STALE_SFU_SESSION", table)
  else
  match table.pendingCommands[result.requestId]? with
  | none => (.ok (), table)
  | some pending =>
      let table := table.retireCommand result.requestId
      match pending with
      | .syncRoom expectedInstance roomId assignmentEpoch replay =>
          let valid := confirmsSync roomId assignmentEpoch result.result
          if expectedInstance ≠ instanceId || !valid then
            (.ok (), table.failRoom order roomId "WORKER_UNAVAILABLE")
          else (.ok (), table.replayCommands connectionId replay)
      | .upgradeJoin expectedInstance roomId clientId lifecycleId
          assignmentEpoch =>
          table.upgradeJoinResult order expectedInstance instanceId roomId
            clientId lifecycleId assignmentEpoch result.result
      | .sfuJoin expectedInstance roomId clientId lifecycleId
          assignmentEpoch =>
          table.sfuJoinResult expectedInstance instanceId roomId clientId
            lifecycleId assignmentEpoch result.result
      | .sfuLeave expectedInstance roomId clientId lifecycleId
          assignmentEpoch =>
          table.sfuLeaveResult expectedInstance instanceId roomId clientId
            lifecycleId assignmentEpoch result.result now
      | .signal => (.ok (), table)
      | .cleanup => (.ok (), table)

/-- A worker's stream has ended: its grace begins, when the stream was the
current one. -/
def disconnectWorker
    (table : RoomTable)
    (connectionId : Sfu.ConnectionId)
    (instanceId : InstanceId)
    (now : Instant) : RoomTable :=
  if table.connection? instanceId = some connectionId then
    table.modifyWorker instanceId fun worker =>
      { worker with
        connectionId := none
        health := none
        disconnectDeadline := some (now + table.reconnectGrace) }
  else table

/-- Accept one input of a worker session. -/
def handleSfuInput
    (table : RoomTable)
    (order : VisitOrder)
    (input : Sfu.Input) : Except String Unit × RoomTable :=
  match input with
  | .register connectionId instanceId requestId capacity =>
      table.registerWorker order connectionId instanceId requestId capacity
  | .commandResult connectionId instanceId result now =>
      table.handleCommandResult order connectionId instanceId result now
  | .event connectionId instanceId event =>
      table.handleWorkerEvent order connectionId instanceId event
  | .disconnected connectionId instanceId now =>
      (.ok (), table.disconnectWorker connectionId instanceId now)

end RoomTable
end V2
end Signaling
