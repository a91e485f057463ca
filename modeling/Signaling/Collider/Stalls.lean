import Signaling.Collider.Deadlines
import Signaling.V2.Refusals

/-!
# Actions that stay behind

Every call of the collider carries the actions of its V2 table out, except a
worker input that fails: it returns before the queue is drained. The queue is
empty after every call unless such a failure comes after a command was queued,
which only the rollback of an upgrade can bring about.
-/

namespace Signaling
namespace V2

open Std (ExtTreeMap)

namespace RoomTable

/-- The rollback of the room's upgrade leaves the client that joined first, and
stops at a later one that is no member any more. -/
def Strands (table : RoomTable) (roomId : RoomId) : Prop :=
  ∃ (room : Room) (upgrade : Upgrade) (instanceId : InstanceId)
    (first gone : ClientId),
    table.rooms[roomId]? = some room ∧ room.upgrade = some upgrade ∧
    room.assignedInstance = some instanceId ∧
    (table.connection? instanceId).isSome ∧
    upgrade.joinedClients.head? = some first ∧
    first ∈ (room.release upgrade.joiningClientId).members ∧
    gone ∈ upgrade.joinedClients ∧
    gone ∉ (room.release upgrade.joiningClientId).members

section Leaves

variable
  {table : RoomTable}
  {roomId : RoomId}
  (instanceId : InstanceId)
  (connectionId : Sfu.ConnectionId)
  (assignmentEpoch : Nat)

/-- The leaves fail exactly when one of the clients is no member. -/
theorem leaveJoined_ok_iff (joined : List ClientId) :
    (leaveJoined instanceId connectionId roomId assignmentEpoch joined
        table).1 = .ok () ↔
      ∀ clientId ∈ joined, (table.member? roomId clientId).isSome := by
  induction joined generalizing table with
  | nil => simp [leaveJoined]
  | cons clientId joined inductionHypothesis =>
      cases present : table.member? roomId clientId with
      | none => simp [leaveJoined, present]
      | some member =>
          simp only [leaveJoined, present, List.forall_mem_cons,
            Option.isSome_some, true_and]
          exact inductionHypothesis

/-- The leaves queue something exactly when the first client is a member. -/
theorem leaveJoined_actions_iff (joined : List ClientId) :
    (leaveJoined instanceId connectionId roomId assignmentEpoch joined
        table).2.actions = table.actions ↔
      ∀ first, joined.head? = some first ->
        table.member? roomId first = none := by
  cases joined with
  | nil => simp [leaveJoined]
  | cons clientId joined =>
      cases present : table.member? roomId clientId with
      | none => simp [leaveJoined, present]
      | some member =>
          obtain ⟨left, same, -⟩ := leaveJoined_eq (table.issueCommand instanceId
            connectionId (.leave ⟨roomId, clientId, member.lifecycleId,
              assignmentEpoch, .roomClosed⟩) .cleanup) roomId instanceId
                connectionId assignmentEpoch joined
          obtain ⟨leaves, queued, -⟩ := leaveAll_actions (table.issueCommand
            instanceId connectionId (.leave ⟨roomId, clientId,
              member.lifecycleId, assignmentEpoch, .roomClosed⟩) .cleanup)
            roomId instanceId connectionId assignmentEpoch left
          simp [leaveJoined, present, same, queued]

end Leaves

/-- A rollback that fails has queued something exactly when it strands. -/
theorem abortUpgrade_strands_iff
    (table : RoomTable)
    (roomId : RoomId)
    (reason : String) :
    (table.abortUpgrade roomId reason).1 ≠ .ok () ∧
        (table.abortUpgrade roomId reason).2.actions ≠ table.actions ↔
      table.Strands roomId := by
  cases found : table.rooms[roomId]? with
  | none => simp [abortUpgrade, Strands, found]
  | some room =>
  cases upgrading : room.upgrade with
  | none => simp [abortUpgrade, Strands, found, upgrading]
  | some upgrade =>
  cases assigned : room.assignedInstance with
  | none =>
      simp [abortUpgrade, Strands, found, upgrading, assigned, Room.rollBack]
  | some instanceId =>
  rw [abortUpgrade_eq table reason found upgrading assigned]
  cases connected : table.connection? instanceId with
  | none => simp [Strands, found, upgrading, assigned, connected]
  | some connectionId =>
      have member (clientId : ClientId) :
          ((table.setRoom roomId (room.release
            upgrade.joiningClientId)).modifyWorker instanceId
              (dischargeRoom roomId 3)).member? roomId clientId =
            (room.release upgrade.joiningClientId).members[clientId]? := by
        simp [member?]
      have succeeds := @leaveJoined_ok_iff ((table.setRoom roomId
        (room.release upgrade.joiningClientId)).modifyWorker instanceId
          (dischargeRoom roomId 3)) roomId instanceId connectionId
            room.assignmentEpoch upgrade.joinedClients
      have queues := @leaveJoined_actions_iff ((table.setRoom roomId
        (room.release upgrade.joiningClientId)).modifyWorker instanceId
          (dischargeRoom roomId 3)) roomId instanceId connectionId
            room.assignmentEpoch upgrade.joinedClients
      simp only [member, ← ExtTreeMap.mem_iff_isSome_getElem?] at succeeds
      simp only [member, modifyWorker_actions, setRoom_actions,
        ← Option.not_isSome_iff_eq_none,
        ← ExtTreeMap.mem_iff_isSome_getElem?] at queues
      have strands : table.Strands roomId ↔
          (¬∀ clientId ∈ upgrade.joinedClients,
            clientId ∈ (room.release upgrade.joiningClientId).members) ∧
          ¬∀ first, upgrade.joinedClients.head? = some first ->
            first ∉ (room.release upgrade.joiningClientId).members := by
        simp only [Strands, found, Option.some.injEq, exists_and_left,
          ↓existsAndEq, upgrading, assigned, connected, Option.isSome_some,
          true_and, not_forall, exists_prop, not_not]
        tauto
      rw [strands, ← succeeds, ← queues]
      dsimp only
      generalize leaveJoined instanceId connectionId roomId
        room.assignmentEpoch upgrade.joinedClients _ = outcome
      obtain ⟨error | done, after⟩ := outcome
      · simp
      · simp

/-- A registration queues nothing. -/
theorem register_quiet
    (table : RoomTable)
    (order : VisitOrder)
    (roomId : RoomId)
    (clientId : ClientId)
    (token : String) :
    (table.register order roomId clientId token).2.actions =
      table.actions := by
  unfold register
  split
  · rfl
  split
  · rfl
  split
  · rfl
  split
  · rfl
  split <;> rfl

/-- An event that is refused queues nothing. -/
theorem handleWorkerEvent_quiet
    {table : RoomTable}
    {order : VisitOrder}
    {connectionId : Sfu.ConnectionId}
    {instanceId : InstanceId}
    {event : Sfu.Event}
    (fails : (table.handleWorkerEvent order connectionId instanceId
      event).1 ≠ .ok ()) :
    (table.handleWorkerEvent order connectionId instanceId event).2.actions =
      table.actions := by
  unfold handleWorkerEvent at fails ⊢
  cases known : table.workers[instanceId]? with
  | none => rfl
  | some worker =>
      simp only [known] at fails ⊢
      split
      · rfl
      · rename_i current
        rw [if_neg current] at fails
        split
        · rename_i seen
          simp [seen] at fails
        · rename_i unseen
          rw [if_neg unseen] at fails
          cases kind : event.event with
          | health =>
              rw [kind] at fails
              exact absurd rfl fails
          | failure error about =>
              rw [kind] at fails
              cases about <;> exact absurd rfl fails
          | signal signal =>
              simp only [kind, modifyWorker_rooms] at fails ⊢
              cases found : table.rooms[signal.roomId]? with
              | none => rfl
              | some room =>
                  simp only [found] at fails ⊢
                  cases present : room.members[signal.clientId]? with
                  | none => rfl
                  | some member =>
                      simp only [present] at fails ⊢
                      split
                      · rfl
                      · rename_i serves
                        rw [if_neg serves] at fails
                        exact absurd rfl fails

/-- The result of a join or of a leave that fails, or of an upgrade join that
is confirmed, queues nothing. -/
theorem completeJoin_quiet
    {table : RoomTable}
    {instanceId : InstanceId}
    {roomId : RoomId}
    {room : Room}
    {clientId : ClientId}
    {pendingJoin : PendingJoin}
    (fails : (table.completeJoin instanceId roomId room clientId
      pendingJoin).1 ≠ .ok ()) :
    (table.completeJoin instanceId roomId room clientId
      pendingJoin).2.actions = table.actions := by
  unfold completeJoin at fails ⊢
  cases present : room.members[clientId]? with
  | none => rfl
  | some member => simp [present] at fails

theorem sfuJoinResult_quiet
    {table : RoomTable}
    {expected instanceId : InstanceId}
    {roomId : RoomId}
    {clientId : ClientId}
    {lifecycleId assignmentEpoch : Nat}
    {result : Except Sfu.Error Sfu.CommandOk}
    (fails : (table.sfuJoinResult expected instanceId roomId clientId
      lifecycleId assignmentEpoch result).1 ≠ .ok ()) :
    (table.sfuJoinResult expected instanceId roomId clientId lifecycleId
      assignmentEpoch result).2.actions = table.actions := by
  unfold sfuJoinResult at fails ⊢
  cases found : table.rooms[roomId]? with
  | none => rfl
  | some room =>
      simp only [found] at fails ⊢
      cases joining : room.pendingJoin with
      | none => rfl
      | some pendingJoin =>
          simp only [joining] at fails ⊢
          split
          · rename_i valid
            rw [if_pos valid] at fails
            exact completeJoin_quiet fails
          · rename_i invalid
            simp [invalid] at fails

theorem sfuLeaveResult_quiet
    {table : RoomTable}
    {expected instanceId : InstanceId}
    {roomId : RoomId}
    {clientId : ClientId}
    {lifecycleId assignmentEpoch : Nat}
    {result : Except Sfu.Error Sfu.CommandOk}
    {now : Instant}
    (fails : (table.sfuLeaveResult expected instanceId roomId clientId
      lifecycleId assignmentEpoch result now).1 ≠ .ok ()) :
    (table.sfuLeaveResult expected instanceId roomId clientId lifecycleId
      assignmentEpoch result now).2.actions = table.actions := by
  unfold sfuLeaveResult at fails ⊢
  cases found : table.rooms[roomId]? with
  | none => rfl
  | some room =>
      simp only [found] at fails ⊢
      cases leaving : room.pendingLeave with
      | none => rfl
      | some pendingLeave =>
          simp only [leaving] at fails ⊢
          split
          · rename_i valid
            simp [valid] at fails
          · rename_i invalid
            simp [invalid] at fails

theorem acceptUpgradeJoin_quiet
    {table : RoomTable}
    {order : VisitOrder}
    {roomId : RoomId}
    {room : Room}
    {upgrade : Upgrade}
    {clientId : ClientId}
    (fails : (table.acceptUpgradeJoin order roomId room upgrade
      clientId).1 ≠ .ok ()) :
    (table.acceptUpgradeJoin order roomId room upgrade clientId).2.actions =
      table.actions := by
  unfold acceptUpgradeJoin at fails ⊢
  split
  · rename_i last
    simp only [if_pos last] at fails
    have here : (table.setRoom roomId (room.advanceUpgrade upgrade
        clientId)).rooms[roomId]? = some (room.advanceUpgrade upgrade
          clientId) := by
      simp
    unfold commitUpgrade at fails ⊢
    simp only [here] at fails ⊢
    simp only [Room.advanceUpgrade] at fails ⊢
    split
    · rfl
    · rename_i joining present
      simp [present] at fails
  · rename_i more
    simp only [if_neg more] at fails
    rcases issueNextUpgradeJoin_cases (table.setRoom roomId
      (room.advanceUpgrade upgrade clientId)) roomId with ⟨error, same⟩ |
      ⟨_, _, _, _, _, _, -, -, -, -, -, -, issued⟩
    · rw [same]
      rfl
    · rw [issued] at fails
      exact absurd rfl fails

/-- The command result that a call delivers, on a session and for a command
that exist. -/
theorem handleSfuInput_answers
    {table : RoomTable}
    {order : VisitOrder}
    {connectionId : Sfu.ConnectionId}
    {instanceId : InstanceId}
    {requestId : Nat}
    {result : Except Sfu.Error Sfu.CommandOk}
    {now : Instant}
    {worker : Worker}
    {pending : PendingCommand}
    (known : table.workers[instanceId]? = some worker)
    (connected : worker.connectionId = some connectionId)
    (outstanding : table.pendingCommands[requestId]? = some pending) :
    Call.Answers ⟨.handleSfuInput (.commandResult connectionId instanceId
      ⟨requestId, result⟩ now), order⟩ table instanceId requestId pending
        result :=
  ⟨connectionId, now, rfl, by simp [connection?, known, connected],
    outstanding⟩

/-- A worker input that fails has queued something exactly when it is an answer
that strands the rollback of an upgrade. -/
theorem handleSfuInput_strands_iff
    (table : RoomTable)
    (order : VisitOrder)
    (input : Sfu.Input) :
    (table.handleSfuInput order input).1 ≠ .ok () ∧
        (table.handleSfuInput order input).2.actions ≠ table.actions ↔
      ∃ instanceId requestId expected roomId clientId lifecycleId
        assignmentEpoch,
        Call.Refuses ⟨.handleSfuInput input, order⟩ table instanceId requestId
          (.upgradeJoin expected roomId clientId lifecycleId
            assignmentEpoch) ∧
        table.Strands roomId := by
  constructor
  · rintro ⟨fails, queued⟩
    cases input with
    | register connectionId instanceId requestId capacity =>
        simp only [handleSfuInput, registerWorker] at fails
        split at fails <;> simp at fails
    | disconnected => simp [handleSfuInput] at fails
    | event connectionId instanceId event =>
        exact absurd (handleWorkerEvent_quiet fails) queued
    | commandResult connectionId instanceId result now =>
        obtain ⟨requestId, result⟩ := result
        simp only [handleSfuInput, handleCommandResult] at fails queued
        cases known : table.workers[instanceId]? with
        | none => simp [known] at queued
        | some worker =>
        simp only [known] at fails queued
        split at queued
        · exact absurd rfl queued
        · rename_i current
          rw [if_neg current] at fails
          have session : worker.connectionId = some connectionId := by
            simpa using current
          cases outstanding : table.pendingCommands[requestId]? with
          | none => simp [outstanding] at queued
          | some pending =>
          simp only [outstanding] at fails queued
          have answers := @handleSfuInput_answers table order connectionId
            instanceId requestId result now worker pending known session
              outstanding
          cases pending with
          | syncRoom expected roomId assignmentEpoch replay =>
              dsimp only at fails
              split at fails <;> exact absurd rfl fails
          | signal | cleanup => exact absurd rfl fails
          | sfuJoin => exact absurd (sfuJoinResult_quiet fails) queued
          | sfuLeave => exact absurd (sfuLeaveResult_quiet fails) queued
          | upgradeJoin expected roomId clientId lifecycleId assignmentEpoch =>
              simp only [upgradeJoinResult] at fails queued
              split at fails
              · rename_i refused
                rw [if_pos refused] at queued
                refine ⟨instanceId, requestId, expected, roomId, clientId,
                  lifecycleId, assignmentEpoch, ⟨result, answers, ?_⟩,
                  (abortUpgrade_strands_iff (table.retireCommand requestId)
                    roomId _).1 ⟨fails, queued⟩⟩
                rintro ⟨rfl, confirms⟩
                simp [confirms] at refused
              · rename_i confirmed
                rw [if_neg confirmed] at queued
                rw [retireCommand_rooms] at fails queued
                cases found : table.rooms[roomId]? with
                | none => simp [found] at queued
                | some room =>
                simp only [found] at fails queued
                cases upgrading : room.upgrade with
                | none => simp [upgrading] at queued
                | some upgrade =>
                simp only [upgrading] at fails queued
                exact absurd (acceptUpgradeJoin_quiet fails) queued
  · rintro ⟨instanceId, requestId, expected, roomId, clientId, lifecycleId,
      assignmentEpoch, ⟨result, ⟨connectionId, now, asked, connected,
        outstanding⟩, refuses⟩, strands⟩
    cases asked
    obtain ⟨worker, known, session⟩ := Option.bind_eq_some_iff.1 connected
    have refused : (decide (expected ≠ instanceId) || !confirmsJoin roomId
        clientId lifecycleId assignmentEpoch result) = true := by
      simpa [PendingCommand.Confirms, imp_iff_not_or] using refuses
    have stepped : table.handleSfuInput order (.commandResult connectionId
        instanceId ⟨requestId, result⟩ now) =
          (table.retireCommand requestId).abortUpgrade roomId
            (resultReason result) := by
      simp only [handleSfuInput, handleCommandResult, known, session,
        outstanding, upgradeJoinResult, ne_eq, not_true_eq_false, if_false]
      rw [if_pos refused]
    rw [stepped]
    exact (abortUpgrade_strands_iff (table.retireCommand requestId) roomId
      (resultReason result)).2 strands

end RoomTable
end V2

namespace Collider

/-- Nothing waits to be carried out. -/
def Drained (collider : Collider) : Prop :=
  collider.v2Rooms.actions = []

namespace Drained

variable {collider after : Collider}

theorem of_same
    (drained : collider.Drained)
    (actions : after.v2Rooms.actions = collider.v2Rooms.actions) :
    after.Drained :=
  actions.trans drained

theorem drainV2Actions (collider : Collider) :
    collider.drainV2Actions.Drained := by
  unfold Drained
  rw [drainV2Actions_v2Rooms]

/-- Writing the V1 rooms out leaves the V2 table to itself. -/
theorem drainRoomWrites_v2Rooms
    (collider : Collider)
    (order : V1.VisitOrder) :
    (collider.drainRoomWrites order).v2Rooms = collider.v2Rooms := by
  unfold Collider.drainRoomWrites
  generalize collider.rooms.writeCount = fuel
  induction fuel generalizing collider with
  | zero => rfl
  | succ fuel inductionHypothesis =>
      rw [drainWrites_succ]
      split
      · rfl
      · next message rooms _ =>
          refine (inductionHypothesis _).trans ?_
          unfold writeOut
          split <;> rfl

theorem registerV1
    (drained : collider.Drained)
    (order : VisitOrder)
    (connectionId : ConnectionId)
    (msg : WsClientMsg)
    (now : Instant) :
    (collider.registerV1 order connectionId msg now).Drained := by
  refine drained.of_same ?_
  unfold Collider.registerV1
  split
  · rfl
  split
  · rfl
  rcases collider.rooms.register order.v1 now msg.roomid msg.clientid with
    ⟨error | done, rooms⟩
  · rfl
  · rw [drainRoomWrites_v2Rooms]

theorem registerV2
    (drained : collider.Drained)
    (order : VisitOrder)
    (connectionId : ConnectionId)
    (msg : WsClientMsg) :
    (collider.registerV2 order connectionId msg).Drained := by
  refine drained.of_same ?_
  unfold Collider.registerV2
  split
  · rfl
  split
  · rfl
  next roomId _ =>
  split
  · rfl
  next clientId _ =>
  split
  · rfl
  have quiet : (collider.v2Rooms.register order.v2 roomId clientId
      msg.token).2.actions = collider.v2Rooms.actions :=
    V2.RoomTable.register_quiet ..
  rcases outcome : collider.v2Rooms.register order.v2 roomId clientId
    msg.token with ⟨error | registration, v2Rooms⟩
  · rw [outcome] at quiet
    exact quiet
  · rw [outcome] at quiet
    simp only
    rw [Bound.pushTexts_eq]
    exact quiet

theorem sendV1
    (drained : collider.Drained)
    (order : VisitOrder)
    (roomid : V1.RoomId)
    (clientid : V1.ClientId)
    (msg : String)
    (now : Instant) :
    (collider.sendV1 order roomid clientid msg now).2.Drained := by
  refine drained.of_same ?_
  unfold Collider.sendV1
  simp only
  split
  · rfl
  · rw [drainRoomWrites_v2Rooms]

theorem sendV2
    (drained : collider.Drained)
    (order : VisitOrder)
    (roomId : V2.RoomId)
    (clientId : V2.ClientId)
    (msg : WsClientMsg) :
    (collider.sendV2 order roomId clientId msg).2.Drained := by
  unfold Collider.sendV2
  split
  · exact drained
  next signalEpoch _ =>
  rcases outcome : collider.v2Rooms.send order.v2 roomId clientId signalEpoch
    msg.msg with ⟨error | result, v2Rooms⟩
  · have same := V2.RoomTable.send_error (congrArg Prod.fst outcome)
    rw [outcome] at same
    simp only at same
    exact drained.of_same (by rw [same])
  · exact drainV2Actions _

theorem disconnect
    (drained : collider.Drained)
    (connectionId : ConnectionId)
    (now : Instant) :
    (collider.disconnect connectionId now).Drained := by
  unfold Collider.disconnect
  split
  · exact drained
  next session _ =>
  cases session with
  | connected => exact drained.of_same rfl
  | registeredV1 roomid clientid =>
      dsimp only
      split <;> exact drained.of_same rfl
  | registeredV2 roomId clientId =>
      dsimp only
      split
      · exact drainV2Actions _
      · exact drained.of_same rfl

theorem handleBrowserText
    (decode : String -> Except String WsClientMsg)
    (drained : collider.Drained)
    (order : VisitOrder)
    (connectionId : ConnectionId)
    (text : String)
    (now : Instant) :
    (collider.handleBrowserText decode order connectionId text
      now).2.Drained := by
  unfold Collider.handleBrowserText
  split
  · exact drained.of_same rfl
  split
  · split
    · exact drained.registerV2 ..
    · split
      · exact drained.registerV1 ..
      · exact drained.of_same rfl
  · split
    · unfold Collider.send
      split
      · exact drained.of_same rfl
      · split
        · exact drained.of_same rfl
        · split
          · exact drained.sendV1 ..
          · exact drained.sendV2 ..
          · exact drained.of_same rfl
    · exact drained.of_same rfl

end Drained

end Collider
end Signaling
