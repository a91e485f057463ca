import Signaling.V2.Causes

/-!
# Outstanding commands

What a recorded command stands for, and the three records that an outstanding
command has: what it completes, the worker it went to, and its text.
-/

namespace Signaling
namespace V2

open Std (ExtTreeMap ExtTreeSet)
open RoomTable

/-- The three kinds of membership transition that a worker completes. -/
inductive TransitionKind
  | upgrade
  | join
  | leave
  deriving DecidableEq

namespace PendingCommand

/-- The worker that a recorded command names. -/
def instance? : PendingCommand -> Option InstanceId
  | .syncRoom instanceId .. => some instanceId
  | .upgradeJoin instanceId .. => some instanceId
  | .sfuJoin instanceId .. => some instanceId
  | .sfuLeave instanceId .. => some instanceId
  | .signal => none
  | .cleanup => none

/-- The transition that a recorded command completes. -/
def transition? : PendingCommand -> Option (TransitionKind × RoomId)
  | .upgradeJoin _ roomId .. => some (.upgrade, roomId)
  | .sfuJoin _ roomId .. => some (.join, roomId)
  | .sfuLeave _ roomId .. => some (.leave, roomId)
  | _ => none

end PendingCommand

/-- The room is in the transition that the recorded command completes, with the
recorded worker, client, lifecycle and epoch. -/
def Room.Backs (room : Room) : PendingCommand -> Prop
  | .upgradeJoin instanceId _ clientId lifecycleId assignmentEpoch =>
      ∃ upgrade, room.upgrade = some upgrade ∧
        upgrade.orderedClients[upgrade.nextClient]? = some clientId ∧
        room.assignedInstance = some instanceId ∧
        room.assignmentEpoch = assignmentEpoch ∧
        ∀ member, room.members[clientId]? = some member ->
          member.lifecycleId = lifecycleId
  | .sfuJoin instanceId _ clientId lifecycleId assignmentEpoch =>
      ∃ pendingJoin, room.pendingJoin = some pendingJoin ∧
        pendingJoin.clientId = clientId ∧
        room.assignedInstance = some instanceId ∧
        room.assignmentEpoch = assignmentEpoch ∧
        ∀ member, room.members[clientId]? = some member ->
          member.lifecycleId = lifecycleId
  | .sfuLeave instanceId _ clientId lifecycleId assignmentEpoch =>
      ∃ pendingLeave, room.pendingLeave = some pendingLeave ∧
        pendingLeave.clientId = clientId ∧
        room.assignedInstance = some instanceId ∧
        room.assignmentEpoch = assignmentEpoch ∧
        ∀ member, room.members[clientId]? = some member ->
          member.lifecycleId = lifecycleId
  | _ => True

namespace RoomTable

/-- The three records of an outstanding command exist together and name one
worker, and the command is numbered below the counter unless the counter has
reached its end. -/
structure CommandsMatch (table : RoomTable) : Prop where
  workers : ∀ requestId : Nat,
    table.commandWorkers[requestId]?.isSome =
      table.pendingCommands[requestId]?.isSome
  commands : ∀ requestId : Nat,
    table.unacknowledgedCommands[requestId]?.isSome =
      table.pendingCommands[requestId]?.isSome
  named : ∀ (requestId : Nat) (pending : PendingCommand)
    (instanceId recorded : InstanceId),
    table.pendingCommands[requestId]? = some pending ->
    table.commandWorkers[requestId]? = some recorded ->
    pending.instance? = some instanceId -> instanceId = recorded
  numbered : ∀ requestId : Nat, table.pendingCommands[requestId]?.isSome ->
    requestId < table.nextSfuRequestId ∨ requestId = u64Max

namespace CommandsMatch

variable {table : RoomTable}

theorem of_same
    {after : RoomTable}
    (records : table.CommandsMatch)
    (same : ∀ requestId, SameCommand table after requestId)
    (next : after.nextSfuRequestId = table.nextSfuRequestId) :
    after.CommandsMatch where
  workers requestId := by
    rw [(same requestId).1, (same requestId).2.1]
    exact records.workers requestId
  commands requestId := by
    rw [(same requestId).1, (same requestId).2.2]
    exact records.commands requestId
  named requestId pending instanceId recorded outstanding addressed := by
    rw [(same requestId).1] at outstanding
    rw [(same requestId).2.1] at addressed
    exact records.named requestId pending instanceId recorded outstanding
      addressed
  numbered requestId := by
    rw [(same requestId).1, next]
    exact records.numbered requestId

theorem issueCommand
    (records : table.CommandsMatch)
    (bounded : table.nextSfuRequestId ≤ u64Max)
    (instanceId : InstanceId)
    (connectionId : Sfu.ConnectionId)
    (command : Sfu.CommandKind)
    (pending : PendingCommand)
    (names : ∀ named, pending.instance? = some named -> named = instanceId) :
    (table.issueCommand instanceId connectionId command
      pending).CommandsMatch := by
  have grown := table.issueCommand_next_le instanceId connectionId command
    pending bounded
  obtain ⟨workers, commands, named, numbered⟩ := records
  constructor <;> simp only [issueCommand_pendingCommands,
    issueCommand_commandWorkers, issueCommand_unacknowledgedCommands]
  case numbered =>
    intro requestId outstanding
    have older := numbered requestId
    simp only [issueCommand_nextSfuRequestId, saturatingAdd] at grown ⊢
    grind
  all_goals grind

theorem retireCommand
    (records : table.CommandsMatch)
    (requestId : Nat) :
    (table.retireCommand requestId).CommandsMatch := by
  obtain ⟨workers, commands, named, numbered⟩ := records
  constructor <;> simp only [retireCommand_pendingCommands,
    retireCommand_nextSfuRequestId,
    retireCommand_commandWorkers, retireCommand_unacknowledgedCommands]
  all_goals grind

theorem retireAll
    (records : table.CommandsMatch)
    (requestIds : List Nat) :
    (table.retireAll requestIds).CommandsMatch := by
  induction requestIds generalizing table with
  | nil => exact records
  | cons requestId requestIds inductionHypothesis =>
      exact inductionHypothesis (records.retireCommand requestId)

theorem pushActions
    (records : table.CommandsMatch)
    (actions : List Action) :
    (table.pushActions actions).CommandsMatch :=
  records.of_same (fun _ => by simp [SameCommand]) (by simp)

theorem released
    {after : RoomTable}
    {roomId : RoomId}
    {instanceId : InstanceId}
    {assignmentEpoch count : Nat}
    {room : Room}
    {leavers : List ClientId}
    {answers : List Action}
    (records : table.CommandsMatch)
    (bounded : table.nextSfuRequestId ≤ u64Max)
    (release : table.Released roomId instanceId assignmentEpoch count room
      leavers answers after) :
    after.CommandsMatch where
  workers requestId := by
    rcases release.command requestId with same | cleanup
    · rw [same.1, same.2.1]
      exact records.workers requestId
    · rw [cleanup.1, cleanup.2.1]
      rfl
  commands requestId := by
    rcases release.command requestId with same | cleanup
    · rw [same.1, same.2.2]
      exact records.commands requestId
    · rw [cleanup.1, cleanup.2.2]
      rfl
  named requestId pending named recorded outstanding addressed := by
    rcases release.command requestId with same | cleanup
    · rw [same.1] at outstanding
      rw [same.2.1] at addressed
      exact records.named requestId pending named recorded outstanding
        addressed
    · rw [cleanup.1] at outstanding
      cases outstanding
      exact nofun
  numbered requestId outstanding := by
    rcases release.numbered bounded requestId with same | numbered
    · rw [same.1] at outstanding
      have older := records.numbered requestId outstanding
      have grown := (release.older bounded).1
      omega
    · exact numbered

theorem failRoom
    (records : table.CommandsMatch)
    (order : VisitOrder)
    (roomId : RoomId)
    (reason : String) :
    (table.failRoom order roomId reason).CommandsMatch := by
  unfold RoomTable.failRoom
  split
  · exact records
  · exact records.of_same (fun _ => ⟨rfl, rfl, rfl⟩) rfl

theorem issueNextUpgradeJoin
    (records : table.CommandsMatch)
    (bounded : table.nextSfuRequestId ≤ u64Max)
    (roomId : RoomId) :
    (table.issueNextUpgradeJoin roomId).2.CommandsMatch := by
  rcases table.issueNextUpgradeJoin_cases roomId with ⟨error, same⟩ |
    ⟨room, upgrade, clientId, member, instanceId, connectionId, -, -, -, -, -,
      -, issued⟩
  · rw [same]
    exact records
  · rw [issued]
    exact records.issueCommand bounded _ _ _ _
      (by simp [PendingCommand.instance?])

theorem abortUpgrade
    (records : table.CommandsMatch)
    (wellFormed : table.WellFormed)
    (roomId : RoomId)
    (reason : String) :
    (table.abortUpgrade roomId reason).2.CommandsMatch := by
  cases found : table.rooms[roomId]? with
  | none => simpa [RoomTable.abortUpgrade, found] using records
  | some room =>
      cases upgrading : room.upgrade with
      | none => simpa [RoomTable.abortUpgrade, found, upgrading] using records
      | some upgrade =>
          have shape := wellFormed.rooms roomId room found
          obtain ⟨instanceId, assigned⟩ := Option.isSome_iff_exists.1
            (shape.upgrade upgrade upgrading).2.2.1
          obtain ⟨leavers, answers, release, -⟩ :=
            abortUpgrade_released table reason found upgrading assigned
          exact records.released wellFormed.counter release

theorem setOrDropRoom
    (records : table.CommandsMatch)
    (roomId : RoomId)
    (room : Room) :
    (table.setOrDropRoom roomId room).CommandsMatch := by
  unfold RoomTable.setOrDropRoom
  split <;> exact records.of_same (fun _ => ⟨rfl, rfl, rfl⟩) rfl

/-- Every move keeps the records of a command together. -/
theorem moved
    {phase phase' : Option InstanceId}
    {table' : RoomTable}
    {move : Move}
    (moved : Moved phase table move phase' table')
    (wellFormed : table.WellFormed)
    (records : table.CommandsMatch) :
    table'.CommandsMatch := by
  have kept {after : RoomTable}
      (same : ∀ requestId, SameCommand table after requestId)
      (next : after.nextSfuRequestId = table.nextSfuRequestId) :
      after.CommandsMatch := records.of_same same next
  have answered {after : RoomTable} (requestId : Nat)
      (same : ∀ otherId,
        SameCommand (table.retireCommand requestId) after otherId)
      (next : after.nextSfuRequestId = table.nextSfuRequestId) :
      after.CommandsMatch := (records.retireCommand requestId).of_same same next
  have bounded := wellFormed.counter
  cases moved with
  | create | joinDirect | register | dropWithGrace | queueMessage
  | disconnectWorker | push | clearDeadline | rearmGrace | setDwell =>
      exact kept (fun _ => ⟨rfl, rfl, rfl⟩) rfl
  | removeFailed | removeDirect | expireMembers =>
      exact records.setOrDropRoom _ _
  | beginUpgrade authorityRequestId now token found fresh direct full selected =>
      obtain ⟨lifecycle, counters, lifecycleId, first, joining, connectionId,
        head, present, connected, begun⟩ := beginUpgrade_eq authorityRequestId
          now token _ fresh full selected
      rw [begun]
      refine RoomTable.CommandsMatch.issueCommand ?_ (by exact bounded) _ _ _ _
        (by simp [PendingCommand.instance?])
      exact kept (fun _ => ⟨rfl, rfl, rfl⟩) rfl
  | beginJoin | dropWithLeave | forwardSignal | requestLeave | retryLeave =>
      refine RoomTable.CommandsMatch.issueCommand ?_ (by exact bounded) _ _ _ _
        (by simp [PendingCommand.instance?])
      exact kept (fun _ => ⟨rfl, rfl, rfl⟩) rfl
  | connectWorker connectionId capacity actions plain =>
      refine RoomTable.CommandsMatch.retireAll ?_ _
      exact kept (fun _ => by simp [SameCommand, RoomTable.connectWorker])
        (by simp [RoomTable.connectWorker])
  | syncRoom order found listed connected =>
      simp only [syncAssignedRoom, found]
      exact records.issueCommand bounded _ _ _ _
        (by simp [PendingCommand.instance?])
  | noteEvent => exact kept (fun _ => by simp [SameCommand]) (by simp)
  | reportFailure requestId order reason ack known =>
      refine RoomTable.CommandsMatch.pushActions ?_ [ack]
      refine RoomTable.CommandsMatch.failRoom ?_ _ _ _
      exact kept (fun _ => ⟨rfl, rfl, rfl⟩) rfl
  | answer actions outstanding idle =>
      exact (records.retireCommand _).pushActions _
  | refuseSync order outstanding =>
      exact (records.retireCommand _).failRoom order _ _
  | advanceUpgrade =>
      refine RoomTable.CommandsMatch.issueNextUpgradeJoin ?_ (by exact bounded) _
      exact answered _ (fun _ => ⟨rfl, rfl, rfl⟩) rfl
  | commitUpgrade order outstanding connected found upgrading finished =>
      rename_i requestId instanceId roomId clientId lifecycleId
        assignmentEpoch room upgrade connectionId
      rw [commitUpgrade_eq order (room.advanceUpgrade upgrade clientId)
        (by simp) rfl]
      split
      · exact answered requestId (fun _ => ⟨rfl, rfl, rfl⟩) rfl
      · exact answered requestId
          (fun _ => by simp [SameCommand]) (by simp)
  | abortUpgrade reason outstanding found upgrading =>
      exact (records.retireCommand _).abortUpgrade
        (wellFormed.retireCommand _) _ reason
  | completeJoin outstanding found joining =>
      rename_i requestId instanceId roomId clientId lifecycleId
        assignmentEpoch room pendingJoin
      rw [completeJoin_eq]
      split <;> exact answered requestId
        (fun _ => ⟨rfl, rfl, rfl⟩) rfl
  | refuseJoin =>
      exact answered _ (fun _ => ⟨rfl, rfl, rfl⟩) rfl
  | completeLeave now outstanding found leaving =>
      rename_i requestId instanceId roomId clientId lifecycleId
        assignmentEpoch room pendingLeave
      obtain ⟨deadline, -, complete⟩ := completeLeave_eq
        (table.retireCommand requestId) instanceId roomId room clientId
          pendingLeave now
      rw [complete]
      refine RoomTable.CommandsMatch.pushActions ?_ _
      split <;> exact answered requestId
        (fun _ => ⟨rfl, rfl, rfl⟩) rfl
  | refuseLeave =>
      rw [removalAnswer_eq]
      refine RoomTable.CommandsMatch.pushActions ?_ _
      exact answered _ (fun _ => ⟨rfl, rfl, rfl⟩) rfl
  | beginExpiry waits => exact records
  | expireUpgrade waits listed found upgrading =>
      exact records.abortUpgrade wellFormed _ _
  | expireRoom order waits listed found settled =>
      exact kept (fun _ => by simp [SameCommand, failExpired])
        (by simp [failExpired])
  | endExpiry waits settled =>
      exact (records.retireAll _).of_same (fun _ => ⟨rfl, rfl, rfl⟩)
        (by simp [releaseWorker])
  | downgrade order eligible =>
      obtain ⟨room, instanceId, initiatorClientId, others, found, forwarded,
        small, noJoin, noLeave, assigned, clients⟩ :=
          wellFormed.eligible eligible
      exact records.released bounded
        (commitDowngrade_released order found assigned clients)
  | pollAction =>
      unfold RoomTable.pollAction
      split
      · exact records
      · exact kept (fun _ => ⟨rfl, rfl, rfl⟩) rfl

end CommandsMatch

end RoomTable

end V2
end Signaling
