import Signaling.V2.Invariants

/-!
# The records of transitions

A recorded join or leave comes from the one move that asked the worker for it.
Every other move keeps such a record or retires it.
-/

namespace Signaling
namespace V2

open Std (ExtTreeMap ExtTreeSet)
open RoomTable

/-- The moves that ask a worker for a transition of the room. -/
def Move.Starts
    (move : Move)
    (kind : TransitionKind)
    (roomId : RoomId) : Prop :=
  match move with
  | .beginUpgrade _ subject _ | .advanceUpgrade _ subject =>
      subject = roomId ∧ kind = .upgrade
  | .beginJoin _ subject _ => subject = roomId ∧ kind = .join
  | .dropWithLeave subject _ | .requestLeave _ subject _
  | .retryLeave subject _ => subject = roomId ∧ kind = .leave
  | _ => False

section Recorded

variable
  {table after : RoomTable}
  {roomId : RoomId}
  {kind : TransitionKind}
  {requestId : Nat}
  {pending : PendingCommand}

theorem recorded_of_retireCommand
    {answered : Nat}
    (outstanding : (table.retireCommand answered).pendingCommands[requestId]? =
      some pending) :
    table.pendingCommands[requestId]? = some pending := by
  rw [retireCommand_pendingCommands, ExtTreeMap.getElem?_erase] at outstanding
  split at outstanding
  · cases outstanding
  · exact outstanding

theorem recorded_of_retireAll
    {requestIds : List Nat}
    (outstanding : (table.retireAll requestIds).pendingCommands[requestId]? =
      some pending) :
    table.pendingCommands[requestId]? = some pending := by
  rw [retireAll_pendingCommands] at outstanding
  split at outstanding
  · cases outstanding
  · exact outstanding

/-- A record after a command has been issued is the command's, or older. -/
theorem recorded_of_issueCommand
    {instanceId : InstanceId}
    {connectionId : Sfu.ConnectionId}
    {command : Sfu.CommandKind}
    {issued : PendingCommand}
    (outstanding : (table.issueCommand instanceId connectionId command
      issued).pendingCommands[requestId]? = some pending) :
    pending = issued ∧ requestId = table.nextSfuRequestId ∨
      table.pendingCommands[requestId]? = some pending := by
  rw [issueCommand_pendingCommands, ExtTreeMap.getElem?_insert] at outstanding
  split at outstanding
  · next same =>
      cases outstanding
      exact Or.inl ⟨rfl, (compare_eq_iff_eq.1 same).symm⟩
  · exact Or.inr outstanding

/-- Taking a room from its worker records cleanups only. -/
theorem RoomTable.Released.recorded
    {subject : RoomId}
    {instanceId : InstanceId}
    {assignmentEpoch count : Nat}
    {released : Room}
    {leavers : List ClientId}
    {answers : List Action}
    (release : table.Released subject instanceId assignmentEpoch count released
      leavers answers after)
    (outstanding : after.pendingCommands[requestId]? = some pending)
    (about : pending.transition? = some (kind, roomId)) :
    table.pendingCommands[requestId]? = some pending := by
  rcases release.command requestId with same | cleanup
  · rw [← same.1]
    exact outstanding
  · rw [cleanup.1] at outstanding
    cases outstanding
    simp [PendingCommand.transition?] at about

theorem recorded_of_failRoom
    {order : VisitOrder}
    {subject : RoomId}
    {reason : String}
    (outstanding : (table.failRoom order subject
      reason).pendingCommands[requestId]? = some pending) :
    table.pendingCommands[requestId]? = some pending := by
  unfold RoomTable.failRoom at outstanding
  split at outstanding <;> exact outstanding

end Recorded

/-- A record of a transition after a move was there before it, unless the move
asks for a transition of that kind. -/
theorem Moved.recorded
    {phase phase' : Option InstanceId}
    {table table' : RoomTable}
    {move : Move}
    {requestId : Nat}
    {pending : PendingCommand}
    {kind : TransitionKind}
    {roomId : RoomId}
    (taken : Moved phase table move phase' table')
    (wellFormed : table.WellFormed)
    (outstanding : table'.pendingCommands[requestId]? = some pending)
    (about : pending.transition? = some (kind, roomId)) :
    table.pendingCommands[requestId]? = some pending ∨
      move.Starts kind roomId := by
  cases taken with
  | create | joinDirect | register | dropWithGrace | queueMessage
  | disconnectWorker | push | beginExpiry | clearDeadline | rearmGrace
  | setDwell => exact Or.inl outstanding
  | noteEvent => exact Or.inl (by simpa using outstanding)
  | removeFailed | removeDirect | expireMembers =>
      refine Or.inl ?_
      unfold RoomTable.setOrDropRoom at outstanding
      split at outstanding <;> exact outstanding
  | beginUpgrade authorityRequestId now token found fresh direct full selected =>
      obtain ⟨lifecycle, counters, lifecycleId, first, joining, connectionId,
        head, present, connected, begun⟩ := beginUpgrade_eq authorityRequestId
          now token _ fresh full selected
      rw [begun] at outstanding
      rcases recorded_of_issueCommand outstanding with ⟨rfl, -⟩ | before
      · simp only [PendingCommand.transition?, Option.some.injEq,
          Prod.mk.injEq] at about
        exact Or.inr ⟨about.2, about.1.symm⟩
      · exact Or.inl before
  | beginJoin | dropWithLeave | requestLeave | retryLeave =>
      rcases recorded_of_issueCommand outstanding with ⟨rfl, -⟩ | before
      · simp only [PendingCommand.transition?, Option.some.injEq,
          Prod.mk.injEq] at about
        exact Or.inr ⟨about.2, about.1.symm⟩
      · exact Or.inl before
  | forwardSignal =>
      rcases recorded_of_issueCommand outstanding with ⟨rfl, -⟩ | before
      · simp [PendingCommand.transition?] at about
      · exact Or.inl before
  | connectWorker =>
      have before := recorded_of_retireAll outstanding
      exact Or.inl (by simpa [RoomTable.connectWorker] using before)
  | syncRoom order found listed connected =>
      simp only [syncAssignedRoom, found] at outstanding
      rcases recorded_of_issueCommand outstanding with ⟨rfl, -⟩ | before
      · simp [PendingCommand.transition?] at about
      · exact Or.inl before
  | reportFailure requestId order reason ack known notice =>
      exact Or.inl (@recorded_of_failRoom (table.modifyWorker _ _) _ _ _ _ _
        outstanding)
  | answer actions present idle replays =>
      exact Or.inl (recorded_of_retireCommand (by simpa using outstanding))
  | refuseSync order present =>
      exact Or.inl (recorded_of_retireCommand (recorded_of_failRoom outstanding))
  | advanceUpgrade present connected found upgrading unfinished =>
      rename_i answered instanceId subject clientId lifecycleId
        assignmentEpoch room upgrade connectionId
      rcases issueNextUpgradeJoin_cases
        ((table.retireCommand answered).setRoom subject
          (room.advanceUpgrade upgrade clientId)) subject with ⟨error, same⟩ |
        ⟨_, _, _, _, _, _, -, -, -, -, -, -, issued⟩
      · rw [same] at outstanding
        exact Or.inl (recorded_of_retireCommand outstanding)
      · rw [issued] at outstanding
        rcases recorded_of_issueCommand outstanding with ⟨rfl, -⟩ | before
        · simp only [PendingCommand.transition?, Option.some.injEq,
            Prod.mk.injEq] at about
          exact Or.inr ⟨about.2, about.1.symm⟩
        · exact Or.inl (recorded_of_retireCommand before)
  | commitUpgrade order present connected found upgrading finished =>
      rename_i answered instanceId subject clientId lifecycleId
        assignmentEpoch room upgrade connectionId
      have commit := commitUpgrade_eq order
        (room.advanceUpgrade upgrade clientId)
        (show ((table.retireCommand answered).setRoom subject
          (room.advanceUpgrade upgrade clientId)).rooms[subject]? = _ by simp) rfl
      rw [commit] at outstanding
      split at outstanding <;>
        exact Or.inl (recorded_of_retireCommand (by simpa using outstanding))
  | abortUpgrade reason present found upgrading =>
      obtain ⟨carrier, carried⟩ := Option.isSome_iff_exists.1
        ((wellFormed.rooms _ _ found).upgrade _ upgrading).2.2.1
      obtain ⟨leavers, answers, release, -⟩ := abortUpgrade_released
        (table.retireCommand _) reason found upgrading carried
      exact Or.inl (recorded_of_retireCommand
        (release.recorded outstanding about))
  | completeJoin present found joining =>
      rw [completeJoin_eq] at outstanding
      split at outstanding <;>
        exact Or.inl (recorded_of_retireCommand (by simpa using outstanding))
  | refuseJoin reason present found joining =>
      exact Or.inl (recorded_of_retireCommand (by simpa using outstanding))
  | completeLeave now present found leaving =>
      rename_i answered instanceId subject clientId lifecycleId
        assignmentEpoch room pendingLeave
      obtain ⟨deadline, -, complete⟩ := completeLeave_eq
        (table.retireCommand answered) instanceId subject room clientId
          pendingLeave now
      rw [complete] at outstanding
      refine Or.inl (@recorded_of_retireCommand table requestId pending answered
        ?_)
      simp only [pushActions_pendingCommands, modifyWorker_pendingCommands]
        at outstanding
      split at outstanding <;> exact outstanding
  | refuseLeave reason present found leaving =>
      rw [removalAnswer_eq] at outstanding
      exact Or.inl (recorded_of_retireCommand (by simpa using outstanding))
  | expireUpgrade waits listed found upgrading =>
      obtain ⟨upgrade, running, -⟩ :=
        (wellFormed.rooms _ _ found).upgrading upgrading
      obtain ⟨carrier, carried⟩ := Option.isSome_iff_exists.1
        ((wellFormed.rooms _ _ found).upgrade upgrade running).2.2.1
      obtain ⟨leavers, answers, release, -⟩ :=
        abortUpgrade_released table "WORKER_UNAVAILABLE" found running carried
      exact Or.inl (release.recorded outstanding about)
  | expireRoom order waits listed found settled =>
      exact Or.inl (by simpa [failExpired] using outstanding)
  | endExpiry waits settled =>
      simp only [RoomTable.releaseWorker, modifyWorker_pendingCommands]
        at outstanding
      exact Or.inl (recorded_of_retireAll outstanding)
  | downgrade order eligible =>
      obtain ⟨room, carrier, initiatorClientId, others, found, forwarded,
        small, noJoin, noLeave, carried, clients⟩ :=
          wellFormed.eligible eligible
      exact Or.inl ((commitDowngrade_released order found carried
        clients).recorded outstanding about)
  | pollAction =>
      refine Or.inl ?_
      unfold RoomTable.pollAction at outstanding
      split at outstanding <;> exact outstanding

/-- The call asks a worker for a transition of the room. -/
def Call.Starts
    (call : Call)
    (table : RoomTable)
    (kind : TransitionKind)
    (roomId : RoomId) : Prop :=
  ∃ middle move, Arises table call middle move ∧ move.Starts kind roomId

/-- A record of a transition after a call was there before it, unless the call
asks for a transition of that kind. -/
theorem RoomTable.Consistent.recorded
    {table : RoomTable}
    {call : Call}
    {requestId : Nat}
    {pending : PendingCommand}
    {kind : TransitionKind}
    {roomId : RoomId}
    (consistent : table.Consistent)
    (outstanding : (table.step call).pendingCommands[requestId]? = some pending)
    (about : pending.transition? = some (kind, roomId))
    (silent : ¬call.Starts table kind roomId) :
    table.pendingCommands[requestId]? = some pending := by
  refine consistent.step_invariant
    (fun _ middle => middle.pendingCommands[requestId]? = some pending ->
      table.pendingCommands[requestId]? = some pending)
    (fun phase middle move phase' next taken arises sound kept present => ?_)
    id outstanding
  rcases taken.recorded sound.wellFormed present about with before | starts
  · exact kept before
  · exact absurd ⟨middle, move, arises, starts⟩ silent

end V2
end Signaling
