import Signaling.V2.Accounts

/-!
# Where upgrades go

A full room is upgraded on the least loaded of the workers that can take its
three clients. As long as the accounts are right, the load that the choice
compares is the number of clients in the rooms of a worker.
-/

namespace Signaling
namespace V2

open Std (ExtTreeMap ExtTreeSet)
open RoomTable

/-- A room is upgrading from the admission of its third member on only. -/
theorem RoomMoved.upgrades
    {roomId : RoomId}
    {move : Move}
    {before : Option Room}
    {after : Room}
    (moved : RoomMoved roomId move before (some after))
    (upgrading : after.mode = .upgrading) :
    (∃ former, before = some former ∧ former.mode = .upgrading) ∨
      ∃ requestId clientId, move = .beginUpgrade requestId roomId clientId := by
  generalize becomes : some after = result at moved
  cases moved with
  | beginUpgrade => exact .inr ⟨_, _, rfl⟩
  | kept =>
      cases becomes
      exact .inl ⟨after, rfl, upgrading⟩
  | create | reportFailure | refuseSync | commitUpgrade | abortUpgrade
  | expireUpgrade | expireRoom | downgrade =>
      cases becomes
      cases upgrading
  | register =>
      cases becomes
      exact .inl ⟨_, rfl, by simpa using upgrading⟩
  | removeDirect _ _ _ direct | expireMembers _ direct =>
      obtain rfl := Room.eq_of_stored becomes.symm
      simp [direct, Room.eraseMember] at upgrading
  | removeFailed | completeLeave =>
      obtain rfl := Room.eq_of_stored becomes.symm
      exact .inl ⟨_, rfl, upgrading⟩
  | _ =>
      cases becomes
      exact .inl ⟨_, rfl, upgrading⟩

/-- In every run without a call that miscounts, the upgrade of a room goes to a
connected and ready worker with space for one more room and, next to the clients
of the rooms that it carries, for three more; and no other worker that could take
the room carries fewer clients. -/
theorem upgrades_placed
    {reconnectGrace : Duration}
    {history : History}
    {table : RoomTable}
    {call : Call}
    {roomId : RoomId}
    (run : (RoomTable.machine reconnectGrace).Run history table)
    (guarded : Machine.Guarded (fun table call => ¬call.Miscounts table)
      history)
    (fair : ¬call.Miscounts table)
    (waiting : table.mode? roomId ≠ some .upgrading)
    (begun : (table.step call).mode? roomId = some .upgrading) :
    ∃ (instanceId : InstanceId) (worker : Worker) (room : Room),
      table.workers[instanceId]? = some worker ∧
      (table.step call).rooms[roomId]? = some room ∧
      room.assignedInstance = some instanceId ∧
      (∃ health, worker.health = some health ∧ health.state = .ready) ∧
      worker.connectionId.isSome ∧
      worker.assignedRooms.size < worker.capacity.maxRooms ∧
      total worker.assignedRooms table.chargeAt + 3 ≤
        worker.capacity.maxClients ∧
      ∀ (otherId : InstanceId) (other : Worker),
        table.workers[otherId]? = some other -> other.takes 3 = true ->
        total worker.assignedRooms table.chargeAt ≤
          total other.assignedRooms table.chargeAt := by
  have accounted := accounted_of_run run guarded
  obtain ⟨_, ⟨requestId, clientId, rfl⟩, -, taken⟩ :=
    (RoomTable.consistent_of_run run).enters
      (fun _ _ _ moved upgrading => moved.upgrades upgrading)
      (by
        rintro middle _ ⟨requestId, clientId, rfl⟩ ⟨-, now, token, asked⟩
        simp [Call.Sweeps, asked]) waiting begun
  generalize table.step call = next at taken begun ⊢
  cases taken with
  | beginUpgrade authorityRequestId now token found fresh direct full selected =>
      rename_i room instanceId
      obtain ⟨worker, known, takes, least⟩ := least_of_selectWorker selected
      obtain ⟨lifecycle, counters, lifecycleId, first, joining, connectionId,
        -, -, -, becomes⟩ := beginUpgrade_eq requestId now token roomId fresh full
          selected
      have balanced := accounted.balanced instanceId worker known
      have few : table.memberCount + 3 ≤ u64Max :=
        Nat.le_of_not_lt fun many => fair (.inl many)
      have counted := balanced.le_memberCount
      obtain ⟨ready, connected, rooms, clients⟩ := Worker.takes_iff.1 takes
      rw [saturatingAdd_eq (by omega), balanced.counted] at clients
      have stored : (table.beginUpgrade requestId now roomId room clientId token
          instanceId).2.rooms[roomId]? = some (room.startUpgrade requestId clientId
            (newMember now table.reconnectGrace token false lifecycleId) lifecycle
            instanceId) := by
        rw [becomes]
        simp
      refine ⟨instanceId, worker, _, known, stored, rfl, ready, connected, rooms,
        clients, fun otherId other present accepts => ?_⟩
      rw [← balanced.counted,
        ← (accounted.balanced otherId other present).counted]
      exact Worker.clients_le_of_load_le (least otherId other present accepts)

/-- Two clients wait for the third, whose admission starts the upgrade. -/
theorem upgrades_placed_started :
    ∃ (instanceId : InstanceId) (worker : Worker),
      (RoomTable.played 0 (upgradingOperations.take 4)).2.workers[instanceId]? =
        some worker ∧
      total worker.assignedRooms (RoomTable.played 0
        (upgradingOperations.take 4)).2.chargeAt + 3 ≤
          worker.capacity.maxClients := by
  let call : Call := ⟨.admitClient 3 0 exampleRoomId 3 "third", .sorted⟩
  have settled : (RoomTable.played 0 (upgradingOperations.take 4)).1.all
      (fun event => event.2.settled event.1) = true := by
    decide +kernel
  obtain ⟨instanceId, worker, _, known, -, -, -, -, -, space, -⟩ :=
    @upgrades_placed 0 _ _ call exampleRoomId
      (RoomTable.played_run 0 (upgradingOperations.take 4))
      (fun event taken =>
        Call.fair_of_settled (List.all_eq_true.1 settled event taken))
      (Call.fair_of_settled (by decide +kernel)) (by decide +kernel)
      (by decide +kernel)
  exact ⟨instanceId, worker, known, space⟩

end V2
end Signaling
