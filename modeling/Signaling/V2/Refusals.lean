import Signaling.V2.Effects
import Signaling.V2.Run

/-!
# Failed operations

An admission, a registration, a message or a removal that fails leaves the whole
table as it was. What an admission changes before its last fallible step it
changes only when that step succeeds.
-/

namespace Signaling
namespace V2

open Std (ExtTreeMap)

namespace RoomTable

variable {table : RoomTable}

/-- An upgrade that starts asks for its first join: the step that could fail
does not. -/
theorem beginUpgrade_pending
    {room : Room}
    {clientId : ClientId}
    {instanceId : InstanceId}
    (authorityRequestId : Nat)
    (now : Instant)
    (roomId : RoomId)
    (token : String)
    (fresh : room.members.contains clientId = false)
    (full : ¬room.members.size < maxP2pMembers)
    (selected : table.selectWorker 3 = some instanceId) :
    (table.beginUpgrade authorityRequestId now roomId room clientId token
        instanceId).1 = .ok .pending ∧
      (table.beginUpgrade authorityRequestId now roomId room clientId token
        instanceId).2.mode? roomId = some .upgrading := by
  obtain ⟨_, _, _, _, _, _, -, -, -, begun⟩ := beginUpgrade_eq
    authorityRequestId now token roomId fresh full selected
  rw [begun]
  refine ⟨rfl, ?_⟩
  simp [mode?, Room.startUpgrade]

theorem admitToSfu_error
    {authorityRequestId : Nat}
    {now : Instant}
    {roomId : RoomId}
    {clientId : ClientId}
    {token error : String}
    (fails : (table.admitToSfu authorityRequestId now roomId clientId token).1 =
      .error error) :
    (table.admitToSfu authorityRequestId now roomId clientId token).2 =
      table := by
  unfold admitToSfu at fails ⊢
  cases found : table.rooms[roomId]? with
  | none => rfl
  | some room =>
      cases assigned : room.assignedInstance with
      | none => simp [assigned]
      | some instanceId =>
          cases connected : table.connection? instanceId with
          | none => simp [assigned, connected]
          | some connectionId => simp [found, assigned, connected] at fails

theorem admitClient_error
    {authorityRequestId : Nat}
    {now : Instant}
    {roomId : RoomId}
    {clientId : ClientId}
    {token error : String}
    (fails : (table.admitClient authorityRequestId now roomId clientId
      token).1 = .error error) :
    (table.admitClient authorityRequestId now roomId clientId token).2 =
      table := by
  unfold admitClient at fails ⊢
  split
  · simp_all
  · rename_i room found
    rw [found] at fails
    dsimp only at fails
    split
    · rfl
    · rename_i absent
      have fresh : room.members.contains clientId = false :=
        eq_false_of_ne_true absent
      rw [if_neg absent] at fails
      cases mode : room.mode with
      | upgrading => rfl
      | failed => rfl
      | sfu =>
          simp only [mode] at fails ⊢
          split
          · rfl
          · rename_i settled
            rw [if_neg settled] at fails
            exact admitToSfu_error fails
      | p2p =>
          simp only [mode] at fails ⊢
          split
          · rename_i vacant
            simp [vacant] at fails
          · rename_i full
            rw [if_neg full] at fails
            cases selected : table.selectWorker 3 with
            | none => rfl
            | some instanceId =>
                have pending := (beginUpgrade_pending authorityRequestId now
                  roomId token fresh full selected).1
                simp only [selected, pending] at fails
                cases fails

theorem register_error
    {order : VisitOrder}
    {roomId : RoomId}
    {clientId : ClientId}
    {token error : String}
    (fails : (table.register order roomId clientId token).1 = .error error) :
    (table.register order roomId clientId token).2 = table := by
  unfold register at fails ⊢
  split
  · rfl
  · rename_i room found
    rw [found] at fails
    dsimp only at fails
    split
    · rfl
    · rename_i settled
      rw [if_neg settled] at fails
      cases present : room.members[clientId]? with
      | none => rfl
      | some member =>
          simp only [present] at fails ⊢
          split
          · rfl
          · rename_i authorized
            rw [if_neg authorized] at fails
            split
            · rfl
            · rename_i unregistered
              simp [unregistered] at fails

theorem send_error
    {order : VisitOrder}
    {roomId : RoomId}
    {clientId : ClientId}
    {signalEpoch : Nat}
    {message error : String}
    (fails : (table.send order roomId clientId signalEpoch message).1 =
      .error error) :
    (table.send order roomId clientId signalEpoch message).2 = table := by
  unfold send at fails ⊢
  split
  · rfl
  · rename_i room found
    rw [found] at fails
    dsimp only at fails
    split
    · rfl
    · rename_i accepted
      rw [if_neg accepted] at fails
      cases present : room.members[clientId]? with
      | none => rfl
      | some member =>
          simp only [present] at fails ⊢
          split
          · rename_i forwarded
            rw [if_pos forwarded] at fails
            cases assigned : room.assignedInstance with
            | none => rfl
            | some instanceId =>
                cases connected : table.connection? instanceId with
                | none => simp [connected]
                | some connectionId => simp [assigned, connected] at fails
          · rename_i direct
            rw [if_neg direct] at fails
            split
            · rfl
            · rename_i unheard
              rw [unheard] at fails
              cases queued : pushQueued member message with
              | error => rfl
              | ok => simp [queued] at fails

theorem remove_error
    {authorityRequestId : Nat}
    {roomId : RoomId}
    {clientId : ClientId}
    {token error : String}
    (fails : (table.remove authorityRequestId roomId clientId token).1 =
      .error error) :
    (table.remove authorityRequestId roomId clientId token).2 = table := by
  unfold remove at fails ⊢
  split
  · rfl
  · rename_i room found
    rw [found] at fails
    dsimp only at fails
    cases present : room.members[clientId]? with
    | none => rfl
    | some member =>
        simp only [present] at fails ⊢
        split
        · rfl
        · rename_i authorized
          rw [if_neg authorized] at fails
          split
          · rfl
          · rename_i settled
            rw [if_neg settled] at fails
            cases mode : room.mode with
            | sfu =>
                simp only [mode] at fails ⊢
                cases assigned : room.assignedInstance with
                | none => rfl
                | some instanceId =>
                    cases connected : table.connection? instanceId with
                    | none => simp [connected]
                    | some connectionId => simp [assigned, connected] at fails
            | failed | p2p | upgrading => simp [mode] at fails

end RoomTable

/-- A failed admission, registration, message or removal changes nothing, and
an admission that puts a room into its upgrade does not fail. -/
theorem failed_calls_change_nothing (table : RoomTable) :
    (∀ authorityRequestId now roomId clientId token error,
      (table.admitClient authorityRequestId now roomId clientId token).1 =
        .error error ->
      (table.admitClient authorityRequestId now roomId clientId token).2 =
        table) ∧
    (∀ order roomId clientId token error,
      (table.register order roomId clientId token).1 = .error error ->
      (table.register order roomId clientId token).2 = table) ∧
    (∀ order roomId clientId signalEpoch message error,
      (table.send order roomId clientId signalEpoch message).1 =
        .error error ->
      (table.send order roomId clientId signalEpoch message).2 = table) ∧
    (∀ authorityRequestId roomId clientId token error,
      (table.remove authorityRequestId roomId clientId token).1 =
        .error error ->
      (table.remove authorityRequestId roomId clientId token).2 = table) ∧
    ∀ authorityRequestId now roomId room clientId token instanceId,
      table.rooms[roomId]? = some room -> room.mode = .p2p ->
      clientId ∉ room.members -> maxP2pMembers ≤ room.members.size ->
      table.selectWorker 3 = some instanceId ->
      (table.admitClient authorityRequestId now roomId clientId token).1 =
          .ok .pending ∧
        (table.admitClient authorityRequestId now roomId clientId
          token).2.mode? roomId = some .upgrading := by
  refine ⟨fun _ _ _ _ _ _ => RoomTable.admitClient_error,
    fun _ _ _ _ _ => RoomTable.register_error,
    fun _ _ _ _ _ _ => RoomTable.send_error,
    fun _ _ _ _ _ => RoomTable.remove_error, ?_⟩
  intro authorityRequestId now roomId room clientId token instanceId found
    direct absent full selected
  have fresh : room.members.contains clientId = false :=
    eq_false_of_ne_true fun present => absent (ExtTreeMap.contains_iff_mem.1 present)
  have begun : table.admitClient authorityRequestId now roomId clientId token =
      table.beginUpgrade authorityRequestId now roomId room clientId token
        instanceId := by
    simp [RoomTable.admitClient, found, absent, direct, Nat.not_lt.2 full,
      selected]
  rw [begun]
  exact RoomTable.beginUpgrade_pending authorityRequestId now roomId token fresh
    (Nat.not_lt.2 full) selected

/-- A registration during an upgrade. -/
theorem failed_registration_changes_nothing :
    ((RoomTable.played 0 upgradingOperations).2.register .sorted exampleRoomId
        1 "second").2 = (RoomTable.played 0 upgradingOperations).2 :=
  (failed_calls_change_nothing (RoomTable.played 0 upgradingOperations).2).2.1
    .sorted exampleRoomId 1 "second" "ROOM_TRANSITION" (by decide +kernel)

end V2
end Signaling
