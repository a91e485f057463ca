import Signaling.V2.Invariants

/-!
# The structure of a room

What the records of a room look like in each mode, in every reachable table,
and that the indexing and the unwrapping that rest on it never fail.
-/

namespace Signaling
namespace V2

open Std (ExtTreeMap ExtTreeSet)
open RoomTable

/-- The records of a room as its mode prescribes them. -/
structure Room.MatchesMode (room : Room) : Prop where
  direct : room.mode = .p2p ->
    room.members.size ≤ 2 ∧ room.assignedInstance = none ∧
      room.upgrade = none ∧ room.pendingJoin = none ∧ room.pendingLeave = none
  upgrading : room.mode = .upgrading ->
    room.assignedInstance.isSome ∧ room.pendingJoin = none ∧
      room.pendingLeave = none ∧ room.members.size = 3 ∧ ∃ upgrade,
        room.upgrade = some upgrade ∧ upgrade.orderedClients.Nodup ∧
          (∀ clientId, clientId ∈ upgrade.orderedClients ↔
            clientId ∈ room.members) ∧
          upgrade.orderedClients.getLast? = some upgrade.joiningClientId ∧
          upgrade.nextClient < 3
  forwarded : room.mode = .sfu ->
    room.assignedInstance.isSome ∧ room.upgrade = none

theorem Room.WellFormed.matchesMode
    {room : Room}
    (wellFormed : room.WellFormed) :
    room.MatchesMode where
  direct := wellFormed.direct
  forwarded := wellFormed.forwarded
  upgrading mode := by
    obtain ⟨upgrade, running, present, -⟩ := wellFormed.upgrading mode
    obtain ⟨shape, -, assigned, noJoin, noLeave, listed⟩ :=
      wellFormed.upgrade upgrade running
    have exactly (clientId : ClientId) :
        clientId ∈ upgrade.orderedClients ↔ clientId ∈ room.members := by
      rw [ExtTreeMap.mem_iff_isSome_getElem?]
      exact ⟨present clientId, listed clientId⟩
    have size : room.members.size = 3 := by
      have same : room.members.keys.Perm upgrade.orderedClients := by
        rw [List.perm_ext_iff_of_nodup ExtTreeMap.nodup_keys shape.distinct]
        intro clientId
        rw [ExtTreeMap.mem_keys, exactly]
      rw [← ExtTreeMap.length_keys, same.length_eq, shape.three]
    exact ⟨assigned, noJoin, noLeave, size, upgrade, running, shape.distinct,
      exactly, shape.last, shape.next⟩

/-! ## Unwrapping in an admission -/

namespace RoomTable

/-- The `expect` calls that `freshLifecycles` passes: each client is a member of
the stored room. -/
def freshLifecyclesExpect
    (roomId : RoomId) : List ClientId -> RoomTable -> Bool
  | [], _ => true
  | clientId :: clients, table =>
      let (lifecycleId, table) := table.nextLifecycle roomId clientId
      (table.member? roomId clientId).isSome
        && freshLifecyclesExpect roomId clients
          { table with
            rooms := table.rooms.modify roomId fun room =>
              room.modifyMember clientId fun member =>
                { member with lifecycleId := lifecycleId } }

/-- The `expect` calls that `beginUpgrade` passes: the room is stored, its
members are, and the selected worker is known. -/
def beginUpgradeExpect
    (table : RoomTable)
    (now : Instant)
    (roomId : RoomId)
    (room : Room)
    (clientId : ClientId)
    (admissionToken : String)
    (instanceId : InstanceId) : Bool :=
  let (lifecycleId, table) := table.nextLifecycle roomId clientId
  let stored := table.rooms.contains roomId
  let room := room.insertMember clientId
    (newMember now table.reconnectGrace admissionToken false lifecycleId)
  let existing := (upgradeOrder room clientId).filter fun candidate =>
    decide (candidate ≠ clientId)
  let table := table.setRoom roomId
    { room with
      mode := .upgrading
      assignmentEpoch := saturatingAdd room.assignmentEpoch 1
      assignedInstance := some instanceId }
  let relived := freshLifecycles roomId existing table
  stored && freshLifecyclesExpect roomId existing table
    && relived.rooms.contains roomId && relived.workers.contains instanceId

/-- The `expect` calls that `admitClient` passes. -/
def admitExpect
    (table : RoomTable)
    (now : Instant)
    (roomId : RoomId)
    (clientId : ClientId)
    (admissionToken : String) : Bool :=
  match table.rooms[roomId]? with
  | none => true
  | some room =>
  if room.members.contains clientId then true
  else
  match room.mode with
  | .upgrading => true
  | .failed => true
  | .sfu =>
      match room.assignedInstance.bind table.connection? with
      | none => true
      | some _ => (table.nextLifecycle roomId clientId).2.rooms.contains roomId
  | .p2p =>
      if room.members.size < maxP2pMembers then
        (table.nextLifecycle roomId clientId).2.rooms.contains roomId
      else
        match table.selectWorker 3 with
        | none => true
        | some instanceId => table.beginUpgradeExpect now roomId room clientId
            admissionToken instanceId

theorem freshLifecyclesExpect_of_members
    (roomId : RoomId)
    (clients : List ClientId)
    (table : RoomTable)
    (present : ∀ clientId ∈ clients, (table.member? roomId clientId).isSome) :
    freshLifecyclesExpect roomId clients table = true := by
  induction clients generalizing table with
  | nil => rfl
  | cons clientId clients inductionHypothesis =>
      simp only [freshLifecyclesExpect, Bool.and_eq_true]
      refine ⟨present clientId List.mem_cons_self,
        inductionHypothesis _ fun otherId later => ?_⟩
      have stands := present otherId (List.mem_cons_of_mem _ later)
      simp only [member?, nextLifecycle_rooms] at stands ⊢
      rw [ExtTreeMap.getElem?_modify_self]
      cases found : table.rooms[roomId]? with
      | none => simp [found] at stands
      | some room =>
          simp only [found, Option.bind_some, Option.map_some,
            Room.modifyMember] at stands ⊢
          grind

theorem freshLifecycles_workers
    (roomId : RoomId)
    (clients : List ClientId)
    (table : RoomTable) :
    (freshLifecycles roomId clients table).workers = table.workers := by
  induction clients generalizing table with
  | nil => rfl
  | cons clientId clients inductionHypothesis =>
      simp only [freshLifecycles]
      rw [inductionHypothesis]
      rfl

theorem freshLifecycles_contains
    (roomId : RoomId)
    (clients : List ClientId)
    (table : RoomTable)
    (stored : table.rooms.contains roomId = true) :
    (freshLifecycles roomId clients table).rooms.contains roomId = true := by
  induction clients generalizing table with
  | nil => exact stored
  | cons clientId clients inductionHypothesis =>
      simp only [freshLifecycles]
      refine inductionHypothesis _ ?_
      rw [ExtTreeMap.contains_modify]
      exact stored

/-- No admission unwraps an absent room, member or worker. -/
theorem admitExpect_holds
    (table : RoomTable)
    (now : Instant)
    (roomId : RoomId)
    (clientId : ClientId)
    (token : String) :
    table.admitExpect now roomId clientId token = true := by
  unfold admitExpect
  split
  · rfl
  rename_i room found
  have stored : table.rooms.contains roomId = true := by
    rw [ExtTreeMap.contains_eq_isSome_getElem?, found]
    rfl
  split
  · rfl
  split
  · rfl
  · rfl
  · split
    · rfl
    · exact stored
  · split
    · exact stored
    split
    · rfl
    rename_i instanceId selected
    obtain ⟨worker, known, -⟩ := takes_of_selectWorker selected
    have serving : table.workers.contains instanceId = true := by
      rw [ExtTreeMap.contains_eq_isSome_getElem?, known]
      rfl
    simp only [beginUpgradeExpect, Bool.and_eq_true]
    refine ⟨⟨⟨stored, ?_⟩, ?_⟩, ?_⟩
    · refine freshLifecyclesExpect_of_members _ _ _ fun otherId listed => ?_
      simp only [upgradeOrder, List.filter_append, List.mem_append,
        List.mem_filter, ExtTreeMap.mem_keys] at listed
      simp only [member?, setRoom_rooms, ExtTreeMap.getElem?_insert_self,
        Option.bind_some]
      rw [← ExtTreeMap.mem_iff_isSome_getElem?]
      grind
    · exact freshLifecycles_contains _ _ _ (by simp)
    · rw [freshLifecycles_workers]
      exact serving

/-! ## Indexing in an upgrade -/

/-- The outcome of an index outside the clients of an upgrade. -/
def outOfBounds (Outcome : Type) : Except String Outcome :=
  .error "index out of bounds"

theorem leaveJoined_inBounds
    (instanceId : InstanceId)
    (connectionId : Sfu.ConnectionId)
    (roomId : RoomId)
    (assignmentEpoch : Nat)
    (clients : List ClientId)
    (table : RoomTable) :
    (leaveJoined instanceId connectionId roomId assignmentEpoch clients
      table).1 ≠ outOfBounds Unit := by
  induction clients generalizing table with
  | nil => simp [leaveJoined, outOfBounds]
  | cons clientId clients inductionHypothesis =>
      unfold leaveJoined
      split
      · simp [outOfBounds]
      · exact inductionHypothesis _

theorem abortUpgrade_inBounds
    (table : RoomTable)
    (roomId : RoomId)
    (reason : String) :
    (table.abortUpgrade roomId reason).1 ≠ outOfBounds Unit := by
  cases found : table.rooms[roomId]? with
  | none => simp [abortUpgrade, found, outOfBounds]
  | some room =>
      cases upgrading : room.upgrade with
      | none => simp [abortUpgrade, found, upgrading, outOfBounds]
      | some upgrade =>
          simp only [abortUpgrade, found, upgrading]
          split
          · simp [outOfBounds]
          rename_i instanceId assigned
          cases connected : table.connection? instanceId with
          | none => simp [outOfBounds]
          | some connectionId =>
              simp only
              split
              · rename_i error rest failed
                have left := congrArg Prod.fst failed
                dsimp only at left ⊢
                rw [← left]
                exact leaveJoined_inBounds _ _ _ _ _ _
              · simp [outOfBounds]

theorem commitUpgrade_inBounds
    (table : RoomTable)
    (order : VisitOrder)
    (roomId : RoomId) :
    (table.commitUpgrade order roomId).1 ≠ outOfBounds Unit := by
  unfold commitUpgrade
  split
  · simp [outOfBounds]
  split
  · simp [outOfBounds]
  dsimp only
  split <;> simp [outOfBounds]

/-- The next client of an unfinished upgrade is one of its clients. -/
theorem issueNextUpgradeJoin_inBounds
    {table : RoomTable}
    {roomId : RoomId}
    (bounded : ∀ room upgrade, table.rooms[roomId]? = some room ->
      room.upgrade = some upgrade ->
      upgrade.nextClient < upgrade.orderedClients.length) :
    (table.issueNextUpgradeJoin roomId).1 ≠ outOfBounds Unit := by
  unfold issueNextUpgradeJoin
  split
  · simp [outOfBounds]
  rename_i room found
  split
  · simp [outOfBounds]
  rename_i upgrade upgrading
  split
  · rename_i outside
    have inside := bounded room upgrade found upgrading
    simp only [List.getElem?_eq_none_iff] at outside
    omega
  split
  · simp [outOfBounds]
  split
  · simp [outOfBounds]
  split <;> simp [outOfBounds]

theorem upgradeJoinResult_inBounds
    {table : RoomTable}
    (wellFormed : table.WellFormed)
    (order : VisitOrder)
    (expectedInstance instanceId : InstanceId)
    (roomId : RoomId)
    (clientId : ClientId)
    (lifecycleId assignmentEpoch : Nat)
    (result : Except Sfu.Error Sfu.CommandOk) :
    (table.upgradeJoinResult order expectedInstance instanceId roomId clientId
      lifecycleId assignmentEpoch result).1 ≠ outOfBounds Unit := by
  unfold upgradeJoinResult
  dsimp only
  split
  · exact abortUpgrade_inBounds _ _ _
  split
  · simp [outOfBounds]
  rename_i room found
  split
  · simp [outOfBounds]
  rename_i upgrade upgrading
  have shape := ((wellFormed.rooms roomId room found).upgrade upgrade
    upgrading).1
  unfold acceptUpgradeJoin
  dsimp only
  split
  · exact commitUpgrade_inBounds _ _ _
  · rename_i unfinished
    refine issueNextUpgradeJoin_inBounds fun other advanced present running => ?_
    simp only [setRoom_rooms, ExtTreeMap.getElem?_insert_self,
      Option.some.injEq] at present
    subst present
    simp only [Room.advanceUpgrade, Option.some.injEq] at running
    subst running
    have three := shape.three
    have next := shape.next
    dsimp only
    omega

theorem completeJoin_inBounds
    (table : RoomTable)
    (instanceId : InstanceId)
    (roomId : RoomId)
    (room : Room)
    (clientId : ClientId)
    (pendingJoin : PendingJoin) :
    (table.completeJoin instanceId roomId room clientId pendingJoin).1 ≠
      outOfBounds Unit := by
  unfold completeJoin
  dsimp only
  split <;> simp [outOfBounds]

/-- No input of a worker indexes outside the clients of an upgrade. -/
theorem handleSfuInput_inBounds
    {table : RoomTable}
    (wellFormed : table.WellFormed)
    (order : VisitOrder)
    (input : Sfu.Input) :
    (table.handleSfuInput order input).1 ≠ outOfBounds Unit := by
  cases input with
  | register =>
      simp only [handleSfuInput, registerWorker]
      split <;> simp [outOfBounds]
  | event =>
      simp only [handleSfuInput, handleWorkerEvent]
      repeat' split
      all_goals simp [outOfBounds]
  | disconnected => simp [handleSfuInput, outOfBounds]
  | commandResult connectionId instanceId result now =>
      simp only [handleSfuInput, handleCommandResult]
      split
      · simp [outOfBounds]
      split
      · simp [outOfBounds]
      split
      · simp [outOfBounds]
      split
      · split <;> simp [outOfBounds]
      · exact upgradeJoinResult_inBounds (wellFormed.retireCommand _) _ _ _ _ _ _ _
          _
      · unfold sfuJoinResult
        dsimp only
        split
        · simp [outOfBounds]
        split
        · simp [outOfBounds]
        split
        · exact completeJoin_inBounds _ _ _ _ _ _
        · simp [outOfBounds]
      · unfold sfuLeaveResult
        dsimp only
        split
        · simp [outOfBounds]
        split
        · simp [outOfBounds]
        split <;> simp [outOfBounds]
      · simp [outOfBounds]
      · simp [outOfBounds]

/-- No admission indexes outside the clients of an upgrade. -/
theorem admitClient_inBounds
    (table : RoomTable)
    (authorityRequestId : Nat)
    (now : Instant)
    (roomId : RoomId)
    (clientId : ClientId)
    (token : String) :
    (RoomTable.admitClient table authorityRequestId now roomId clientId
      token).1 ≠ outOfBounds AdmissionResult := by
  unfold RoomTable.admitClient
  split
  · simp [outOfBounds]
  rename_i room found
  split
  · simp [outOfBounds]
  rename_i fresh
  simp only [Bool.not_eq_true] at fresh
  split
  · simp [outOfBounds]
  · simp [outOfBounds]
  · split
    · simp [outOfBounds]
    simp only [admitToSfu, found]
    split
    · simp [outOfBounds]
    split <;> simp [outOfBounds]
  · split
    · simp [outOfBounds]
    rename_i full
    split
    · simp [outOfBounds]
    rename_i instanceId selected
    obtain ⟨_, _, _, _, _, _, -, -, -, begun⟩ := beginUpgrade_eq
      authorityRequestId now token roomId fresh full selected
    rw [begun]
    simp [outOfBounds]

end RoomTable

/-- In every reachable table each room has the records of its mode, and no call
indexes outside an upgrade or unwraps an absent room, member or worker. -/
theorem room_structure
    {reconnectGrace : Duration}
    {table : RoomTable}
    (reachable : (RoomTable.machine reconnectGrace).Reachable table) :
    (∀ (roomId : RoomId) (room : Room),
        table.rooms[roomId]? = some room -> room.MatchesMode) ∧
      (∀ order input, (table.handleSfuInput order input).1 ≠
        outOfBounds Unit) ∧
      ∀ authorityRequestId now roomId clientId token,
        (RoomTable.admitClient table authorityRequestId now roomId clientId
          token).1 ≠ outOfBounds AdmissionResult ∧
        table.admitExpect now roomId clientId token = true := by
  obtain ⟨history, run⟩ := reachable
  have wellFormed := (consistent_of_run run).wellFormed
  exact ⟨fun roomId room found => (wellFormed.rooms roomId room found).matchesMode,
    handleSfuInput_inBounds wellFormed,
    fun _ now roomId clientId token => ⟨admitClient_inBounds _ _ _ _ _ _,
      admitExpect_holds table now roomId clientId token⟩⟩

theorem room_structure_upgrading :
    ∃ room : Room, (RoomTable.played 0 upgradingOperations).2.rooms[exampleRoomId]? =
      some room ∧ room.MatchesMode := by
  have present : ((RoomTable.played 0 upgradingOperations).2.rooms[
      exampleRoomId]?).isSome := by
    decide +kernel
  obtain ⟨room, found⟩ := Option.isSome_iff_exists.1 present
  exact ⟨room, found, (room_structure
    ⟨_, RoomTable.played_run 0 upgradingOperations⟩).1 exampleRoomId room found⟩

end V2
end Signaling
