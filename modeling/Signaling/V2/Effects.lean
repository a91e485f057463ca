import Signaling.V2.Frame
import Signaling.Support.Least

/-!
# What the transitions do to the table

The upgrade, its commit and its rollback, and the downgrade, each as the list
of the fields that it changes. Leaves that are queued on the way only add
cleanup records.
-/

namespace Signaling
namespace V2

open Std (ExtTreeMap ExtTreeSet)

namespace RoomTable

/-- Two tables hold the same command under an id. -/
def SameCommand
    (table after : RoomTable)
    (requestId : Nat) : Prop :=
  after.pendingCommands[requestId]? = table.pendingCommands[requestId]? ∧
    after.commandWorkers[requestId]? = table.commandWorkers[requestId]? ∧
    after.unacknowledgedCommands[requestId]? =
      table.unacknowledgedCommands[requestId]?

/-- A cleanup command of a worker is outstanding under an id. -/
def CleanupAt
    (table : RoomTable)
    (instanceId : InstanceId)
    (requestId : Nat) : Prop :=
  table.pendingCommands[requestId]? = some .cleanup ∧
    table.commandWorkers[requestId]? = some instanceId ∧
    table.unacknowledgedCommands[requestId]?.isSome

/-! ## Leaves -/

section Leaves

variable
  (table : RoomTable)
  (roomId : RoomId)
  (instanceId : InstanceId)
  (connectionId : Sfu.ConnectionId)
  (requestId : Nat)
  (assignmentEpoch : Nat)
  (leaving : List (ClientId × Nat))

@[simp] theorem leaveAll_rooms :
    (leaveAll instanceId connectionId roomId assignmentEpoch leaving
      table).rooms = table.rooms := by
  induction leaving generalizing table with
  | nil => rfl
  | cons leave leaving inductionHypothesis => exact inductionHypothesis _

@[simp] theorem leaveAll_workers :
    (leaveAll instanceId connectionId roomId assignmentEpoch leaving
      table).workers = table.workers := by
  induction leaving generalizing table with
  | nil => rfl
  | cons leave leaving inductionHypothesis => exact inductionHypothesis _

@[simp] theorem leaveAll_lifecycleIds :
    (leaveAll instanceId connectionId roomId assignmentEpoch leaving
      table).lifecycleIds = table.lifecycleIds := by
  induction leaving generalizing table with
  | nil => rfl
  | cons leave leaving inductionHypothesis => exact inductionHypothesis _

@[simp] theorem leaveAll_reconnectGrace :
    (leaveAll instanceId connectionId roomId assignmentEpoch leaving
      table).reconnectGrace = table.reconnectGrace := by
  induction leaving generalizing table with
  | nil => rfl
  | cons leave leaving inductionHypothesis => exact inductionHypothesis _

/-- A leave adds nothing but a cleanup command of its own worker. -/
theorem leaveAll_command :
    let left := leaveAll instanceId connectionId roomId assignmentEpoch
      leaving table
    SameCommand table left requestId ∨ CleanupAt left instanceId requestId := by
  induction leaving generalizing table with
  | nil => exact Or.inl ⟨rfl, rfl, rfl⟩
  | cons leave leaving inductionHypothesis =>
      have tail := inductionHypothesis (table.issueCommand instanceId
        connectionId (.leave ⟨roomId, leave.1, leave.2, assignmentEpoch,
          .roomClosed⟩) .cleanup)
      simp only [leaveAll, List.foldl_cons, SameCommand, CleanupAt,
        issueCommand_pendingCommands, issueCommand_commandWorkers,
        issueCommand_unacknowledgedCommands] at tail ⊢
      rcases tail with same | added
      · by_cases fresh : requestId = table.nextSfuRequestId
        · exact Or.inr (by grind)
        · exact Or.inl (by grind)
      · exact Or.inr added

/-- Command ids never fall and stay within sixty-four bits. -/
theorem issueCommand_next_le
    (command : Sfu.CommandKind)
    (pending : PendingCommand)
    (bounded : table.nextSfuRequestId ≤ u64Max) :
    table.nextSfuRequestId ≤ (table.issueCommand instanceId connectionId
        command pending).nextSfuRequestId ∧
      (table.issueCommand instanceId connectionId command
        pending).nextSfuRequestId ≤ u64Max := by
  simp only [issueCommand_nextSfuRequestId, saturatingAdd, u64Max] at *
  omega

/-- Leaves do not touch the commands issued before them. -/
theorem leaveAll_older
    (bounded : table.nextSfuRequestId ≤ u64Max) :
    let left := leaveAll instanceId connectionId roomId assignmentEpoch
      leaving table
    table.nextSfuRequestId ≤ left.nextSfuRequestId ∧
      left.nextSfuRequestId ≤ u64Max ∧
      (requestId < table.nextSfuRequestId ->
        SameCommand table left requestId) := by
  induction leaving generalizing table with
  | nil => exact ⟨Nat.le_refl _, bounded, fun _ => ⟨rfl, rfl, rfl⟩⟩
  | cons leave leaving inductionHypothesis =>
      have grown := issueCommand_next_le table instanceId connectionId
        (.leave ⟨roomId, leave.1, leave.2, assignmentEpoch, .roomClosed⟩)
        .cleanup bounded
      obtain ⟨later, within, same⟩ := inductionHypothesis
        (table.issueCommand instanceId connectionId
          (.leave ⟨roomId, leave.1, leave.2, assignmentEpoch, .roomClosed⟩)
          .cleanup) grown.2
      refine ⟨Nat.le_trans grown.1 later, within, fun older => ?_⟩
      have same := same (Nat.lt_of_lt_of_le older grown.1)
      simp only [SameCommand, issueCommand_pendingCommands,
        issueCommand_commandWorkers,
        issueCommand_unacknowledgedCommands] at same ⊢
      simp only [leaveAll, List.foldl_cons] at same ⊢
      grind

/-- A leave's command is numbered below the counter, unless the counter has
reached its end. -/
theorem leaveAll_numbered
    (bounded : table.nextSfuRequestId ≤ u64Max) :
    let left := leaveAll instanceId connectionId roomId assignmentEpoch
      leaving table
    SameCommand table left requestId ∨ requestId < left.nextSfuRequestId ∨
      requestId = u64Max := by
  induction leaving generalizing table with
  | nil => exact Or.inl ⟨rfl, rfl, rfl⟩
  | cons leave leaving inductionHypothesis =>
      have grown := issueCommand_next_le table instanceId connectionId
        (.leave ⟨roomId, leave.1, leave.2, assignmentEpoch, .roomClosed⟩)
        .cleanup bounded
      have later := (leaveAll_older (table.issueCommand instanceId connectionId
        (.leave ⟨roomId, leave.1, leave.2, assignmentEpoch, .roomClosed⟩)
        .cleanup) roomId instanceId connectionId requestId assignmentEpoch
        leaving grown.2).1
      have tail := inductionHypothesis (table.issueCommand instanceId
        connectionId (.leave ⟨roomId, leave.1, leave.2, assignmentEpoch,
          .roomClosed⟩) .cleanup) grown.2
      by_cases issued : requestId = table.nextSfuRequestId
      · subst issued
        simp only [issueCommand_nextSfuRequestId, saturatingAdd] at later
        simp only [leaveAll, List.foldl_cons] at later ⊢
        omega
      · simp only [SameCommand, issueCommand_pendingCommands,
          issueCommand_commandWorkers,
          issueCommand_unacknowledgedCommands] at tail ⊢
        simp only [leaveAll, List.foldl_cons] at tail ⊢
        grind

/-- Each leave hands one command to the worker's connection, and nothing else
is queued. -/
theorem leaveAll_actions :
    ∃ leaves : List Action,
      (leaveAll instanceId connectionId roomId assignmentEpoch leaving
        table).actions = table.actions ++ leaves ∧
      (∀ action ∈ leaves, ∃ issuedId leave,
        action = .sfu (.command connectionId ⟨issuedId, .leave leave⟩)) ∧
      ∀ leave ∈ leaving, ∃ issuedId,
        .sfu (.command connectionId ⟨issuedId, .leave ⟨roomId, leave.1,
          leave.2, assignmentEpoch, .roomClosed⟩⟩) ∈ leaves := by
  induction leaving generalizing table with
  | nil => exact ⟨[], by simp [leaveAll], by simp, by simp⟩
  | cons leave leaving inductionHypothesis =>
      obtain ⟨leaves, queued, commands, issued⟩ := inductionHypothesis
        (table.issueCommand instanceId connectionId
          (.leave ⟨roomId, leave.1, leave.2, assignmentEpoch, .roomClosed⟩)
          .cleanup)
      refine ⟨.sfu (.command connectionId ⟨table.nextSfuRequestId,
        .leave ⟨roomId, leave.1, leave.2, assignmentEpoch, .roomClosed⟩⟩) ::
          leaves, ?_, ?_, ?_⟩
      · simpa [leaveAll] using queued
      · simp only [List.mem_cons, forall_eq_or_imp]
        exact ⟨⟨_, _, rfl⟩, commands⟩
      · simp only [List.mem_cons, forall_eq_or_imp]
        refine ⟨⟨_, Or.inl rfl⟩, fun other present => ?_⟩
        obtain ⟨issuedId, emitted⟩ := issued other present
        exact ⟨issuedId, Or.inr emitted⟩

/-- The leaves of joined clients are leaves of a prefix of them, of all of them
when each is still a member. -/
theorem leaveJoined_eq
    (joined : List ClientId) :
    ∃ left : List (ClientId × Nat),
      (leaveJoined instanceId connectionId roomId assignmentEpoch joined
        table).2 = leaveAll instanceId connectionId roomId assignmentEpoch
          left table ∧
      ((∀ clientId ∈ joined, (table.member? roomId clientId).isSome) ->
        (leaveJoined instanceId connectionId roomId assignmentEpoch joined
            table).1 = .ok () ∧
          ∀ clientId ∈ joined, ∀ member,
            table.member? roomId clientId = some member ->
            (clientId, member.lifecycleId) ∈ left) := by
  induction joined generalizing table with
  | nil => exact ⟨[], rfl, fun _ => ⟨rfl, by simp⟩⟩
  | cons clientId joined inductionHypothesis =>
      cases present : table.member? roomId clientId with
      | none =>
          refine ⟨[], by simp [leaveJoined, present, leaveAll], fun all => ?_⟩
          have missing := all clientId List.mem_cons_self
          simp [present] at missing
      | some member =>
          have same (otherId : ClientId) :
              (table.issueCommand instanceId connectionId
                (.leave ⟨roomId, clientId, member.lifecycleId,
                  assignmentEpoch, .roomClosed⟩) .cleanup).member? roomId
                    otherId = table.member? roomId otherId := rfl
          obtain ⟨left, equal, complete⟩ := inductionHypothesis
            (table.issueCommand instanceId connectionId
              (.leave ⟨roomId, clientId, member.lifecycleId, assignmentEpoch,
                .roomClosed⟩) .cleanup)
          refine ⟨(clientId, member.lifecycleId) :: left, ?_, fun all => ?_⟩
          · simpa [leaveJoined, present, leaveAll] using equal
          · simp only [same] at complete
            obtain ⟨succeeds, listed⟩ := complete fun otherId later =>
              all otherId (List.mem_cons_of_mem _ later)
            refine ⟨by simpa [leaveJoined, present] using succeeds,
              fun otherId listedId other found => ?_⟩
            rcases List.mem_cons.1 listedId with rfl | later
            · rw [present] at found
              cases found
              exact List.mem_cons_self
            · exact List.mem_cons_of_mem _ (listed otherId later other found)

end Leaves

/-! ## Release of a room -/

/-- A worker's record after one of its rooms has been taken from it. -/
def dischargeRoom
    (roomId : RoomId)
    (count : Nat)
    (worker : Worker) : Worker :=
  { worker with
    assignedRooms := worker.assignedRooms.erase roomId
    assignedClients := worker.assignedClients - count }

/-- The table after a room has been taken from its worker: the room is stored
as `released`, and the worker is asked to leave the listed clients if it is
connected. -/
structure Released
    (table : RoomTable)
    (roomId : RoomId)
    (instanceId : InstanceId)
    (assignmentEpoch count : Nat)
    (released : Room)
    (leavers : List ClientId)
    (answers : List Action)
    (after : RoomTable) : Prop where
  rooms : after.rooms = table.rooms.insert roomId released
  workers : after.workers =
    table.workers.modify instanceId (dischargeRoom roomId count)
  lifecycleIds : after.lifecycleIds = table.lifecycleIds
  reconnectGrace : after.reconnectGrace = table.reconnectGrace
  command : ∀ requestId,
    SameCommand table after requestId ∨ CleanupAt after instanceId requestId
  older : table.nextSfuRequestId ≤ u64Max ->
    table.nextSfuRequestId ≤ after.nextSfuRequestId ∧
      after.nextSfuRequestId ≤ u64Max ∧
      ∀ requestId < table.nextSfuRequestId, SameCommand table after requestId
  numbered : table.nextSfuRequestId ≤ u64Max -> ∀ requestId : Nat,
    SameCommand table after requestId ∨
      requestId < after.nextSfuRequestId ∨ requestId = u64Max
  actions : ∃ leaves,
    after.actions = table.actions ++ leaves ++ answers ∧
      (∀ action ∈ leaves, ∃ connectionId issuedId leave,
        table.connection? instanceId = some connectionId ∧
          action = .sfu (.command connectionId ⟨issuedId, .leave leave⟩)) ∧
      ∀ connectionId, table.connection? instanceId = some connectionId ->
        ∀ clientId ∈ leavers, ∀ member,
          released.members[clientId]? = some member -> ∃ issuedId,
            .sfu (.command connectionId ⟨issuedId, .leave ⟨roomId, clientId,
              member.lifecycleId, assignmentEpoch, .roomClosed⟩⟩) ∈ leaves
  leaves : ∃ connectionId left,
    (left ≠ [] -> table.connection? instanceId = some connectionId) ∧
      after = (leaveAll instanceId connectionId roomId assignmentEpoch left
        ((table.setRoom roomId released).modifyWorker instanceId
          (dischargeRoom roomId count))).pushActions answers

/-- Storing the room, discharging the worker, queueing the leaves of a
connected worker and answering releases the room. -/
theorem released_of_leaves
    (table : RoomTable)
    (roomId : RoomId)
    (instanceId : InstanceId)
    (assignmentEpoch count : Nat)
    (released : Room)
    (leavers : List ClientId)
    (answers : List Action)
    (connectionId : Sfu.ConnectionId)
    (left : List (ClientId × Nat))
    (silent : table.connection? instanceId = none -> left = [])
    (connected : ∀ current, table.connection? instanceId = some current ->
      current = connectionId)
    (complete : ∀ current, table.connection? instanceId = some current ->
      ∀ clientId ∈ leavers, ∀ member,
        released.members[clientId]? = some member ->
        (clientId, member.lifecycleId) ∈ left) :
    Released table roomId instanceId assignmentEpoch count released leavers
      answers ((leaveAll instanceId connectionId roomId assignmentEpoch left
        ((table.setRoom roomId released).modifyWorker instanceId
          (dischargeRoom roomId count))).pushActions answers) := by
  refine
    { rooms := by simp
      workers := by simp
      lifecycleIds := by simp
      reconnectGrace := by simp
      command := fun requestId => ?_
      older := fun bounded => ?_
      numbered := fun bounded requestId => ?_
      actions := ?_
      leaves := ⟨connectionId, left, fun some_left => ?_, rfl⟩ }
  · have left := leaveAll_command ((table.setRoom roomId
      released).modifyWorker instanceId (dischargeRoom roomId count)) roomId
        instanceId connectionId requestId assignmentEpoch left
    simpa [SameCommand, CleanupAt] using left
  · have bounds (requestId : Nat) := leaveAll_older ((table.setRoom roomId
      released).modifyWorker instanceId (dischargeRoom roomId count)) roomId
        instanceId connectionId requestId assignmentEpoch left bounded
    refine ⟨by simpa using (bounds 0).1, by simpa using (bounds 0).2.1, ?_⟩
    intro requestId older
    simpa [SameCommand] using (bounds requestId).2.2 older
  · have numbered := leaveAll_numbered ((table.setRoom roomId
      released).modifyWorker instanceId (dischargeRoom roomId count)) roomId
        instanceId connectionId requestId assignmentEpoch left bounded
    simpa [SameCommand] using numbered
  · obtain ⟨leaves, queued, commands, issued⟩ := leaveAll_actions
      ((table.setRoom roomId released).modifyWorker instanceId
        (dischargeRoom roomId count)) roomId instanceId connectionId
        assignmentEpoch left
    refine ⟨leaves, by rw [pushActions_actions, queued]; rfl,
      fun action present => ?_, ?_⟩
    · obtain ⟨issuedId, leave, rfl⟩ := commands action present
      cases current : table.connection? instanceId with
      | none =>
          have none_left := silent current
          subst none_left
          have empty : leaves = [] := by simpa [leaveAll] using queued
          simp [empty] at present
      | some _ =>
          exact ⟨connectionId, issuedId, leave, by rw [connected _ current], rfl⟩
    · intro current present clientId leaves_ member found
      obtain rfl := connected current present
      exact issued _ (complete current present clientId leaves_ member found)
  · cases current : table.connection? instanceId with
    | none => exact absurd (silent current) some_left
    | some _ => rw [connected _ current]

end RoomTable

namespace Room

/-- The room after its upgrade has been rolled back and its worker released. -/
def release (room : Room) (joiningClientId : ClientId) : Room :=
  { room.rollBack joiningClientId with assignedInstance := none }

end Room

namespace RoomTable

/-- The answer to the admission of an aborted upgrade. -/
def abortAnswer (upgrade : Upgrade) (reason : String) : Action :=
  .admissionCompleted upgrade.authorityRequestId
    (.error (if reason.isEmpty then "WORKER_UNAVAILABLE" else reason))

/-- The rollback of an upgrade whose room is assigned. -/
theorem abortUpgrade_eq
    (table : RoomTable)
    {roomId : RoomId}
    {room : Room}
    {upgrade : Upgrade}
    {instanceId : InstanceId}
    (reason : String)
    (found : table.rooms[roomId]? = some room)
    (upgrading : room.upgrade = some upgrade)
    (assigned : room.assignedInstance = some instanceId) :
    table.abortUpgrade roomId reason =
      match (match table.connection? instanceId with
        | none => (Except.ok (), (table.setRoom roomId (room.release
            upgrade.joiningClientId)).modifyWorker instanceId
              (dischargeRoom roomId 3))
        | some connectionId => leaveJoined instanceId connectionId roomId
            room.assignmentEpoch upgrade.joinedClients
            ((table.setRoom roomId (room.release
              upgrade.joiningClientId)).modifyWorker instanceId
                (dischargeRoom roomId 3))) with
      | (.error error, table) => (.error error, table)
      | (.ok (), table) =>
          (.ok (), table.pushAction (abortAnswer upgrade reason)) := by
  have kept : (room.rollBack upgrade.joiningClientId).assignedInstance =
    some instanceId := assigned
  simp only [abortUpgrade, found, upgrading, kept]
  rfl

/-- An abort releases the room and answers the admission, when every joined
client is still a member. -/
theorem abortUpgrade_released
    (table : RoomTable)
    {roomId : RoomId}
    {room : Room}
    {upgrade : Upgrade}
    {instanceId : InstanceId}
    (reason : String)
    (found : table.rooms[roomId]? = some room)
    (upgrading : room.upgrade = some upgrade)
    (assigned : room.assignedInstance = some instanceId) :
    ∃ leavers answers,
      Released table roomId instanceId room.assignmentEpoch 3
        (room.release upgrade.joiningClientId) leavers answers
        (table.abortUpgrade roomId reason).2 ∧
      (answers = [] ∨ answers = [abortAnswer upgrade reason]) ∧
      ((∀ clientId ∈ upgrade.joinedClients,
          clientId ≠ upgrade.joiningClientId ∧
            room.members[clientId]?.isSome) ->
        leavers = upgrade.joinedClients ∧
          answers = [abortAnswer upgrade reason] ∧
          (table.abortUpgrade roomId reason).1 = .ok ()) := by
  rw [abortUpgrade_eq table reason found upgrading assigned]
  cases current : table.connection? instanceId with
  | none =>
      exact ⟨upgrade.joinedClients, [abortAnswer upgrade reason],
        released_of_leaves table roomId instanceId room.assignmentEpoch 3
          (room.release upgrade.joiningClientId) upgrade.joinedClients
          [abortAnswer upgrade reason] 0 [] (fun _ => rfl) (by simp [current])
          (by simp [current]), Or.inr rfl, fun _ => ⟨rfl, rfl, rfl⟩⟩
  | some connectionId =>
      obtain ⟨left, equal, complete⟩ := leaveJoined_eq ((table.setRoom roomId
        (room.release upgrade.joiningClientId)).modifyWorker instanceId
          (dischargeRoom roomId 3)) roomId instanceId connectionId
          room.assignmentEpoch upgrade.joinedClients
      have present (clientId : ClientId) :
          ((table.setRoom roomId (room.release
            upgrade.joiningClientId)).modifyWorker instanceId
              (dischargeRoom roomId 3)).member? roomId clientId =
            (room.release upgrade.joiningClientId).members[clientId]? := by
        simp [member?]
      simp only [present] at complete
      dsimp only
      generalize leaveJoined instanceId connectionId roomId
        room.assignmentEpoch upgrade.joinedClients _ = outcome
        at equal complete
      obtain ⟨outcome, after⟩ := outcome
      simp only at equal complete
      subst equal
      have release (leavers : List ClientId) (answers : List Action)
          (listed : ∀ clientId ∈ leavers, ∀ member,
            (room.release upgrade.joiningClientId).members[clientId]? =
              some member -> (clientId, member.lifecycleId) ∈ left) :=
        released_of_leaves table roomId instanceId room.assignmentEpoch 3
          (room.release upgrade.joiningClientId) leavers answers connectionId
          left (by simp [current]) (by simp [current]) (fun _ _ => listed)
      cases outcome with
      | error error =>
          refine ⟨[], [], release [] [] (by simp), Or.inl rfl, fun all => ?_⟩
          have succeeds := (complete fun clientId joined => by
            have both := all clientId joined
            simp only [Room.release, Room.rollBack, Room.eraseMember]
            grind).1
          cases succeeds
      | ok =>
          by_cases all : ∀ clientId ∈ upgrade.joinedClients,
            clientId ≠ upgrade.joiningClientId ∧
              room.members[clientId]?.isSome
          · have listed := (complete fun clientId joined => by
              have both := all clientId joined
              simp only [Room.release, Room.rollBack, Room.eraseMember]
              grind).2
            exact ⟨_, _, release upgrade.joinedClients
              [abortAnswer upgrade reason] listed, Or.inr rfl,
              fun _ => ⟨rfl, rfl, rfl⟩⟩
          · exact ⟨_, _, release [] [abortAnswer upgrade reason] (by simp),
              Or.inr rfl, fun all' => absurd all' all⟩

/-- A downgrade releases the room with a leave for each of its members and
announces the new mode. -/
theorem commitDowngrade_released
    {table : RoomTable}
    {roomId : RoomId}
    {room : Room}
    {instanceId : InstanceId}
    {initiatorClientId : ClientId}
    {others : List ClientId}
    (order : VisitOrder)
    (found : table.rooms[roomId]? = some room)
    (assigned : room.assignedInstance = some instanceId)
    (clients : room.members.keys = initiatorClientId :: others) :
    Released table roomId instanceId room.assignmentEpoch room.members.size
      (room.commitP2p initiatorClientId) room.members.keys
      [.downgraded roomId (saturatingAdd room.signalEpoch 1) initiatorClientId
        room.members.keys]
      (table.commitDowngrade order roomId).2 := by
  let left := (order.visit (.members roomId) room.members.toList).map
    fun entry => (entry.1, entry.2.lifecycleId)
  have count : left.length = room.members.size := by simp [left]
  have listed (clientId : ClientId) (member : Member)
      (present : (room.commitP2p initiatorClientId).members[clientId]? =
        some member) :
      (clientId, member.lifecycleId) ∈ left := by
    simp only [Room.commitP2p, ExtTreeMap.getElem?_map, Option.map_eq_some_iff]
      at present
    obtain ⟨original, present, rfl⟩ := present
    exact List.mem_map.2 ⟨(clientId, original), by simpa using present, rfl⟩
  have downgrade : (table.commitDowngrade order roomId).2 =
      (match table.connection? instanceId with
        | none => (table.setRoom roomId (room.commitP2p
            initiatorClientId)).modifyWorker instanceId
              (dischargeRoom roomId left.length)
        | some connectionId => leaveAll instanceId connectionId roomId
            room.assignmentEpoch left ((table.setRoom roomId (room.commitP2p
              initiatorClientId)).modifyWorker instanceId
                (dischargeRoom roomId left.length))).pushActions
        [.downgraded roomId (saturatingAdd room.signalEpoch 1)
          initiatorClientId room.members.keys] := by
    simp only [commitDowngrade, found, clients, assigned]
    rfl
  rw [downgrade, count]
  cases current : table.connection? instanceId with
  | none =>
      exact released_of_leaves table roomId instanceId room.assignmentEpoch
        room.members.size _ _ _ 0 [] (fun _ => rfl) (by simp [current])
        (by simp [current])
  | some connectionId =>
      exact released_of_leaves table roomId instanceId room.assignmentEpoch
        room.members.size _ _ _ connectionId left (by simp [current])
        (by simp [current])
        (fun _ _ clientId _ member present => listed clientId member present)

/-! ## Upgrades -/

/-- The announcement of a committed upgrade and the answer to its admission. -/
def commitActions
    (order : VisitOrder)
    (roomId : RoomId)
    (room : Room)
    (upgrade : Upgrade)
    (joining : Member) : List Action :=
  [.upgraded roomId (saturatingAdd room.signalEpoch 1)
      ((room.clients order roomId).filter
        fun clientId => decide (clientId ≠ upgrade.joiningClientId)),
    .admissionCompleted upgrade.authorityRequestId (.ok
      { mode := .sfu
        signalEpoch := saturatingAdd room.signalEpoch 1
        admissionToken := joining.token
        isInitiator := none })]

theorem commitUpgrade_eq
    {table : RoomTable}
    {roomId : RoomId}
    {upgrade : Upgrade}
    (order : VisitOrder)
    (room : Room)
    (found : table.rooms[roomId]? = some room)
    (upgrading : room.upgrade = some upgrade) :
    table.commitUpgrade order roomId =
      match room.members[upgrade.joiningClientId]? with
      | none =>
          (.error "CLIENT_NOT_FOUND", table.setRoom roomId room.commitSfu)
      | some joining => (.ok (), (table.setRoom roomId
          room.commitSfu).pushActions
            (commitActions order roomId room upgrade joining)) := by
  have clients : room.commitSfu.clients order roomId =
      room.clients order roomId := by
    simp [Room.clients, Room.commitSfu]
  simp only [commitUpgrade, found, upgrading, clients]
  simp only [Room.commitSfu, ExtTreeMap.getElem?_map]
  cases room.members[upgrade.joiningClientId]? <;> rfl

/-- Asking for the next join either fails and changes nothing or issues exactly
that join. -/
theorem issueNextUpgradeJoin_cases
    (table : RoomTable)
    (roomId : RoomId) :
    (∃ error, table.issueNextUpgradeJoin roomId = (.error error, table)) ∨
      ∃ room upgrade clientId member instanceId connectionId,
        table.rooms[roomId]? = some room ∧
          room.upgrade = some upgrade ∧
          upgrade.orderedClients[upgrade.nextClient]? = some clientId ∧
          room.members[clientId]? = some member ∧
          room.assignedInstance = some instanceId ∧
          table.connection? instanceId = some connectionId ∧
          table.issueNextUpgradeJoin roomId =
            (.ok (), table.issueCommand instanceId connectionId
              (.join ⟨roomId, clientId, member.lifecycleId,
                room.assignmentEpoch⟩)
              (.upgradeJoin instanceId roomId clientId member.lifecycleId
                room.assignmentEpoch)) := by
  unfold issueNextUpgradeJoin
  split
  · exact Or.inl ⟨_, rfl⟩
  rename_i room found
  split
  · exact Or.inl ⟨_, rfl⟩
  rename_i upgrade upgrading
  split
  · exact Or.inl ⟨_, rfl⟩
  rename_i clientId next
  split
  · exact Or.inl ⟨_, rfl⟩
  rename_i member present
  split
  · exact Or.inl ⟨_, rfl⟩
  rename_i instanceId assigned
  split
  · exact Or.inl ⟨_, rfl⟩
  rename_i connectionId connected
  exact Or.inr ⟨room, upgrade, clientId, member, instanceId, connectionId,
    found, upgrading, next, present, assigned, connected, rfl⟩

theorem issueNextUpgradeJoin_ok
    {table : RoomTable}
    {roomId : RoomId}
    (room : Room)
    {upgrade : Upgrade}
    {clientId : ClientId}
    {member : Member}
    {instanceId : InstanceId}
    {connectionId : Sfu.ConnectionId}
    (found : table.rooms[roomId]? = some room)
    (upgrading : room.upgrade = some upgrade)
    (next : upgrade.orderedClients[upgrade.nextClient]? = some clientId)
    (present : room.members[clientId]? = some member)
    (assigned : room.assignedInstance = some instanceId)
    (connected : table.connection? instanceId = some connectionId) :
    table.issueNextUpgradeJoin roomId =
      (.ok (), table.issueCommand instanceId connectionId
        (.join ⟨roomId, clientId, member.lifecycleId, room.assignmentEpoch⟩)
        (.upgradeJoin instanceId roomId clientId member.lifecycleId
          room.assignmentEpoch)) := by
  simp [issueNextUpgradeJoin, found, upgrading, next, present, assigned,
    connected]

end RoomTable

namespace Room

/-- The room with other lifecycle ids. -/
def relive (room : Room) (lifecycle : ClientId -> Nat) : Room :=
  { room with
    members := room.members.map fun clientId member =>
      { member with lifecycleId := lifecycle clientId } }

end Room

namespace RoomTable

/-- Fresh lifecycle ids change nothing but the lifecycle ids. -/
theorem freshLifecycles_eq
    (roomId : RoomId)
    (room : Room)
    (clients : List ClientId)
    (table : RoomTable)
    (found : table.rooms[roomId]? = some room) :
    ∃ lifecycle counters,
      freshLifecycles roomId clients table =
        { table.setRoom roomId (room.relive lifecycle) with
          lifecycleIds := counters } := by
  induction clients generalizing table room with
  | nil =>
      refine ⟨fun clientId => (room.members[clientId]?.map
        Member.lifecycleId).getD 0, table.lifecycleIds, ?_⟩
      have kept : (room.relive fun clientId => (room.members[clientId]?.map
          Member.lifecycleId).getD 0) = room := by
        have members : (room.members.map fun clientId member =>
            { member with
              lifecycleId := (room.members[clientId]?.map
                Member.lifecycleId).getD 0 }) = room.members := by
          apply ExtTreeMap.ext_getElem?
          intro clientId
          cases present : room.members[clientId]? <;> simp [present]
        simp [Room.relive, members]
      rw [kept, setRoom_self table roomId found]
      rfl
  | cons clientId clients inductionHypothesis =>
      obtain ⟨value, counters, allocated⟩ : ∃ value counters,
          table.nextLifecycle roomId clientId =
            (value, { table with lifecycleIds := counters }) := ⟨_, _, rfl⟩
      obtain ⟨lifecycle, later, equal⟩ := inductionHypothesis
        (room.modifyMember clientId fun member =>
          { member with lifecycleId := value })
        ({ table with
          lifecycleIds := counters
          rooms := table.rooms.modify roomId fun room =>
            room.modifyMember clientId fun member =>
              { member with lifecycleId := value } }) (by grind)
      refine ⟨lifecycle, later, ?_⟩
      have members : (room.modifyMember clientId fun member =>
          { member with lifecycleId := value }).relive lifecycle =
            room.relive lifecycle := by
        have same : (room.members.modify clientId fun member =>
            { member with lifecycleId := value }).map
              (fun clientId member =>
                { member with lifecycleId := lifecycle clientId }) =
            room.members.map fun clientId member =>
                { member with lifecycleId := lifecycle clientId } := by
          apply ExtTreeMap.ext_getElem?
          intro otherId
          by_cases otherId = clientId <;> grind
        simp [Room.relive, Room.modifyMember, same]
      rw [members] at equal
      simp only [freshLifecycles, allocated]
      rw [equal]
      have rooms : (table.rooms.modify roomId fun room =>
          room.modifyMember clientId fun member =>
            { member with lifecycleId := value }).insert roomId
              (room.relive lifecycle) =
          table.rooms.insert roomId (room.relive lifecycle) := by
        apply ExtTreeMap.ext_getElem?
        grind
      simp [setRoom, rooms]

theorem freshLifecycles_setRoom
    (table : RoomTable)
    (roomId : RoomId)
    (room : Room)
    (clients : List ClientId) :
    ∃ lifecycle counters,
      freshLifecycles roomId clients (table.setRoom roomId room) =
        ({ table with lifecycleIds := counters }).setRoom roomId
          (room.relive lifecycle) := by
  obtain ⟨lifecycle, counters, lived⟩ := freshLifecycles_eq roomId room clients
    (table.setRoom roomId room) (by simp)
  refine ⟨lifecycle, counters, ?_⟩
  rw [lived, setRoom_setRoom]
  rfl

/-- What a worker needs in order to take more clients in one more room. -/
theorem Worker.takes_iff
    {worker : Worker}
    {count : Nat} :
    worker.takes count = true ↔
      (∃ health, worker.health = some health ∧ health.state = .ready) ∧
        worker.connectionId.isSome ∧
        worker.assignedRooms.size < worker.capacity.maxRooms ∧
        saturatingAdd worker.assignedClients count ≤
          worker.capacity.maxClients := by
  unfold Worker.takes
  cases worker.health with
  | none => simp
  | some health =>
      simp only [Bool.and_eq_true, decide_eq_true_eq]
      constructor
      · rintro ⟨⟨⟨connected, ready⟩, rooms⟩, clients⟩
        exact ⟨⟨health, rfl, ready⟩, connected, rooms, clients⟩
      · rintro ⟨⟨_, ⟨⟩, ready⟩, connected, rooms, clients⟩
        exact ⟨⟨⟨connected, ready⟩, rooms⟩, clients⟩

/-- What the choice of a worker compares: clients, rooms, instance id. -/
def Worker.load (entry : InstanceId × Worker) : ℕ ×ₗ ℕ ×ₗ InstanceId :=
  toLex (entry.2.assignedClients,
    toLex (entry.2.assignedRooms.size, entry.1))

theorem Worker.lighter_iff (left right : InstanceId × Worker) :
    Worker.lighter left right = true ↔
      Worker.load left < Worker.load right := by
  unfold Worker.lighter Worker.load
  rw [Prod.Lex.toLex_lt_toLex, Prod.Lex.toLex_lt_toLex]
  split
  · next clients => simp [clients]
  · next clients =>
      split
      · next rooms => simp_all
      · next rooms => simp_all

theorem Worker.clients_le_of_load_le
    {left right : InstanceId × Worker}
    (less : Worker.load left ≤ Worker.load right) :
    left.2.assignedClients ≤ right.2.assignedClients := by
  rcases Prod.Lex.toLex_le_toLex.1 less with fewer | same
  · exact fewer.le
  · exact same.1.le

/-- A selected worker takes the clients, and none that does so is less loaded. -/
theorem least_of_selectWorker
    {table : RoomTable}
    {count : Nat}
    {instanceId : InstanceId}
    (selected : table.selectWorker count = some instanceId) :
    ∃ worker, table.workers[instanceId]? = some worker ∧
      worker.takes count = true ∧
      ∀ (otherId : InstanceId) (other : Worker),
        table.workers[otherId]? = some other -> other.takes count = true ->
        Worker.load (instanceId, worker) ≤ Worker.load (otherId, other) := by
  simp only [RoomTable.selectWorker] at selected
  split at selected
  · cases selected
  · next first rest candidates =>
      obtain ⟨chosen, least⟩ :=
        foldl_least Worker.load Worker.lighter_iff rest first
      rw [← candidates] at chosen least
      generalize rest.foldl _ first = entry at chosen least selected
      obtain ⟨chosenId, worker⟩ := entry
      obtain rfl := Option.some.inj selected
      have taken : table.workers[chosenId]? = some worker ∧
          worker.takes count = true := by simpa using chosen
      exact ⟨worker, taken.1, taken.2, fun otherId other known takes =>
        least (otherId, other) (by simpa using ⟨known, takes⟩)⟩

/-- A selected worker takes the clients. -/
theorem takes_of_selectWorker
    {table : RoomTable}
    {count : Nat}
    {instanceId : InstanceId}
    (selected : table.selectWorker count = some instanceId) :
    ∃ worker, table.workers[instanceId]? = some worker ∧
      worker.takes count = true := by
  obtain ⟨worker, known, takes, -⟩ := least_of_selectWorker selected
  exact ⟨worker, known, takes⟩

/-- A selected worker is connected. -/
theorem connection_of_selectWorker
    {table : RoomTable}
    {count : Nat}
    {instanceId : InstanceId}
    (selected : table.selectWorker count = some instanceId) :
    ∃ connectionId, table.connection? instanceId = some connectionId := by
  obtain ⟨worker, known, takes⟩ := takes_of_selectWorker selected
  obtain ⟨-, connected, -⟩ := Worker.takes_iff.1 takes
  obtain ⟨connectionId, current⟩ := Option.isSome_iff_exists.1 connected
  exact ⟨connectionId, by simp [connection?, known, current]⟩

/-- A worker's record after one more room has been given to it. -/
def chargeRoom
    (roomId : RoomId)
    (worker : Worker) : Worker :=
  { worker with
    assignedRooms := worker.assignedRooms.insert roomId
    assignedClients := saturatingAdd worker.assignedClients 3 }

end RoomTable

namespace Room

/-- The room once the upgrade for its third member has begun. -/
def startUpgrade
    (room : Room)
    (authorityRequestId : Nat)
    (clientId : ClientId)
    (member : Member)
    (lifecycle : ClientId -> Nat)
    (instanceId : InstanceId) : Room :=
  { (room.insertMember clientId member).relive lifecycle with
    mode := .upgrading
    assignmentEpoch := saturatingAdd room.assignmentEpoch 1
    assignedInstance := some instanceId
    upgrade := some
      { authorityRequestId := authorityRequestId
        joiningClientId := clientId
        orderedClients :=
          RoomTable.upgradeOrder (room.insertMember clientId member) clientId
        joinedClients := []
        nextClient := 0 } }

end Room

namespace RoomTable

/-- The upgrade of a full room stores the upgrading room, charges the selected
worker and asks for the first join. -/
theorem beginUpgrade_eq
    {table : RoomTable}
    {room : Room}
    {clientId : ClientId}
    {instanceId : InstanceId}
    (authorityRequestId : Nat)
    (now : Instant)
    (token : String)
    (roomId : RoomId)
    (fresh : room.members.contains clientId = false)
    (full : ¬room.members.size < maxP2pMembers)
    (selected : table.selectWorker 3 = some instanceId) :
    ∃ lifecycle counters lifecycleId first joining connectionId,
      let upgraded := room.startUpgrade authorityRequestId clientId
        (newMember now table.reconnectGrace token false lifecycleId) lifecycle
        instanceId
      (upgradeOrder (room.insertMember clientId (newMember now
        table.reconnectGrace token false lifecycleId)) clientId)[0]? =
          some first ∧
        upgraded.members[first]? = some joining ∧
        table.connection? instanceId = some connectionId ∧
        table.beginUpgrade authorityRequestId now roomId room clientId token
          instanceId =
          (.ok .pending, ((({ table with
              lifecycleIds := counters }).setRoom roomId
              upgraded).modifyWorker instanceId
                (chargeRoom roomId)).issueCommand instanceId connectionId
              (.join ⟨roomId, first, joining.lifecycleId,
                upgraded.assignmentEpoch⟩)
              (.upgradeJoin instanceId roomId first joining.lifecycleId
                upgraded.assignmentEpoch)) := by
  obtain ⟨connectionId, connected⟩ := connection_of_selectWorker selected
  let lifecycleId := (table.nextLifecycle roomId clientId).1
  let member := newMember now table.reconnectGrace token false lifecycleId
  let ordered := upgradeOrder (room.insertMember clientId member) clientId
  obtain ⟨lifecycle, later, lived⟩ := freshLifecycles_setRoom
    (table.nextLifecycle roomId clientId).2 roomId
    { room.insertMember clientId member with
      mode := .upgrading
      assignmentEpoch := saturatingAdd room.assignmentEpoch 1
      assignedInstance := some instanceId }
    (ordered.filter fun candidate => decide (candidate ≠ clientId))
  have occupied : ∃ other ∈ room.members, other ≠ clientId := by
    obtain ⟨other, present⟩ : ∃ other, other ∈ room.members.keys := by
      apply List.exists_mem_of_length_pos
      simp only [maxP2pMembers] at full
      simp only [ExtTreeMap.length_keys]
      omega
    refine ⟨other, by simpa using present, ?_⟩
    rintro rfl
    simp at present
    grind
  obtain ⟨first, head, present⟩ : ∃ first, ordered[0]? = some first ∧
      first ∈ (room.insertMember clientId member).members := by
    obtain ⟨other, inside, different⟩ := occupied
    cases candidates : (room.insertMember clientId member).members.keys.filter
        fun candidate => decide (candidate ≠ clientId) with
    | nil =>
        have none_left := List.filter_eq_nil_iff.1 candidates other
          (by simp [inside])
        simp [different] at none_left
    | cons first rest =>
        have inside : first ∈ (room.insertMember clientId
            member).members.keys.filter
              fun candidate => decide (candidate ≠ clientId) := by
          rw [candidates]
          exact List.mem_cons_self
        have head : ordered = first :: (rest ++ [clientId]) := by
          simp only [ordered, upgradeOrder, candidates, List.cons_append]
        exact ⟨first, by rw [head]; rfl,
          by simpa using (List.mem_filter.1 inside).1⟩
  obtain ⟨joining, found⟩ : ∃ joining, (room.startUpgrade authorityRequestId
      clientId member lifecycle instanceId).members[first]? = some joining := by
    apply Option.isSome_iff_exists.1
    simp only [Room.startUpgrade, Room.relive, ExtTreeMap.getElem?_map,
      Option.isSome_map]
    grind
  refine ⟨lifecycle, later, lifecycleId, first, joining, connectionId, head,
    found, connected, ?_⟩
  have next : (((({ table with lifecycleIds := later }).setRoom roomId
      (room.startUpgrade authorityRequestId clientId member lifecycle
        instanceId)).modifyWorker instanceId
          (chargeRoom roomId)).issueNextUpgradeJoin roomId) = _ :=
    issueNextUpgradeJoin_ok
      (room.startUpgrade authorityRequestId clientId member lifecycle
        instanceId) (by simp) rfl head found rfl
      ((connection?_modifyWorker _ instanceId instanceId
        (chargeRoom roomId) fun _ => rfl).trans connected)
  let attach (table : RoomTable) :=
    match RoomTable.issueNextUpgradeJoin (({ table with
      rooms := table.rooms.modify roomId fun room =>
        { room with
          upgrade := some
            { authorityRequestId := authorityRequestId
              joiningClientId := clientId
              orderedClients := ordered
              joinedClients := []
              nextClient := 0 } } } : RoomTable).modifyWorker instanceId
        (chargeRoom roomId)) roomId with
    | (.error error, table) => (Except.error error, table)
    | (.ok (), table) => (.ok AdmissionResult.pending, table)
  have begun : table.beginUpgrade authorityRequestId now roomId room clientId
      token instanceId = attach (freshLifecycles roomId
        (ordered.filter fun candidate => decide (candidate ≠ clientId))
        ((table.nextLifecycle roomId clientId).2.setRoom roomId
          { room.insertMember clientId member with
            mode := .upgrading
            assignmentEpoch := saturatingAdd room.assignmentEpoch 1
            assignedInstance := some instanceId })) := rfl
  rw [begun, lived]
  simp only [attach]
  rw [modify_setRoom]
  exact congrArg (fun outcome : Except String Unit × RoomTable =>
    match outcome with
    | (.error error, table) => (Except.error error, table)
    | (.ok (), table) => (.ok AdmissionResult.pending, table)) next

/-! ## Leaves and joins of an SFU room -/

/-- A worker's record after one of its members has left. -/
def dischargeMember
    (roomId : RoomId)
    (last : Bool)
    (worker : Worker) : Worker :=
  { worker with
    assignedClients := worker.assignedClients - 1
    assignedRooms :=
      if last then worker.assignedRooms.erase roomId
      else worker.assignedRooms }

/-- A worker's record after a member has joined. -/
def chargeMember (worker : Worker) : Worker :=
  { worker with assignedClients := saturatingAdd worker.assignedClients 1 }

end RoomTable

namespace Room

/-- The room after a member's leave has been confirmed. -/
def afterLeave
    (room : Room)
    (clientId : ClientId)
    (deadline : Option Instant) : Room :=
  { room.eraseMember clientId with
    pendingLeave := none
    downgradeDeadline := deadline }

/-- The test of `isDowngradeEligible` on a stored room. -/
def eligible (room : Room) : Bool :=
  room.mode = .sfu
    && !room.members.isEmpty
    && room.members.size ≤ maxP2pMembers
    && room.upgrade.isNone
    && room.pendingJoin.isNone
    && room.pendingLeave.isNone

theorem eligible_iff (room : Room) :
    room.eligible = true ↔
      room.mode = .sfu ∧ room.members.isEmpty = false ∧
        room.members.size ≤ 2 ∧ room.upgrade = none ∧
        room.pendingJoin = none ∧ room.pendingLeave = none := by
  simp only [eligible, Bool.and_eq_true, decide_eq_true_eq,
    Bool.not_eq_true', Option.isNone_iff_eq_none, and_assoc]
  exact Iff.rfl

end Room

namespace RoomTable

theorem isDowngradeEligible_eq
    (roomId : RoomId)
    (table : RoomTable)
    {room : Room}
    (found : table.rooms[roomId]? = some room) :
    table.isDowngradeEligible roomId = room.eligible := by
  simp [isDowngradeEligible, found, Room.eligible]

/-- Arming the dwell changes nothing but the deadline, and an eligible room has
one afterwards. -/
theorem armDowngrade_eq
    (roomId : RoomId)
    (room : Room)
    (table : RoomTable)
    (now : Instant)
    (found : table.rooms[roomId]? = some room) :
    ∃ deadline, (room.eligible = true ↔ deadline.isSome = true) ∧
      table.armDowngrade roomId now =
        table.setRoom roomId { room with downgradeDeadline := deadline } := by
  have kept : table.setRoom roomId
      { room with downgradeDeadline := room.downgradeDeadline } = table :=
    setRoom_self table roomId found
  simp only [armDowngrade, found, isDowngradeEligible_eq roomId table found]
  split
  · rename_i eligible
    split
    · exact ⟨_, iff_of_true eligible rfl, rfl⟩
    · rename_i armed
      exact ⟨room.downgradeDeadline, iff_of_true eligible (by
        simpa [Option.isSome_iff_ne_none] using armed), kept.symm⟩
  · rename_i ineligible
    exact ⟨none, iff_of_false ineligible (by simp), rfl⟩

/-- A confirmed leave drops the member, and the room with its last one; a room
that is small enough afterwards has a deadline. -/
theorem completeLeave_eq
    (table : RoomTable)
    (instanceId : InstanceId)
    (roomId : RoomId)
    (room : Room)
    (clientId : ClientId)
    (pendingLeave : PendingLeave)
    (now : Instant) :
    ∃ deadline,
      ((room.afterLeave clientId deadline).eligible = true ↔
        deadline.isSome = true) ∧
      table.completeLeave instanceId roomId room clientId pendingLeave now =
        ((if (room.members.erase clientId).isEmpty then table.dropRoom roomId
          else table.setRoom roomId
            (room.afterLeave clientId deadline)).modifyWorker instanceId
              (dischargeMember roomId
                (room.members.erase clientId).isEmpty)).pushActions
          (removalActions pendingLeave roomId clientId (.ok ())) := by
  simp only [completeLeave, removalAnswer_eq]
  cases last : (room.members.erase clientId).isEmpty with
  | true =>
      refine ⟨none, iff_of_false (fun eligible => ?_) (by simp), ?_⟩
      · simp [Room.eligible_iff, Room.afterLeave, Room.eraseMember, last]
          at eligible
      simp only [Room.eraseMember, last, if_true, pushActions_eq, dropRoom,
        setRoom, modifyWorker]
      congr 1
      apply ExtTreeMap.ext_getElem?
      grind
  | false =>
      obtain ⟨deadline, scheduled, armed⟩ := armDowngrade_eq roomId
        { room.eraseMember clientId with pendingLeave := none }
        ((((table.setRoom roomId { room.eraseMember clientId with
            pendingLeave := none }).modifyWorker instanceId
              (dischargeMember roomId false))).pushActions
          (removalActions pendingLeave roomId clientId (.ok ()))) now
        (by simp)
      refine ⟨deadline, scheduled, ?_⟩
      have workers : (fun worker : Worker =>
          { worker with
            assignedClients := worker.assignedClients - 1
            assignedRooms := if false = true then
                worker.assignedRooms.erase roomId
              else worker.assignedRooms }) = dischargeMember roomId false := rfl
      simp only [Room.eraseMember, last] at armed ⊢
      rw [workers]
      simp only [Bool.false_eq_true, if_false]
      rw [armed]
      simp only [pushActions_eq, setRoom, modifyWorker, Room.afterLeave,
        Room.eraseMember]
      congr 1
      apply ExtTreeMap.ext_getElem?
      grind

/-- A confirmed join charges the worker and answers the admission when the
joined client is a member. -/
theorem completeJoin_eq
    (table : RoomTable)
    (instanceId : InstanceId)
    (roomId : RoomId)
    (room : Room)
    (clientId : ClientId)
    (pendingJoin : PendingJoin) :
    table.completeJoin instanceId roomId room clientId pendingJoin =
      match room.members[clientId]? with
      | none => (.error "CLIENT_NOT_FOUND", (table.setRoom roomId
          { room with pendingJoin := none }).modifyWorker instanceId
            chargeMember)
      | some member => (.ok (), ((table.setRoom roomId
          { room with pendingJoin := none }).modifyWorker instanceId
            chargeMember).pushAction
          (.admissionCompleted pendingJoin.authorityRequestId (.ok
            { mode := .sfu
              signalEpoch := room.signalEpoch
              admissionToken := member.token
              isInitiator := none }))) := by
  unfold completeJoin
  cases room.members[clientId]? <;> rfl

end RoomTable

end V2
end Signaling
