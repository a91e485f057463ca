import Signaling.V2.Effects

/-!
# The shape of the table

What holds of every table that any run reaches, whatever the workers answer and
however often rooms fail: which transition records a room of each mode carries,
who its members are during an upgrade, and that a worker waits for its
reconnection only while it has no connection.
-/

namespace Signaling
namespace V2

open Std (ExtTreeMap ExtTreeSet)

/-- An upgrade joins three distinct clients, the new one last. -/
structure Upgrade.WellFormed (upgrade : Upgrade) : Prop where
  three : upgrade.orderedClients.length = 3
  distinct : upgrade.orderedClients.Nodup
  last : upgrade.orderedClients.getLast? = some upgrade.joiningClientId
  next : upgrade.nextClient < 3

/-- The records of a room agree with its mode. -/
structure Room.WellFormed (room : Room) : Prop where
  direct : room.mode = .p2p ->
    room.members.size ≤ maxP2pMembers ∧ room.assignedInstance = none ∧
      room.upgrade = none ∧ room.pendingJoin = none ∧ room.pendingLeave = none
  forwarded : room.mode = .sfu ->
    room.assignedInstance.isSome ∧ room.upgrade = none
  upgrading : room.mode = .upgrading -> ∃ upgrade,
    room.upgrade = some upgrade ∧
      (∀ clientId ∈ upgrade.orderedClients,
        room.members[clientId]?.isSome) ∧
      ∀ member, room.members[upgrade.joiningClientId]? = some member ->
        member.registered = false
  upgrade : ∀ upgrade, room.upgrade = some upgrade ->
    upgrade.WellFormed ∧ (room.mode = .upgrading ∨ room.mode = .failed) ∧
      room.assignedInstance.isSome ∧ room.pendingJoin = none ∧
      room.pendingLeave = none ∧
      ∀ clientId, room.members[clientId]?.isSome ->
        clientId ∈ upgrade.orderedClients
  waiting : ∀ (clientId : ClientId) (member : Member),
    room.members[clientId]? = some member -> member.registered = true -> member.reconnectDeadline = none

namespace Room

/-- A room whose members all occur in a list has no more members than it. -/
theorem size_le_of_subset
    (members : ExtTreeMap ClientId Member)
    (clients : List ClientId)
    (listed : ∀ clientId, members[clientId]?.isSome -> clientId ∈ clients) :
    members.size ≤ clients.length := by
  rw [← ExtTreeMap.length_keys]
  refine (ExtTreeMap.nodup_keys.subperm fun clientId present => ?_).length_le
  exact listed clientId (by simpa using present)

namespace WellFormed

variable
  {room : Room}
  {clientId : ClientId}
  {member : Member}

/-- Replacing a present member, without registering a joining client, keeps the
shape. -/
theorem replaceMember
    {former : Member}
    (wellFormed : room.WellFormed)
    (member : Member)
    (present : room.members[clientId]? = some former)
    (settled : room.mode = .upgrading -> member.registered = true ->
      former.registered = true)
    (waiting : member.registered = true -> member.reconnectDeadline = none) :
    (room.insertMember clientId member).WellFormed := by
  obtain ⟨direct, forwarded, upgrading, upgrade, waits⟩ := wellFormed
  constructor <;> simp only [Room.insertMember] at *
  all_goals grind

/-- Erasing a member of a room that is not upgrading keeps the shape. -/
theorem eraseMember
    (wellFormed : room.WellFormed)
    (clientId : ClientId)
    (settled : room.mode ≠ .upgrading) :
    (room.eraseMember clientId).WellFormed := by
  obtain ⟨direct, forwarded, upgrading, upgrade, waits⟩ := wellFormed
  constructor <;> simp only [Room.eraseMember] at *
  all_goals grind

/-- Setting the deadline of the dwell keeps the shape. -/
theorem setDeadline
    (wellFormed : room.WellFormed)
    (deadline : Option Instant) :
    { room with downgradeDeadline := deadline }.WellFormed :=
  { wellFormed with }

/-- A join or a leave may begin in an SFU room. -/
theorem setPending
    (wellFormed : room.WellFormed)
    (forwarded : room.mode = .sfu)
    (pendingJoin : Option PendingJoin)
    (pendingLeave : Option PendingLeave) :
    { room with
      pendingJoin := pendingJoin
      pendingLeave := pendingLeave }.WellFormed := by
  obtain ⟨direct, settled, upgrading, upgrade, waits⟩ := wellFormed
  constructor <;> grind

/-- A pending join or leave may end in any mode. -/
theorem clearPending
    (wellFormed : room.WellFormed)
    (pendingJoin : Option PendingJoin)
    (pendingLeave : Option PendingLeave)
    (joinCleared : pendingJoin = none ∨ pendingJoin = room.pendingJoin)
    (leaveCleared : pendingLeave = none ∨ pendingLeave = room.pendingLeave) :
    { room with
      pendingJoin := pendingJoin
      pendingLeave := pendingLeave }.WellFormed := by
  obtain ⟨direct, settled, upgrading, upgrade, waits⟩ := wellFormed
  constructor <;> grind

/-- A further member is unregistered and fits into a P2P room with space or an
SFU room. -/
theorem insertNew
    (wellFormed : room.WellFormed)
    (member : Member)
    (fresh : room.members.contains clientId = false)
    (unregistered : member.registered = false)
    (space : room.mode = .sfu ∨
      room.mode = .p2p ∧ room.members.size < maxP2pMembers) :
    (room.insertMember clientId member).WellFormed := by
  obtain ⟨direct, forwarded, upgrading, upgrade, waits⟩ := wellFormed
  constructor <;> simp only [Room.insertMember] at *
  all_goals grind

theorem create
    (unregistered : member.registered = false) :
    (Room.create clientId member).WellFormed := by
  constructor <;> simp only [Room.create, maxP2pMembers]
  all_goals grind

/-- Changing members in place, without registering any, keeps the shape. -/
theorem mapMembers
    (wellFormed : room.WellFormed)
    (update : ClientId -> Member -> Member)
    (registered : ∀ clientId member,
      (update clientId member).registered = member.registered)
    (waiting : ∀ clientId member,
      (update clientId member).reconnectDeadline = member.reconnectDeadline) :
    { room with members := room.members.map update }.WellFormed := by
  obtain ⟨direct, forwarded, upgrading, upgrade, waits⟩ := wellFormed
  constructor <;> grind

theorem failed
    (wellFormed : room.WellFormed) :
    { room with mode := .failed }.WellFormed := by
  obtain ⟨direct, forwarded, upgrading, upgrade, waits⟩ := wellFormed
  constructor <;> grind

theorem fail
    (wellFormed : room.WellFormed)
    (settled : room.mode ≠ .upgrading) :
    room.fail.WellFormed := by
  have cleared := wellFormed.clearPending none none (Or.inl rfl) (Or.inl rfl)
  cases joining : room.pendingJoin with
  | none => simpa [Room.fail, joining] using cleared.failed
  | some join =>
      have erased := cleared.eraseMember join.clientId settled
      simpa [Room.fail, joining, Room.eraseMember] using erased.failed

theorem advanceUpgrade
    {upgrade : Upgrade}
    (wellFormed : room.WellFormed)
    (upgrading : room.upgrade = some upgrade)
    (unfinished : upgrade.nextClient + 1 ≠ upgrade.orderedClients.length)
    (joined : ClientId) :
    (room.advanceUpgrade upgrade joined).WellFormed := by
  obtain ⟨direct, forwarded, transition, records, waits⟩ := wellFormed
  have shape := (records upgrade upgrading).1
  have three := shape.three
  have bound := shape.next
  have advanced : Upgrade.WellFormed
      { upgrade with
        joinedClients := upgrade.joinedClients ++ [joined]
        nextClient := upgrade.nextClient + 1 } :=
    { shape with next := by simp only; omega }
  constructor <;> simp only [Room.advanceUpgrade] <;> grind

theorem commitSfu
    {upgrade : Upgrade}
    (wellFormed : room.WellFormed)
    (upgrading : room.upgrade = some upgrade) :
    room.commitSfu.WellFormed := by
  have assigned := (wellFormed.upgrade upgrade upgrading).2.2.1
  have waits := wellFormed.waiting
  constructor <;> simp only [Room.commitSfu] <;> grind

/-- A rolled back room has at most the two members that it had before. -/
theorem release
    {upgrade : Upgrade}
    (wellFormed : room.WellFormed)
    (upgrading : room.upgrade = some upgrade) :
    (room.release upgrade.joiningClientId).WellFormed := by
  obtain ⟨shape, -, -, noJoin, noLeave, listed⟩ :=
    wellFormed.upgrade upgrade upgrading
  have waits := wellFormed.waiting
  have size : (room.members.erase upgrade.joiningClientId).size ≤
      maxP2pMembers := by
    have bound := size_le_of_subset
      (room.members.erase upgrade.joiningClientId)
      (upgrade.orderedClients.erase upgrade.joiningClientId)
      (fun clientId present => by
        have distinct := shape.distinct
        rw [distinct.mem_erase_iff]
        grind)
    rw [List.length_erase_of_mem
      (List.mem_of_getLast? shape.last), shape.three] at bound
    exact bound
  constructor <;>
    simp only [Room.release, Room.rollBack, Room.eraseMember] <;> grind

theorem commitP2p
    (wellFormed : room.WellFormed)
    (forwarded : room.mode = .sfu)
    (small : room.members.size ≤ maxP2pMembers)
    (noJoin : room.pendingJoin = none)
    (noLeave : room.pendingLeave = none)
    (initiatorClientId : ClientId) :
    (room.commitP2p initiatorClientId).WellFormed := by
  have settled := (wellFormed.forwarded forwarded).2
  have waits := wellFormed.waiting
  constructor <;> simp only [Room.commitP2p] <;> grind

/-- Promoting a survivor changes no registration. -/
theorem promoteSurvivor
    (wellFormed : room.WellFormed)
    (roomId : RoomId) :
    (V2.promoteSurvivor roomId room).2.WellFormed := by
  unfold V2.promoteSurvivor
  split
  · exact wellFormed
  split
  · exact wellFormed
  rename_i clientId member rest listed
  have present : room.members[clientId]? = some member := by
    have inside : (clientId, member) ∈ room.members.toList := by
      rw [listed]
      exact List.mem_cons_self
    simpa using inside
  have replaced := wellFormed.replaceMember ({ member with
    isInitiator := true
    queuedMessages := [] }) present (fun _ registered => registered)
    (wellFormed.waiting clientId member present)
  dsimp only
  split <;> exact replaced

theorem eraseMembers
    (wellFormed : room.WellFormed)
    (settled : room.mode ≠ .upgrading)
    (clients : List ClientId) :
    (room.eraseMembers clients).WellFormed := by
  induction clients generalizing room with
  | nil => exact wellFormed
  | cons clientId clients inductionHypothesis =>
      exact inductionHypothesis (wellFormed.eraseMember _ settled) settled

theorem expireMembers
    (wellFormed : room.WellFormed)
    (settled : room.mode ≠ .upgrading)
    (roomId : RoomId)
    (now : Instant) :
    (room.expireMembers roomId now).2.WellFormed := by
  have erased := wellFormed.eraseMembers settled (room.expiredClients now)
  unfold Room.expireMembers
  dsimp only
  split
  · exact erased
  · exact erased.promoteSurvivor roomId

theorem registerMember
    (wellFormed : room.WellFormed)
    (settled : room.mode ≠ .upgrading)
    (present : room.members[clientId]? = some member) :
    (room.registerMember clientId member).WellFormed := by
  have bound := wellFormed.replaceMember ({ member with
    registered := true
    reconnectDeadline := none }) present (fun upgrading => absurd upgrading
      settled) (fun _ => rfl)
  unfold Room.registerMember
  dsimp only
  split
  · exact bound.mapMembers _ (fun otherId other => by split <;> rfl)
      (fun otherId other => by split <;> rfl)
  · exact bound

/-- A member that waits for its reconnection may wait longer. -/
theorem rearm
    {deadline : Instant}
    (wellFormed : room.WellFormed)
    (present : room.members[clientId]? = some member)
    (waiting : member.reconnectDeadline = some deadline)
    (later : Instant) :
    (room.modifyMember clientId fun member =>
      { member with reconnectDeadline := some later }).WellFormed := by
  have unregistered : member.registered = false := by
    by_contra registered
    have waits := wellFormed.waiting clientId member present (by simpa using
      registered)
    simp [waits] at waiting
  have replaced := wellFormed.replaceMember ({ member with
    reconnectDeadline := some later }) present
    (fun _ registered => registered) (by simp [unregistered])
  have same : (room.modifyMember clientId fun member =>
      { member with reconnectDeadline := some later }) =
        room.insertMember clientId
          { member with reconnectDeadline := some later } := by
    have members : (room.members.modify clientId fun member =>
        { member with reconnectDeadline := some later }) =
          room.members.insert clientId
            { member with reconnectDeadline := some later } := by
      apply ExtTreeMap.ext_getElem?
      intro otherId
      by_cases otherId = clientId <;> grind
    simp [Room.modifyMember, Room.insertMember, members]
  rw [same]
  exact replaced

/-- No room that waits for a leave is upgrading. -/
theorem settled_of_pendingLeave
    {pendingLeave : PendingLeave}
    (wellFormed : room.WellFormed)
    (leaving : room.pendingLeave = some pendingLeave) :
    room.mode ≠ .upgrading := by
  intro upgrading
  obtain ⟨upgrade, record, -⟩ := wellFormed.upgrading upgrading
  have idle := (wellFormed.upgrade upgrade record).2.2.2.2.1
  simp [idle] at leaving

/-- No room that waits for a join is upgrading. -/
theorem settled_of_pendingJoin
    {pendingJoin : PendingJoin}
    (wellFormed : room.WellFormed)
    (joining : room.pendingJoin = some pendingJoin) :
    room.mode ≠ .upgrading := by
  intro upgrading
  obtain ⟨upgrade, record, -⟩ := wellFormed.upgrading upgrading
  have idle := (wellFormed.upgrade upgrade record).2.2.2.1
  simp [idle] at joining

end WellFormed

/-- The join order of a full P2P room and its third member. -/
theorem upgradeOrder_wellFormed
    {room : Room}
    {clientId : ClientId}
    (member : Member)
    (fresh : room.members.contains clientId = false)
    (full : room.members.size = maxP2pMembers)
    (authorityRequestId : Nat) :
    Upgrade.WellFormed
      { authorityRequestId := authorityRequestId
        joiningClientId := clientId
        orderedClients := RoomTable.upgradeOrder
          (room.insertMember clientId member) clientId
        joinedClients := []
        nextClient := 0 } := by
  let keys := (room.members.insert clientId member).keys
  have nodup : keys.Nodup := ExtTreeMap.nodup_keys
  have inside : clientId ∈ keys := by simp [keys]
  have size : keys.length = 3 := by
    simp only [keys, ExtTreeMap.length_keys, maxP2pMembers] at full ⊢
    grind
  have others : (keys.filter fun candidate => decide (candidate ≠ clientId)) =
      keys.erase clientId := by
    rw [nodup.erase_eq_filter]
    congr 1
    funext candidate
    by_cases same : candidate = clientId <;> simp [same]
  refine
    { three := ?_
      distinct := ?_
      last := by simp [RoomTable.upgradeOrder]
      next := Nat.succ_pos 2 }
  · simp only [RoomTable.upgradeOrder, Room.insertMember]
    change ((keys.filter _) ++ [clientId]).length = 3
    rw [others, List.length_append, List.length_erase_of_mem inside, size]
    rfl
  · simp only [RoomTable.upgradeOrder, Room.insertMember]
    change ((keys.filter _) ++ [clientId]).Nodup
    rw [others]
    have rest := nodup.erase clientId
    have absent := nodup.not_mem_erase (a := clientId)
    grind

theorem mem_upgradeOrder
    (room : Room)
    (clientId candidate : ClientId) :
    candidate ∈ RoomTable.upgradeOrder room clientId ↔
      candidate ∈ room.members ∨ candidate = clientId := by
  by_cases candidate = clientId <;> simp_all [RoomTable.upgradeOrder]

/-- A full P2P room may start an upgrade for a further client. -/
theorem WellFormed.startUpgrade
    {room : Room}
    {clientId : ClientId}
    {member : Member}
    (wellFormed : room.WellFormed)
    (fresh : room.members.contains clientId = false)
    (direct : room.mode = .p2p)
    (full : ¬room.members.size < maxP2pMembers)
    (unregistered : member.registered = false)
    (authorityRequestId : Nat)
    (lifecycle : ClientId -> Nat)
    (instanceId : InstanceId) :
    (room.startUpgrade authorityRequestId clientId member lifecycle
      instanceId).WellFormed := by
  obtain ⟨size, -, -, noJoin, noLeave⟩ := wellFormed.direct direct
  have shape := upgradeOrder_wellFormed member fresh (by omega)
    authorityRequestId
  have waits := wellFormed.waiting
  have ordered (candidate : ClientId) := mem_upgradeOrder
    (room.insertMember clientId member) clientId candidate
  constructor <;>
    simp only [Room.startUpgrade, Room.relive, Room.insertMember] at *
  all_goals grind

end Room

/-- The shape of the table: of its rooms, of its workers, and of its command
counter. -/
structure RoomTable.WellFormed (table : RoomTable) : Prop where
  rooms : ∀ (roomId : RoomId) (room : Room),
    table.rooms[roomId]? = some room -> room.WellFormed
  workers : ∀ (instanceId : InstanceId) (worker : Worker),
    table.workers[instanceId]? = some worker ->
    worker.disconnectDeadline.isSome -> worker.connectionId = none
  counter : table.nextSfuRequestId ≤ u64Max

namespace RoomTable.WellFormed

variable {table : RoomTable} {roomId : RoomId} {room : Room}

theorem new (reconnectGrace : Duration) :
    (RoomTable.new reconnectGrace).WellFormed where
  rooms := by simp
  workers := by simp
  counter := by simp [u64Max]

/-- The shape depends on the rooms, the workers and the counter only. -/
theorem of_same
    {after : RoomTable}
    (wellFormed : table.WellFormed)
    (rooms : after.rooms = table.rooms)
    (workers : after.workers = table.workers)
    (counter : after.nextSfuRequestId ≤ u64Max) :
    after.WellFormed where
  rooms := by rw [rooms]; exact wellFormed.rooms
  workers := by rw [workers]; exact wellFormed.workers
  counter := counter

theorem withLifecycles
    (wellFormed : table.WellFormed)
    (counters : ExtTreeMap MemberKey Nat lexOrd.compare) :
    { table with lifecycleIds := counters }.WellFormed :=
  { wellFormed with }

theorem setRoom
    (wellFormed : table.WellFormed)
    (shape : room.WellFormed) :
    (table.setRoom roomId room).WellFormed where
  rooms := by
    intro otherId other found
    have rooms := wellFormed.rooms
    simp only [setRoom_rooms] at found
    grind
  workers := wellFormed.workers
  counter := wellFormed.counter

theorem dropRoom
    (wellFormed : table.WellFormed) :
    (table.dropRoom roomId).WellFormed where
  rooms := by
    intro otherId other found
    have rooms := wellFormed.rooms
    simp only [dropRoom_rooms] at found
    grind
  workers := wellFormed.workers
  counter := wellFormed.counter

theorem setOrDropRoom
    (wellFormed : table.WellFormed)
    (shape : room.WellFormed) :
    (table.setOrDropRoom roomId room).WellFormed := by
  unfold RoomTable.setOrDropRoom
  split
  · exact wellFormed.dropRoom
  · exact wellFormed.setRoom shape

theorem modifyWorker
    (wellFormed : table.WellFormed)
    (instanceId : InstanceId)
    (update : Worker -> Worker)
    (waiting : ∀ worker : Worker,
      (worker.disconnectDeadline.isSome -> worker.connectionId = none) ->
      (update worker).disconnectDeadline.isSome ->
      (update worker).connectionId = none) :
    (table.modifyWorker instanceId update).WellFormed where
  rooms := wellFormed.rooms
  workers := by
    intro otherId other known
    have workers := wellFormed.workers
    simp only [modifyWorker_workers] at known
    grind
  counter := wellFormed.counter

theorem issueCommand
    (wellFormed : table.WellFormed)
    (instanceId : InstanceId)
    (connectionId : Sfu.ConnectionId)
    (command : Sfu.CommandKind)
    (pending : PendingCommand) :
    (table.issueCommand instanceId connectionId command pending).WellFormed :=
  wellFormed.of_same rfl rfl (table.issueCommand_next_le instanceId
    connectionId command pending wellFormed.counter).2

theorem released
    {after : RoomTable}
    {instanceId : InstanceId}
    {assignmentEpoch count : Nat}
    {leavers : List ClientId}
    {answers : List Action}
    (wellFormed : table.WellFormed)
    (shape : room.WellFormed)
    (release : table.Released roomId instanceId assignmentEpoch count room
      leavers answers after) :
    after.WellFormed :=
  ((wellFormed.setRoom shape).modifyWorker instanceId
    (dischargeRoom roomId count) fun _ waits => waits).of_same
      release.rooms release.workers (release.older wellFormed.counter).2.1

theorem retireCommand
    (wellFormed : table.WellFormed)
    (requestId : Nat) :
    (table.retireCommand requestId).WellFormed :=
  wellFormed.of_same rfl rfl wellFormed.counter

theorem pushActions
    (wellFormed : table.WellFormed)
    (actions : List Action) :
    (table.pushActions actions).WellFormed :=
  wellFormed.of_same (by simp) (by simp) (by simpa using wellFormed.counter)

theorem retireAll
    (wellFormed : table.WellFormed)
    (requestIds : List Nat) :
    (table.retireAll requestIds).WellFormed :=
  wellFormed.of_same (by simp) (by simp) (by simpa using wellFormed.counter)

theorem connectWorker
    (wellFormed : table.WellFormed)
    (connectionId : Sfu.ConnectionId)
    (instanceId : InstanceId)
    (capacity : Sfu.Capacity) :
    (table.connectWorker connectionId instanceId capacity).WellFormed where
  rooms := wellFormed.rooms
  workers := by
    intro otherId other known
    have workers := wellFormed.workers
    simp only [RoomTable.connectWorker] at known
    grind
  counter := wellFormed.counter

theorem failRoom
    (wellFormed : table.WellFormed)
    (order : VisitOrder)
    (roomId : RoomId)
    (reason : String) :
    (table.failRoom order roomId reason).WellFormed := by
  unfold RoomTable.failRoom
  split
  · exact wellFormed
  · rename_i room found
    exact (wellFormed.setRoom (wellFormed.rooms _ _ found).failed).pushActions
      [_]

theorem issueNextUpgradeJoin
    (wellFormed : table.WellFormed)
    (roomId : RoomId) :
    (table.issueNextUpgradeJoin roomId).2.WellFormed := by
  rcases table.issueNextUpgradeJoin_cases roomId with ⟨error, same⟩ |
    ⟨room, upgrade, clientId, member, instanceId, connectionId, -, -, -, -, -,
      -, issued⟩
  · rw [same]
    exact wellFormed
  · rw [issued]
    exact wellFormed.issueCommand _ _ _ _

/-- An abort of a well formed table releases a room or changes nothing. -/
theorem abortUpgrade
    (wellFormed : table.WellFormed)
    (roomId : RoomId)
    (reason : String) :
    (table.abortUpgrade roomId reason).2.WellFormed := by
  cases found : table.rooms[roomId]? with
  | none => simpa [RoomTable.abortUpgrade, found] using wellFormed
  | some room =>
      cases upgrading : room.upgrade with
      | none => simpa [RoomTable.abortUpgrade, found, upgrading] using wellFormed
      | some upgrade =>
          have shape := wellFormed.rooms roomId room found
          obtain ⟨instanceId, assigned⟩ := Option.isSome_iff_exists.1
            (shape.upgrade upgrade upgrading).2.2.1
          obtain ⟨leavers, answers, release, -⟩ :=
            abortUpgrade_released table reason found upgrading assigned
          exact wellFormed.released (shape.release upgrading) release

/-- An eligible room is an idle SFU room of some worker with a first member. -/
theorem eligible
    (wellFormed : table.WellFormed)
    (eligible : table.isDowngradeEligible roomId = true) :
    ∃ room instanceId initiatorClientId others,
      table.rooms[roomId]? = some room ∧ room.mode = .sfu ∧
        room.members.size ≤ maxP2pMembers ∧ room.pendingJoin = none ∧
        room.pendingLeave = none ∧ room.assignedInstance = some instanceId ∧
        room.members.keys = initiatorClientId :: others := by
  unfold RoomTable.isDowngradeEligible at eligible
  cases found : table.rooms[roomId]? with
  | none => simp [found] at eligible
  | some room =>
      simp only [found, Option.any_some, Bool.and_eq_true, decide_eq_true_eq,
        Bool.not_eq_true', Option.isNone_iff_eq_none] at eligible
      obtain ⟨⟨⟨⟨⟨forwarded, occupied⟩, small⟩, -⟩, noJoin⟩, noLeave⟩ := eligible
      obtain ⟨instanceId, assigned⟩ := Option.isSome_iff_exists.1
        ((wellFormed.rooms roomId room found).forwarded forwarded).1
      cases clients : room.members.keys with
      | nil =>
          rw [← ExtTreeMap.isEmpty_keys, clients] at occupied
          cases occupied
      | cons initiatorClientId others =>
          exact ⟨room, instanceId, initiatorClientId, others, rfl, forwarded,
            small, noJoin, noLeave, assigned, clients⟩

/-- Every move keeps the shape of the table. -/
theorem moved
    {phase phase' : Option InstanceId}
    {table' : RoomTable}
    {move : Move}
    (moved : Moved phase table move phase' table')
    (wellFormed : table.WellFormed) :
    table'.WellFormed := by
  cases moved with
  | create clientId now token absent =>
      exact (wellFormed.withLifecycles _).setRoom
        (Room.WellFormed.create (newMember_registered ..))
  | joinDirect now token found fresh direct space =>
      exact (wellFormed.withLifecycles _).setRoom
        ((wellFormed.rooms _ _ found).insertNew _ fresh
          (newMember_registered ..) (Or.inr ⟨direct, space⟩))
  | beginUpgrade authorityRequestId now token found fresh direct full selected =>
      obtain ⟨lifecycle, counters, lifecycleId, first, joining, connectionId,
        head, present, connected, begun⟩ := beginUpgrade_eq authorityRequestId
          now token _ fresh full selected
      rw [begun]
      exact (((wellFormed.withLifecycles _).setRoom
        ((wellFormed.rooms _ _ found).startUpgrade fresh direct full
          (newMember_registered ..) _ _ _)).modifyWorker _ (chargeRoom _)
            fun _ waits => waits).issueCommand _ _ _ _
  | beginJoin authorityRequestId now token found fresh forwarded noJoin noLeave
      assigned connected =>
      rename_i roomId room clientId instanceId connectionId
      refine RoomTable.WellFormed.issueCommand ?_ _ _ _ _
      refine (wellFormed.withLifecycles _).setRoom ?_
      have admitted := (wellFormed.rooms _ _ found).insertNew (
        newMember now table.reconnectGrace token false
          (table.nextLifecycle roomId clientId).1) fresh
            (newMember_registered ..) (Or.inl forwarded)
      exact (admitted.setPending forwarded (some ⟨authorityRequestId, clientId⟩)
        room.pendingLeave).setDeadline none
  | register found settled present unregistered =>
      exact wellFormed.setRoom
        ((wellFormed.rooms _ _ found).registerMember settled present)
  | dropWithLeave found present registered forwarded noLeave assigned
      connected =>
      refine RoomTable.WellFormed.issueCommand ?_ _ _ _ _
      refine wellFormed.setRoom ?_
      exact ((wellFormed.rooms _ _ found).replaceMember _ present
        (by simp) (by simp)).setPending forwarded _ _
  | dropWithGrace now found present registered =>
      exact wellFormed.setRoom ((wellFormed.rooms _ _ found).replaceMember
        _ present (by simp) (by simp))
  | forwardSignal message found present forwarded assigned connected =>
      exact wellFormed.issueCommand _ _ _ _
  | queueMessage found present settled direct accepted =>
      have shape := wellFormed.rooms _ _ found
      have waits := shape.waiting _ _ present
      obtain rfl := pushQueued_ok accepted
      exact wellFormed.setRoom (shape.replaceMember _ present
        (fun upgrading => absurd upgrading settled) waits)
  | requestLeave authorityRequestId found present forwarded noJoin noLeave
      assigned connected =>
      exact (wellFormed.setRoom ((wellFormed.rooms _ _ found).setPending
        forwarded _ _)).issueCommand _ _ _ _
  | removeFailed found present noJoin noLeave failed =>
      exact wellFormed.setOrDropRoom ((wellFormed.rooms _ _ found).eraseMember _
        (by simp [failed]))
  | removeDirect found present noJoin noLeave direct =>
      exact wellFormed.setOrDropRoom (((wellFormed.rooms _ _ found).eraseMember _
        (by simp [direct])).promoteSurvivor _)
  | connectWorker connectionId capacity actions plain =>
      exact ((wellFormed.connectWorker _ _ _).pushActions _).retireAll _
  | syncRoom order found listed connected =>
      simp only [syncAssignedRoom, found]
      exact wellFormed.issueCommand _ _ _ _
  | noteEvent update actions keepsConnection keepsDeadline =>
      refine (wellFormed.modifyWorker _ update fun worker waits => ?_).pushActions
        _
      rw [keepsConnection, keepsDeadline]
      exact waits
  | reportFailure requestId order reason ack known =>
      exact ((wellFormed.modifyWorker _ (Worker.remember · requestId)
        fun worker waits => by simpa using waits).failRoom order _
          reason).pushActions [ack]
  | disconnectWorker now =>
      exact wellFormed.modifyWorker _ _ fun _ _ _ => rfl
  | push action => exact wellFormed.pushActions [action]
  | answer actions outstanding idle =>
      exact (wellFormed.retireCommand _).pushActions _
  | refuseSync order outstanding =>
      exact (wellFormed.retireCommand _).failRoom order _ _
  | advanceUpgrade outstanding connected found upgrading unfinished =>
      exact ((wellFormed.retireCommand _).setRoom
        ((wellFormed.rooms _ _ found).advanceUpgrade upgrading unfinished
          _)).issueNextUpgradeJoin _
  | commitUpgrade order outstanding connected found upgrading finished =>
      rename_i requestId instanceId roomId clientId lifecycleId
        assignmentEpoch room upgrade connectionId
      have shape : (room.advanceUpgrade upgrade clientId).commitSfu.WellFormed :=
        (wellFormed.rooms _ _ found).commitSfu upgrading
      rw [commitUpgrade_eq order (room.advanceUpgrade upgrade clientId)
        (by simp) rfl]
      split
      · exact ((wellFormed.retireCommand requestId).setRoom shape).of_same
          (by rw [setRoom_setRoom]) rfl wellFormed.counter
      · exact (((wellFormed.retireCommand requestId).setRoom
          shape).pushActions _).of_same (by rw [setRoom_setRoom]) (by simp)
            (by simpa using wellFormed.counter)
  | abortUpgrade reason outstanding found upgrading =>
      exact (wellFormed.retireCommand _).abortUpgrade _ reason
  | completeJoin outstanding found joining =>
      rename_i requestId instanceId roomId clientId lifecycleId
        assignmentEpoch room pendingJoin
      have shape := (wellFormed.rooms _ _ found).clearPending
        none room.pendingLeave (Or.inl rfl)
        (Or.inr rfl)
      have stored : ((table.retireCommand requestId).setRoom roomId
          { room with pendingJoin := none }).WellFormed :=
        (wellFormed.retireCommand requestId).setRoom shape
      have charged := stored.modifyWorker instanceId chargeMember
          fun _ waits => waits
      rw [completeJoin_eq]
      split
      · exact charged
      · exact charged.pushActions [_]
  | refuseJoin reason outstanding found joining =>
      rename_i room pendingJoin
      have shape := (wellFormed.rooms _ _ found).clearPending
        none room.pendingLeave (Or.inl rfl)
        (Or.inr rfl)
      have settled := (wellFormed.rooms _ _ found).settled_of_pendingJoin
        joining
      exact ((wellFormed.retireCommand _).setRoom (shape.eraseMember (
        pendingJoin.clientId) settled)).pushActions [_]
  | completeLeave now outstanding found leaving =>
      rename_i requestId instanceId roomId clientId lifecycleId
        assignmentEpoch room pendingLeave
      have shape := (wellFormed.rooms _ _ found).clearPending
        room.pendingJoin none (Or.inr rfl)
        (Or.inl rfl)
      have settled := (wellFormed.rooms _ _ found).settled_of_pendingLeave
        leaving
      obtain ⟨deadline, -, complete⟩ := completeLeave_eq
        (table.retireCommand requestId) instanceId roomId room clientId
          pendingLeave now
      rw [complete]
      refine RoomTable.WellFormed.pushActions (RoomTable.WellFormed.modifyWorker
        ?_ _ (dischargeMember _ _) fun _ waits => waits) _
      split
      · exact (wellFormed.retireCommand requestId).dropRoom
      · exact (wellFormed.retireCommand requestId).setRoom
          ((shape.eraseMember _ settled).setDeadline deadline)
  | refuseLeave reason outstanding found leaving =>
      rename_i room pendingLeave
      have shape := (wellFormed.rooms _ _ found).clearPending
        room.pendingJoin none (Or.inr rfl)
        (Or.inl rfl)
      rw [removalAnswer_eq]
      exact ((wellFormed.retireCommand _).setRoom shape).pushActions _
  | beginExpiry waits => exact wellFormed
  | expireUpgrade waits listed found upgrading =>
      exact wellFormed.abortUpgrade _ _
  | expireRoom order waits listed found settled =>
      exact (wellFormed.setRoom
        ((wellFormed.rooms _ _ found).fail settled)).pushActions _
  | endExpiry waits settled =>
      exact (wellFormed.retireAll _).modifyWorker _ _ fun _ _ => nofun
  | downgrade order eligible =>
      obtain ⟨room, instanceId, initiatorClientId, others, found, forwarded,
        small, noJoin, noLeave, assigned, clients⟩ :=
          wellFormed.eligible eligible
      exact wellFormed.released ((wellFormed.rooms _ _ found).commitP2p
        forwarded small noJoin noLeave initiatorClientId)
          (commitDowngrade_released order found assigned clients)
  | clearDeadline found ineligible =>
      exact wellFormed.setRoom ((wellFormed.rooms _ _ found).setDeadline none)
  | retryLeave found present waiting forwarded noLeave assigned connected =>
      exact (wellFormed.setRoom ((wellFormed.rooms _ _ found).setPending
        forwarded _ _)).issueCommand _ _ _ _
  | rearmGrace now found present waiting forwarded =>
      exact wellFormed.setRoom ((wellFormed.rooms _ _ found).rearm present
        waiting _)
  | expireMembers now found direct =>
      exact wellFormed.setOrDropRoom ((wellFormed.rooms _ _ found).expireMembers
        (by simp [direct]) _ now)
  | setDwell dwell => exact { wellFormed with }
  | pollAction =>
      unfold RoomTable.pollAction
      split
      · exact wellFormed
      · exact { wellFormed with }

end RoomTable.WellFormed

end V2
end Signaling
