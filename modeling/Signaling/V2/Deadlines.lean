import Signaling.Support.MapValues
import Signaling.V2.Sweep

/-!
# What a timeout waits for

The deadlines that `pollTimeout` reports are those on which `handleTimeout`
acts. A timeout on which nothing is due leaves the table alone, but for empty
rooms. Any other timeout lowers the load of the table, which counts the
deadlines that have passed, until nothing is due.
-/

namespace Signaling
namespace V2

open Std (ExtTreeMap ExtTreeSet)
open RoomTable

/-! ## Due deadlines -/

/-- The room is in a mode in which the reconnect deadlines of its members
count. -/
def Room.Watches (room : Room) : Prop :=
  room.mode = .p2p ∨ room.mode = .sfu ∧ room.pendingLeave = none

/-- A sweep at `now` acts on the room. -/
def Room.Due (room : Room) (now : Instant) : Prop :=
  isDue room.downgradeDeadline now = true ∨
    room.Watches ∧ ∃ (clientId : ClientId) (member : Member),
      room.members[clientId]? = some member ∧
        isDue member.reconnectDeadline now = true

/-- A timeout at `now` acts on the table. -/
def RoomTable.Due (table : RoomTable) (now : Instant) : Prop :=
  (∃ instanceId, table.Expires now instanceId) ∨
    ∃ (roomId : RoomId) (room : Room),
      table.rooms[roomId]? = some room ∧ room.Due now

theorem isDue_iff
    {deadline : Option Instant}
    {now : Instant} :
    isDue deadline now = true ↔ ∃ due, deadline = some due ∧ due ≤ now := by
  cases deadline <;> simp [isDue]

/-- The earliest reported deadline has passed exactly when something is due. -/
theorem RoomTable.due_iff
    (table : RoomTable)
    (now : Instant) :
    table.Due now ↔
      ∃ deadline, table.pollTimeout = some deadline ∧ deadline ≤ now := by
  unfold RoomTable.pollTimeout
  rw [min?_le_iff]
  simp only [List.mem_append, List.mem_flatMap, List.mem_filter,
    List.mem_filterMap, mem_values, Bool.or_eq_true, Bool.and_eq_true,
    decide_eq_true_eq, Option.isNone_iff_eq_none, RoomTable.Due,
    RoomTable.Expires, Room.Due, Room.Watches, isDue_iff]
  constructor
  · rintro (⟨instanceId, worker, known, deadline, waiting, passed⟩ |
      ⟨roomId, room, found, ⟨deadline, armed, passed⟩ |
        ⟨watched, clientId, member, present, deadline, waiting, passed⟩⟩)
    · exact ⟨deadline, Or.inl (Or.inr ⟨worker, ⟨instanceId, known⟩, waiting⟩),
        passed⟩
    · exact ⟨deadline, Or.inr ⟨room, ⟨roomId, found⟩, armed⟩, passed⟩
    · exact ⟨deadline, Or.inl (Or.inl ⟨room, ⟨⟨roomId, found⟩, watched⟩, member,
        ⟨clientId, present⟩, waiting⟩), passed⟩
  · rintro ⟨deadline, (⟨room, ⟨⟨roomId, found⟩, watched⟩, member,
      ⟨clientId, present⟩, waiting⟩ | ⟨worker, ⟨instanceId, known⟩, waiting⟩) |
      ⟨room, ⟨roomId, found⟩, armed⟩, passed⟩
    · exact Or.inr ⟨roomId, room, found, Or.inr ⟨watched, clientId, member,
        present, deadline, waiting, passed⟩⟩
    · exact Or.inl ⟨instanceId, worker, known, deadline, waiting, passed⟩
    · exact Or.inr ⟨roomId, room, found, Or.inl ⟨deadline, armed, passed⟩⟩

theorem RoomTable.mem_expiredWorkers
    (table : RoomTable)
    (order : VisitOrder)
    (now : Instant)
    (instanceId : InstanceId) :
    instanceId ∈ table.expiredWorkers order now ↔
      table.Expires now instanceId := by
  simp only [expiredWorkers, List.mem_filter, HashOrder.mem_visit,
    ExtTreeMap.mem_keys, Expires]
  cases known : table.workers[instanceId]? with
  | none => simp
  | some worker =>
      simp only [Option.any_some, Option.some.injEq, exists_eq_left',
        and_iff_right_iff_imp]
      intro _
      exact ExtTreeMap.mem_iff_isSome_getElem?.2 (by simp [known])

/-! ## Nothing due -/

section Undue

variable {room : Room} {now : Instant}

theorem Room.of_expiredSfuClient
    {order : VisitOrder}
    {roomId : RoomId}
    {clientId : ClientId}
    (expired : room.expiredSfuClient order roomId now = some clientId) :
    room.mode = .sfu ∧ room.pendingLeave = none ∧ ∃ member,
      room.members[clientId]? = some member ∧
        isDue member.reconnectDeadline now = true := by
  unfold expiredSfuClient at expired
  split at expired
  · next idle =>
      simp only [Bool.and_eq_true, decide_eq_true_eq,
        Option.isNone_iff_eq_none] at idle
      have passed := List.find?_some expired
      obtain ⟨member, present, due⟩ := (Option.any_eq_true _ _).1 passed
      exact ⟨idle.1, idle.2, member, present, due⟩
  · cases expired

theorem Room.mem_expiredClients
    {clientId : ClientId} :
    clientId ∈ room.expiredClients now ↔ ∃ member,
      room.members[clientId]? = some member ∧
        isDue member.reconnectDeadline now = true := by
  rw [expiredClients, List.mem_filter, Option.any_eq_true]
  constructor
  · exact fun ⟨_, passed⟩ => passed
  · rintro ⟨member, present, due⟩
    exact ⟨ExtTreeMap.mem_keys.2
      (ExtTreeMap.mem_iff_isSome_getElem?.2 (by simp [present])),
      member, present, due⟩

/-- Nothing is due on a room that the sweep passes. -/
theorem Room.undue_of_passed
    {order : VisitOrder}
    {roomId : RoomId}
    (undwelt : ¬isDue room.downgradeDeadline now = true)
    (nobody : room.expiredSfuClient order roomId now = none)
    (settled : room.mode ≠ .p2p) :
    ¬room.Due now := by
  rintro (due | ⟨direct | ⟨forwarded, noLeave⟩, clientId, member, present, due⟩)
  · exact undwelt due
  · exact settled direct
  · rw [expiredSfuClient, if_pos (by simp [forwarded, noLeave]),
      List.find?_eq_none] at nobody
    refine nobody clientId ?_ (by simp [present, due])
    simpa [clients] using ExtTreeMap.mem_iff_isSome_getElem?.2
      (by simp [present] : room.members[clientId]?.isSome = true)

theorem Room.expiredSfuClient_of_undue
    (undue : ¬room.Due now)
    (order : VisitOrder)
    (roomId : RoomId) :
    room.expiredSfuClient order roomId now = none := by
  cases expired : room.expiredSfuClient order roomId now with
  | none => rfl
  | some clientId =>
      obtain ⟨forwarded, noLeave, passed⟩ := of_expiredSfuClient expired
      exact absurd (Or.inr ⟨Or.inr ⟨forwarded, noLeave⟩, clientId, passed⟩)
        undue

theorem Room.expireMembers_of_undue
    (undue : ¬room.Due now)
    (roomId : RoomId)
    (direct : room.mode = .p2p) :
    room.expireMembers roomId now = (none, room) := by
  have nobody : room.expiredClients now = [] := by
    rw [List.eq_nil_iff_forall_not_mem]
    exact fun clientId expired => undue
      (Or.inr ⟨Or.inl direct, clientId, mem_expiredClients.1 expired⟩)
  simp [expireMembers, nobody, eraseMembers]

/-- The sweep passes a room on which nothing is due, and drops it when it is
empty. -/
theorem RoomTable.sweepRoom_of_undue
    (table : RoomTable)
    (order : VisitOrder)
    (promotions : List Promotion)
    (roomId : RoomId)
    (undue : ∀ room, table.rooms[roomId]? = some room -> ¬room.Due now) :
    sweepRoom order now (promotions, table) roomId = (promotions, table) ∨
      ∃ room, table.rooms[roomId]? = some room ∧
        sweepRoom order now (promotions, table) roomId =
          (promotions, table.setOrDropRoom roomId room) := by
  cases found : table.rooms[roomId]? with
  | none => exact Or.inl (by simp [sweepRoom, found])
  | some room =>
      have calm := undue room found
      have undwelt : isDue room.downgradeDeadline now = false := by
        rw [Bool.eq_false_iff]
        exact fun due => calm (Or.inl due)
      have nobody := room.expiredSfuClient_of_undue calm order roomId
      by_cases direct : room.mode = .p2p
      · refine Or.inr ⟨room, rfl, ?_⟩
        simp [sweepRoom, found, undwelt, nobody, direct,
          Room.expireMembers_of_undue calm roomId direct]
      · exact Or.inl (by simp [sweepRoom, found, undwelt, nobody, direct])

/-- A table that has lost empty rooms and nothing else. -/
def RoomTable.Swept (table after : RoomTable) : Prop :=
  ∃ rooms, after = { table with rooms := rooms } ∧
    ∀ roomId : RoomId, rooms[roomId]? = table.rooms[roomId]? ∨
      rooms[roomId]? = none ∧ ∃ room, table.rooms[roomId]? = some room ∧
        room.members.isEmpty = true

namespace RoomTable.Swept

variable {table middle after : RoomTable}

theorem refl : table.Swept table :=
  ⟨table.rooms, rfl, fun _ => Or.inl rfl⟩

theorem trans
    (first : table.Swept middle)
    (second : middle.Swept after) :
    table.Swept after := by
  obtain ⟨rooms, rfl, kept⟩ := first
  obtain ⟨others, rfl, later⟩ := second
  refine ⟨others, rfl, fun roomId => ?_⟩
  rcases later roomId with same | ⟨gone, room, found, empty⟩
  · rcases kept roomId with before | ⟨gone, emptied⟩
    · exact Or.inl (same.trans before)
    · exact Or.inr ⟨same.trans gone, emptied⟩
  · rcases kept roomId with before | ⟨dropped, emptied⟩
    · exact Or.inr ⟨gone, room, before ▸ found, empty⟩
    · exact Or.inr ⟨gone, emptied⟩

/-- A room that is left was there before. -/
theorem stored
    (swept : table.Swept after)
    {roomId : RoomId}
    {room : Room}
    (found : after.rooms[roomId]? = some room) :
    table.rooms[roomId]? = some room := by
  obtain ⟨rooms, rfl, kept⟩ := swept
  rcases kept roomId with same | ⟨gone, -⟩
  · exact same ▸ found
  · simp [gone] at found

/-- No member is lost. -/
theorem member?_eq
    (swept : table.Swept after)
    (roomId : RoomId)
    (clientId : ClientId) :
    after.member? roomId clientId = table.member? roomId clientId := by
  obtain ⟨rooms, rfl, kept⟩ := swept
  rcases kept roomId with same | ⟨gone, room, found, empty⟩
  · simp [member?, same]
  · have nobody : room.members = ∅ := by simpa using empty
    simp [member?, gone, found, nobody]

/-- Storing a room again, or dropping it when it is empty. -/
theorem setOrDropRoom
    {roomId : RoomId}
    {room : Room}
    (found : table.rooms[roomId]? = some room) :
    table.Swept (table.setOrDropRoom roomId room) := by
  unfold RoomTable.setOrDropRoom
  split
  · next empty =>
      refine ⟨_, rfl, fun key => ?_⟩
      by_cases same : roomId = key
      · subst same
        exact Or.inr ⟨by simp, room, found, empty⟩
      · exact Or.inl (by simp [ExtTreeMap.getElem?_erase, same])
  · rw [setRoom_self _ _ found]
    exact refl

end RoomTable.Swept

/-- A timeout on which nothing is due promotes nobody and loses nothing but
empty rooms. -/
theorem RoomTable.handleTimeout_of_undue
    {table : RoomTable}
    (undue : ¬table.Due now)
    (order : VisitOrder) :
    (table.handleTimeout order now).1 = [] ∧
      table.Swept (table.handleTimeout order now).2 := by
  have nobody : table.expiredWorkers order now = [] := by
    rw [List.eq_nil_iff_forall_not_mem]
    exact fun instanceId listed => undue
      (Or.inl ⟨instanceId, (table.mem_expiredWorkers ..).1 listed⟩)
  have sweep (remaining : List RoomId) (middle : RoomTable)
      (swept : table.Swept middle) :
      (remaining.foldl (sweepRoom order now) ([], middle)).1 = [] ∧
        table.Swept (remaining.foldl (sweepRoom order now) ([], middle)).2 := by
    induction remaining generalizing middle with
    | nil => exact ⟨rfl, swept⟩
    | cons roomId remaining inductionHypothesis =>
        rw [List.foldl_cons]
        rcases middle.sweepRoom_of_undue order [] roomId
            (fun room found due => undue
              (Or.inr ⟨roomId, room, swept.stored found, due⟩)) with
          same | ⟨room, found, same⟩
        · rw [same]
          exact inductionHypothesis middle swept
        · rw [same]
          exact inductionHypothesis _ (swept.trans (.setOrDropRoom found))
  unfold handleTimeout
  rw [nobody]
  exact sweep _ table .refl

end Undue

/-! ## The load of a table -/

/-- One for a passed deadline. -/
def load (deadline : Option Instant) (now : Instant) : Nat :=
  if isDue deadline now then 1 else 0

/-- A sweep acts on the deadlines of the room's members, now or once the room's
upgrade has been given up. -/
def Room.tended (room : Room) : Bool :=
  room.mode = .p2p || room.mode = .upgrading ||
    (room.mode = .sfu && room.pendingLeave.isNone)

/-- The passed deadlines of the members of a tended room. -/
def Room.memberLoad (room : Room) (now : Instant) : Nat :=
  if room.tended then
    tally room.members fun member => load member.reconnectDeadline now
  else 0

def Room.load (room : Room) (now : Instant) : Nat :=
  room.memberLoad now + V2.load room.downgradeDeadline now

/-- The passed deadlines of the table. -/
def RoomTable.load (table : RoomTable) (now : Instant) : Nat :=
  tally table.rooms (fun room => room.load now) +
    tally table.workers fun worker => V2.load worker.disconnectDeadline now

theorem load_le_one (deadline : Option Instant) (now : Instant) :
    load deadline now ≤ 1 := by
  unfold load
  split <;> omega

theorem load_of_due
    {deadline : Option Instant}
    {now : Instant}
    (due : isDue deadline now = true) :
    load deadline now = 1 := by
  simp [load, due]

section MemberLoad

variable
  {room after : Room}
  {now : Instant}

theorem Room.weightAt_le
    (kept : ∀ (clientId : ClientId) (member : Member),
      after.members[clientId]? = some member ->
      isDue member.reconnectDeadline now = true ->
      ∃ former, room.members[clientId]? = some former ∧
        isDue former.reconnectDeadline now = true)
    (clientId : ClientId) :
    weightAt after.members (fun member => V2.load member.reconnectDeadline now)
        clientId ≤
      weightAt room.members
        (fun member => V2.load member.reconnectDeadline now) clientId := by
  cases present : after.members[clientId]? with
  | none => simp [weightAt, present]
  | some member =>
      cases due : isDue member.reconnectDeadline now with
      | false => simp [weightAt, present, V2.load, due]
      | true =>
          obtain ⟨former, found, before⟩ := kept clientId member present due
          simp [weightAt, present, found, V2.load, due, before]

/-- No load is added to a room that was tended if it is tended now, when each
member whose deadline has passed was one before. -/
theorem Room.memberLoad_le
    (tended : after.tended = true -> room.tended = true)
    (kept : ∀ (clientId : ClientId) (member : Member),
      after.members[clientId]? = some member ->
      isDue member.reconnectDeadline now = true ->
      ∃ former, room.members[clientId]? = some former ∧
        isDue former.reconnectDeadline now = true) :
    after.memberLoad now ≤ room.memberLoad now := by
  unfold memberLoad
  split
  · next still =>
      rw [if_pos (tended still)]
      exact tally_le (weightAt_le kept)
  · exact Nat.zero_le _

/-- Load is lost with a member whose deadline has passed. -/
theorem Room.memberLoad_lt
    (tended : room.tended = true)
    (kept : ∀ (clientId : ClientId) (member : Member),
      after.members[clientId]? = some member ->
      isDue member.reconnectDeadline now = true ->
      ∃ former, room.members[clientId]? = some former ∧
        isDue former.reconnectDeadline now = true)
    {clientId : ClientId}
    {former : Member}
    (present : room.members[clientId]? = some former)
    (due : isDue former.reconnectDeadline now = true)
    (settled : after.tended = true -> ∀ member,
      after.members[clientId]? = some member ->
      isDue member.reconnectDeadline now = false) :
    after.memberLoad now < room.memberLoad now := by
  have before : weightAt room.members
      (fun member => V2.load member.reconnectDeadline now) clientId = 1 := by
    simp [weightAt, present, V2.load, due]
  unfold memberLoad
  rw [if_pos tended]
  split
  · next still =>
      refine tally_lt (weightAt_le kept) (?_ : _ < weightAt _ _ clientId)
      rw [before]
      cases found : after.members[clientId]? with
      | none => simp [weightAt, found]
      | some member =>
          simp [weightAt, found, V2.load, settled still member found]
  · exact tally_pos_iff.2 ⟨clientId, former, present, by simp [V2.load, due]⟩

end MemberLoad

theorem Room.memberLoad_le_size (room : Room) (now : Instant) :
    room.memberLoad now ≤ room.members.size := by
  unfold memberLoad
  split
  · rw [← tally_one]
    refine tally_le fun clientId => ?_
    cases present : room.members[clientId]? with
    | none => simp [weightAt, present]
    | some member => simpa [weightAt, present] using load_le_one _ now
  · exact Nat.zero_le _

/-- The load is bounded by the members, rooms and workers of the table. -/
theorem RoomTable.load_le (table : RoomTable) (now : Instant) :
    table.load now ≤
      table.memberCount + table.roomCount + table.workers.size := by
  have rooms : tally table.rooms (fun room => room.load now) ≤
      tally table.rooms (fun room => room.members.size + 1) := by
    refine tally_le fun roomId => ?_
    cases found : table.rooms[roomId]? with
    | none => simp [weightAt, found]
    | some room =>
        have members := room.memberLoad_le_size now
        have dwell := load_le_one room.downgradeDeadline now
        simp only [weightAt, found, Option.elim_some, Room.load]
        omega
  have workers : tally table.workers
      (fun worker => V2.load worker.disconnectDeadline now) ≤
        table.workers.size := by
    rw [← tally_one]
    refine tally_le fun instanceId => ?_
    cases known : table.workers[instanceId]? with
    | none => simp [weightAt, known]
    | some worker => simpa [weightAt, known] using load_le_one _ now
  have split : tally table.rooms (fun room => room.members.size + 1) =
      table.memberCount + table.roomCount := by
    rw [roomCount, memberCount, ← tally_one, tally, tally, List.sum_map_add]
  unfold RoomTable.load
  omega

section RoomLoad

variable
  {room : Room}
  {now : Instant}

/-- A downgrade takes the dwell off the load. -/
theorem Room.commitP2p_load
    (forwarded : room.mode = .sfu)
    (noLeave : room.pendingLeave = none)
    (due : isDue room.downgradeDeadline now = true)
    (initiatorClientId : ClientId) :
    (room.commitP2p initiatorClientId).load now < room.load now := by
  have members : (room.commitP2p initiatorClientId).memberLoad now ≤
      room.memberLoad now := by
    refine memberLoad_le (fun _ => by simp [tended, forwarded, noLeave]) ?_
    intro clientId member present passed
    simp only [commitP2p, ExtTreeMap.getElem?_map, Option.map_eq_some_iff]
      at present
    obtain ⟨former, present, rfl⟩ := present
    exact ⟨former, present, passed⟩
  have dwelt := load_of_due due
  simp only [load, dwelt]
  exact Nat.lt_succ_of_le members

/-- Rearming the grace of a member takes it off the load. -/
theorem Room.rearm_load
    {clientId : ClientId}
    {member : Member}
    (tended : room.tended = true)
    (present : room.members[clientId]? = some member)
    (due : isDue member.reconnectDeadline now = true)
    {grace : Duration}
    (positive : 0 < grace) :
    (room.modifyMember clientId fun member =>
      { member with reconnectDeadline := some (now + grace) }).load now <
        room.load now := by
  have rearmed : isDue (some (now + grace)) now = false := by
    simpa [isDue] using positive.ne'
  refine Nat.add_lt_add_right (memberLoad_lt tended
    (fun otherId later stored passed => ?_) present due
    fun _ later stored => ?_) _
  · simp only [modifyMember_members, ExtTreeMap.getElem?_modify] at stored
    split at stored
    · obtain ⟨former, -, rfl⟩ := Option.map_eq_some_iff.1 stored
      exact absurd (rearmed.symm.trans passed) Bool.false_ne_true
    · exact ⟨later, stored, passed⟩
  · simp only [modifyMember_members, ExtTreeMap.getElem?_modify_self, present,
      Option.map_some, Option.some.injEq] at stored
    subst stored
    exact rearmed

/-- A room that waits for a leave is not tended. -/
theorem Room.leave_load
    {clientId : ClientId}
    {member : Member}
    (forwarded : room.mode = .sfu)
    (noLeave : room.pendingLeave = none)
    (present : room.members[clientId]? = some member)
    (due : isDue member.reconnectDeadline now = true)
    (pendingLeave : PendingLeave) :
    { room with pendingLeave := some pendingLeave }.load now <
      room.load now := by
  have waiting : Room.tended { room with
      pendingLeave := some pendingLeave } = false := by
    simp [tended, forwarded]
  have before : room.tended = true := by simp [tended, forwarded, noLeave]
  have fewer : Room.memberLoad { room with
      pendingLeave := some pendingLeave } now < room.memberLoad now :=
    memberLoad_lt before
      (fun _ later stored passed => ⟨later, stored, passed⟩) present due
      fun still => absurd (waiting.symm.trans still) Bool.false_ne_true
  exact Nat.add_lt_add_right fewer _

/-- A P2P room loses the members whose deadlines have passed. -/
theorem Room.expireMembers_load
    (direct : room.mode = .p2p)
    (roomId : RoomId) :
    (room.expireMembers roomId now).2.load now ≤ room.load now ∧
      ∀ (clientId : ClientId) (member : Member),
        room.members[clientId]? = some member ->
        isDue member.reconnectDeadline now = true ->
        (room.expireMembers roomId now).2.load now < room.load now := by
  have spared (clientId : ClientId) (member : Member)
      (present : (room.expireMembers roomId now).2.members[clientId]? =
        some member) :
      isDue member.reconnectDeadline now = false := by
    obtain ⟨former, before, spared, same⟩ := expireMembers_members _ _ present
    have kept : member.reconnectDeadline = former.reconnectDeadline := by
      rcases same with rfl | rfl <;> rfl
    rw [kept, Bool.eq_false_iff]
    exact fun due => spared (mem_expiredClients.2 ⟨former, before, due⟩)
  have kept (clientId : ClientId) (member : Member)
      (present : (room.expireMembers roomId now).2.members[clientId]? =
        some member)
      (due : isDue member.reconnectDeadline now = true) :
      ∃ former, room.members[clientId]? = some former ∧
        isDue former.reconnectDeadline now = true := by
    simp [spared clientId member present] at due
  have tended : room.tended = true := by simp [tended, direct]
  simp only [load, expireMembers_downgradeDeadline]
  exact ⟨Nat.add_le_add_right (memberLoad_le (fun _ => tended) kept) _,
    fun clientId member present due => Nat.add_lt_add_right
      (memberLoad_lt tended kept present due
        fun _ later found => spared clientId later found) _⟩

end RoomLoad

theorem RoomTable.workerLoad_eq
    (table : RoomTable)
    (now : Instant)
    (instanceId : InstanceId) :
    weightAt table.workers
        (fun worker => V2.load worker.disconnectDeadline now) instanceId =
      V2.load (table.workers[instanceId]?.bind (·.disconnectDeadline)) now := by
  cases known : table.workers[instanceId]? with
  | none => simp [weightAt, known, V2.load, isDue]
  | some worker => simp [weightAt, known]

/-- A part of a timeout that adds no load and keeps the shape and the grace. -/
structure RoomTable.Lightens
    (now : Instant)
    (table after : RoomTable) : Prop where
  wellFormed : after.WellFormed
  grace : after.reconnectGrace = table.reconnectGrace
  rooms : ∀ roomId : RoomId,
    weightAt after.rooms (fun room => room.load now) roomId ≤
      weightAt table.rooms (fun room => room.load now) roomId
  workers : ∀ instanceId : InstanceId,
    weightAt after.workers (fun worker => V2.load worker.disconnectDeadline now)
        instanceId ≤
      weightAt table.workers
        (fun worker => V2.load worker.disconnectDeadline now) instanceId

/-- Giving a worker up is giving up rooms, and then its record. -/
theorem expireWorker_eq
    (order : VisitOrder)
    (table : RoomTable)
    (instanceId : InstanceId) :
    ∃ remaining : List RoomId, RoomTable.expireWorker order table instanceId =
      (remaining.foldl (RoomTable.expireRoom order) table).releaseWorker
        instanceId :=
  ⟨_, rfl⟩

namespace RoomTable.Lightens

variable
  {now : Instant}
  {table middle after : RoomTable}
  {roomId : RoomId}

theorem refl (wellFormed : table.WellFormed) : Lightens now table table :=
  ⟨wellFormed, rfl, fun _ => le_rfl, fun _ => le_rfl⟩

theorem trans
    (first : Lightens now table middle)
    (second : Lightens now middle after) :
    Lightens now table after where
  wellFormed := second.wellFormed
  grace := second.grace.trans first.grace
  rooms := fun roomId => (second.rooms roomId).trans (first.rooms roomId)
  workers := fun instanceId =>
    (second.workers instanceId).trans (first.workers instanceId)

/-- A room changes and so may the records of workers, but for their deadlines.
-/
theorem of_room
    {room : Room}
    (wellFormed : after.WellFormed)
    (grace : after.reconnectGrace = table.reconnectGrace)
    (found : table.rooms[roomId]? = some room)
    (elsewhere : ∀ otherId, otherId ≠ roomId ->
      after.rooms[otherId]? = table.rooms[otherId]?)
    (lighter : weightAt after.rooms (fun room => room.load now) roomId ≤
      room.load now)
    (deadlines : ∀ instanceId : InstanceId,
      after.workers[instanceId]?.bind (·.disconnectDeadline) =
        table.workers[instanceId]?.bind (·.disconnectDeadline)) :
    Lightens now table after where
  wellFormed := wellFormed
  grace := grace
  rooms := by
    intro key
    by_cases same : key = roomId
    · subst same
      simpa [weightAt, found] using lighter
    · simp [weightAt, elsewhere key same]
  workers := fun instanceId => by
    rw [workerLoad_eq, workerLoad_eq, deadlines]

theorem releaseDeadline
    (roomId : RoomId)
    (count : Nat)
    (instanceId otherId : InstanceId)
    (workers : after.workers =
      table.workers.modify instanceId (dischargeRoom roomId count)) :
    after.workers[otherId]?.bind (·.disconnectDeadline) =
      table.workers[otherId]?.bind (·.disconnectDeadline) := by
  rw [workers, ExtTreeMap.getElem?_modify]
  split
  · next same =>
      obtain rfl := Std.LawfulEqCmp.eq_of_compare same
      cases table.workers[instanceId]? <;> rfl
  · rfl

/-- A room of an expired worker is given up. -/
theorem expireRoom
    (wellFormed : table.WellFormed)
    (order : VisitOrder)
    (roomId : RoomId) :
    Lightens now table (RoomTable.expireRoom order table roomId) := by
  unfold RoomTable.expireRoom
  cases found : table.rooms[roomId]? with
  | none => exact refl wellFormed
  | some room =>
      have shape := wellFormed.rooms roomId room found
      dsimp only
      split
      · next mode =>
          obtain ⟨upgrade, upgrading, -⟩ := shape.upgrading mode
          obtain ⟨instanceId, assigned⟩ := Option.isSome_iff_exists.1
            (shape.upgrade upgrade upgrading).2.2.1
          obtain ⟨leavers, answers, release, -⟩ := abortUpgrade_released
            table "WORKER_UNAVAILABLE" found upgrading assigned
          refine of_room (wellFormed.abortUpgrade roomId _)
            release.reconnectGrace found (fun otherId other => ?_) ?_
            (fun otherId => releaseDeadline roomId 3 _ _ release.workers)
          · rw [release.rooms, ExtTreeMap.getElem?_insert,
              if_neg (by simpa using other.symm)]
          · have members : (room.release upgrade.joiningClientId).memberLoad
                now ≤ room.memberLoad now := by
              refine Room.memberLoad_le (fun _ => by simp [Room.tended, mode]) ?_
              intro clientId member present due
              simp only [Room.release, Room.rollBack, Room.eraseMember,
                ExtTreeMap.getElem?_erase] at present
              split at present
              · cases present
              · exact ⟨member, present, due⟩
            rw [release.rooms]
            simp only [weightAt, ExtTreeMap.getElem?_insert_self,
              Option.elim_some]
            exact Nat.add_le_add_right members _
      · next settled =>
          refine of_room ((wellFormed.setRoom (shape.fail settled)).pushActions
            _) (by simp [failExpired]) found (fun otherId other => ?_) ?_
            (fun otherId => by simp [failExpired])
          · simp only [failExpired, pushActions_rooms, setRoom_rooms]
            rw [ExtTreeMap.getElem?_insert, if_neg (by simpa using other.symm)]
          · simp only [failExpired, pushActions_rooms, setRoom_rooms, weightAt,
              ExtTreeMap.getElem?_insert_self, Option.elim_some]
            simp [Room.load, Room.memberLoad, Room.tended, Room.fail]

/-- The record of an expired worker is cleared. -/
theorem releaseWorker
    (wellFormed : table.WellFormed)
    (instanceId : InstanceId) :
    Lightens now table (table.releaseWorker instanceId) ∧
      weightAt (table.releaseWorker instanceId).workers
        (fun worker => V2.load worker.disconnectDeadline now) instanceId =
          0 := by
  have deadline (otherId : InstanceId) :
      (table.releaseWorker instanceId).workers[otherId]?.bind
          (·.disconnectDeadline) =
        if instanceId = otherId then none
        else table.workers[otherId]?.bind (·.disconnectDeadline) := by
    simp only [RoomTable.releaseWorker, modifyWorker_workers,
      retireAll_workers, ExtTreeMap.getElem?_modify, Std.compare_eq_iff_eq]
    split
    · next same =>
        subst same
        cases table.workers[instanceId]? <;> rfl
    · rfl
  refine ⟨⟨?_, ?_, ?_, fun otherId => ?_⟩, ?_⟩
  · refine (wellFormed.retireAll _).modifyWorker _ _ fun _ _ connected => ?_
    cases connected
  · simp [RoomTable.releaseWorker]
  · simp [RoomTable.releaseWorker]
  · rw [workerLoad_eq, workerLoad_eq, deadline]
    split
    · simp [V2.load, isDue]
    · exact le_rfl
  · rw [workerLoad_eq, deadline, if_pos rfl]
    rfl

/-- An expired worker is given up. -/
theorem expireWorker
    (wellFormed : table.WellFormed)
    (order : VisitOrder)
    (instanceId : InstanceId) :
    Lightens now table (RoomTable.expireWorker order table instanceId) ∧
      weightAt (RoomTable.expireWorker order table instanceId).workers
        (fun worker => V2.load worker.disconnectDeadline now) instanceId =
          0 := by
  obtain ⟨remaining, given⟩ := expireWorker_eq order table instanceId
  have emptied : Lightens now table
      (remaining.foldl (RoomTable.expireRoom order) table) := by
    clear given
    induction remaining using List.reverseRecOn with
    | nil => exact refl wellFormed
    | append_singleton remaining roomId inductionHypothesis =>
        rw [List.foldl_append]
        exact inductionHypothesis.trans
          (expireRoom inductionHypothesis.wellFormed order roomId)
  obtain ⟨cleared, lost⟩ := releaseWorker emptied.wellFormed instanceId
  rw [given]
  exact ⟨emptied.trans cleared, lost⟩

/-- All expired workers are given up. -/
theorem expireWorkers
    (wellFormed : table.WellFormed)
    (order : VisitOrder)
    (remaining : List InstanceId) :
    Lightens now table
        (remaining.foldl (RoomTable.expireWorker order) table) ∧
      ∀ instanceId ∈ remaining,
        weightAt
          (remaining.foldl (RoomTable.expireWorker order) table).workers
          (fun worker => V2.load worker.disconnectDeadline now) instanceId =
            0 := by
  induction remaining using List.reverseRecOn with
  | nil => exact ⟨refl wellFormed, by simp⟩
  | append_singleton remaining instanceId inductionHypothesis =>
      obtain ⟨lighter, lost⟩ := inductionHypothesis
      obtain ⟨next, cleared⟩ := expireWorker lighter.wellFormed order instanceId
      rw [List.foldl_append]
      refine ⟨lighter.trans next, fun otherId listed => ?_⟩
      rcases List.mem_append.1 listed with earlier | last
      · exact Nat.le_zero.1 ((next.workers otherId).trans
          (le_of_eq (lost otherId earlier)))
      · obtain rfl := List.mem_singleton.1 last
        exact cleared

/-- A room is stored again with less load. -/
theorem replaced
    {room swept : Room}
    (kept : after.WellFormed)
    (grace : after.reconnectGrace = table.reconnectGrace)
    (found : table.rooms[roomId]? = some room)
    (rooms : after.rooms = table.rooms.insert roomId swept)
    (deadlines : ∀ instanceId : InstanceId,
      after.workers[instanceId]?.bind (·.disconnectDeadline) =
        table.workers[instanceId]?.bind (·.disconnectDeadline))
    (lighter : swept.load now < room.load now) :
    Lightens now table after ∧
      (room.Due now ->
        weightAt after.rooms (fun room => room.load now) roomId <
          room.load now) := by
  have stored : weightAt after.rooms (fun room => room.load now) roomId =
      swept.load now := by simp [weightAt, rooms]
  refine ⟨of_room kept grace found (fun otherId other => ?_)
    (stored ▸ lighter.le) deadlines, fun _ => stored ▸ lighter⟩
  rw [rooms, ExtTreeMap.getElem?_insert, if_neg (by simpa using other.symm)]

/-- The sweep of one room; it takes load off a room on which something is due.
-/
theorem sweepRoom
    {room : Room}
    (wellFormed : table.WellFormed)
    (positive : 0 < table.reconnectGrace)
    (order : VisitOrder)
    (promotions : List Promotion)
    (found : table.rooms[roomId]? = some room) :
    Lightens now table
        (RoomTable.sweepRoom order now (promotions, table) roomId).2 ∧
      (room.Due now -> weightAt
          (RoomTable.sweepRoom order now (promotions, table) roomId).2.rooms
          (fun room => room.load now) roomId < room.load now) := by
  have shape := wellFormed.rooms roomId room found
  unfold RoomTable.sweepRoom
  simp only [found]
  split
  · next due =>
      split
      · next eligible =>
          obtain ⟨other, instanceId, initiatorClientId, others, present,
            forwarded, small, noJoin, noLeave, assigned, clients⟩ :=
              wellFormed.eligible eligible
          obtain rfl : room = other := by simpa [found] using present
          have release := commitDowngrade_released order found assigned clients
          exact replaced (wellFormed.moved (Moved.downgrade order eligible))
            release.reconnectGrace found release.rooms
            (fun otherId => releaseDeadline roomId _ _ _ release.workers)
            (Room.commitP2p_load forwarded noLeave due initiatorClientId)
      · refine replaced (wellFormed.setRoom (shape.setDeadline none)) rfl found
          rfl (fun _ => rfl) ?_
        have dwelt := load_of_due due
        simp only [Room.load, dwelt]
        exact Nat.lt_succ_self _
  next undwelt =>
  split
  · next clientId expired =>
      obtain ⟨forwarded, noLeave, member, present, due⟩ :=
        Room.of_expiredSfuClient expired
      obtain ⟨deadline, waiting, -⟩ := isDue_iff.1 due
      rcases issueSfuLeave_cases table roomId clientId .disconnected with
        kept | ⟨other, otherMember, instanceId, connectionId, otherFound, -, -,
          otherPresent, assigned, connected, issued⟩
      · rw [kept]
        exact replaced (wellFormed.moved
            (Moved.rearmGrace now found present waiting forwarded)) rfl found
          rfl (fun _ => rfl) (Room.rearm_load
            (by simp [Room.tended, forwarded, noLeave]) present due positive)
      · obtain rfl : room = other := by simpa [found] using otherFound
        obtain rfl : member = otherMember := by
          simpa [present] using otherPresent
        rw [issued]
        exact replaced (wellFormed.moved (Moved.retryLeave found present waiting
            forwarded noLeave assigned connected)) rfl found rfl (fun _ => rfl)
          (Room.leave_load forwarded noLeave present due _)
  · next nobody =>
      split
      · next settled => exact ⟨refl wellFormed, fun due =>
          absurd due (Room.undue_of_passed undwelt nobody settled)⟩
      · next direct =>
          simp only [ne_eq, not_not] at direct
          obtain ⟨lighter, less⟩ := Room.expireMembers_load direct roomId
          have stored : weightAt (table.setOrDropRoom roomId
              (room.expireMembers roomId now).2).rooms
                (fun room => room.load now) roomId ≤
              (room.expireMembers roomId now).2.load now := by
            unfold RoomTable.setOrDropRoom
            split <;> simp [weightAt]
          refine ⟨of_room (wellFormed.moved
            (Moved.expireMembers now found direct)) ?_ found ?_
              (stored.trans lighter) ?_, fun due => ?_⟩
          · unfold RoomTable.setOrDropRoom
            split <;> rfl
          · intro otherId other
            unfold RoomTable.setOrDropRoom
            split
            · simp [ExtTreeMap.getElem?_erase, Ne.symm other]
            · simp [ExtTreeMap.getElem?_insert, Ne.symm other]
          · intro instanceId
            unfold RoomTable.setOrDropRoom
            split <;> rfl
          · rcases due with due | ⟨-, clientId, member, present, due⟩
            · exact absurd due undwelt
            · exact stored.trans_lt (less clientId member present due)

/-- The sweep of any rooms; it takes load off a listed room on which something
is due. -/
theorem sweep
    (wellFormed : table.WellFormed)
    (positive : 0 < table.reconnectGrace)
    (order : VisitOrder)
    (promotions : List Promotion)
    (remaining : List RoomId) :
    Lightens now table
        (remaining.foldl (RoomTable.sweepRoom order now)
          (promotions, table)).2 ∧
      ∀ roomId ∈ remaining, ∀ room,
        table.rooms[roomId]? = some room -> room.Due now ->
        weightAt (remaining.foldl (RoomTable.sweepRoom order now)
          (promotions, table)).2.rooms (fun room => room.load now) roomId <
            room.load now := by
  induction remaining generalizing table promotions with
  | nil => exact ⟨refl wellFormed, by simp⟩
  | cons visited remaining inductionHypothesis =>
      have step : Lightens now table
          (RoomTable.sweepRoom order now (promotions, table) visited).2 := by
        cases found : table.rooms[visited]? with
        | none => simpa [RoomTable.sweepRoom, found] using refl wellFormed
        | some room =>
            exact (sweepRoom wellFormed positive order promotions found).1
      have touches := sweepRoom_touches order now promotions visited wellFormed
      have less (room : Room) (found : table.rooms[visited]? = some room)
          (due : room.Due now) :
          weightAt (RoomTable.sweepRoom order now (promotions, table)
            visited).2.rooms (fun room => room.load now) visited <
              room.load now :=
        (sweepRoom wellFormed positive order promotions found).2 due
      rw [List.foldl_cons]
      generalize RoomTable.sweepRoom order now (promotions, table) visited =
        swept at step touches less
      obtain ⟨promoted, after⟩ := swept
      obtain ⟨tail, later⟩ := inductionHypothesis step.wellFormed
        (step.grace ▸ positive) promoted
      refine ⟨step.trans tail, fun roomId listed room found due => ?_⟩
      by_cases here : roomId = visited
      · subst here
        exact (tail.rooms roomId).trans_lt (less room found due)
      · have same := touches.rooms roomId here
        rcases List.mem_cons.1 listed with equal | rest
        · exact absurd equal here
        · exact later roomId rest room (same.trans found) due

end RoomTable.Lightens

/-- A timeout adds no load, and takes some off when something is due. -/
theorem RoomTable.handleTimeout_load
    {table : RoomTable}
    {now : Instant}
    (wellFormed : table.WellFormed)
    (positive : 0 < table.reconnectGrace)
    (order : VisitOrder) :
    (table.handleTimeout order now).2.load now ≤ table.load now ∧
      (table.Due now ->
        (table.handleTimeout order now).2.load now < table.load now) := by
  obtain ⟨expiry, cleared⟩ := Lightens.expireWorkers wellFormed order
    (table.expiredWorkers order now)
  obtain ⟨sweep, swept⟩ := Lightens.sweep expiry.wellFormed
    (expiry.grace ▸ positive) order [] (order.visit .rooms
      ((table.expiredWorkers order now).foldl (expireWorker order)
        table).rooms.keys)
  have whole : Lightens now table (table.handleTimeout order now).2 :=
    expiry.trans sweep
  refine ⟨Nat.add_le_add (tally_le whole.rooms) (tally_le whole.workers),
    fun due => ?_⟩
  by_cases someone : ∃ instanceId, table.Expires now instanceId
  · obtain ⟨instanceId, expires⟩ := someone
    obtain ⟨worker, known, passed⟩ := expires
    have before : weightAt table.workers
        (fun worker => V2.load worker.disconnectDeadline now) instanceId =
          1 := by
      simp [weightAt, known, load_of_due passed]
    have lost := (sweep.workers instanceId).trans (le_of_eq (cleared instanceId
      ((table.mem_expiredWorkers ..).2 ⟨worker, known, passed⟩)))
    exact Nat.add_lt_add_of_le_of_lt (tally_le whole.rooms)
      (tally_lt whole.workers (lost.trans_lt (before ▸ Nat.one_pos)))
  · have nobody : table.expiredWorkers order now = [] := by
      rw [List.eq_nil_iff_forall_not_mem]
      exact fun instanceId listed => someone
        ⟨instanceId, (table.mem_expiredWorkers ..).1 listed⟩
    obtain expires | ⟨roomId, room, found, due⟩ := due
    · exact absurd expires someone
    · rw [nobody] at swept
      have present : roomId ∈ table.rooms.keys := ExtTreeMap.mem_keys.2
        (ExtTreeMap.mem_iff_isSome_getElem?.2 (by simp [found]))
      have less := swept roomId (by simpa using present) room found due
      refine Nat.add_lt_add_of_lt_of_le (tally_lt whole.rooms
        (?_ : _ < weightAt _ _ roomId)) (tally_le whole.workers)
      rw [show weightAt table.rooms (fun room => room.load now) roomId =
        room.load now by simp [weightAt, found]]
      unfold RoomTable.handleTimeout
      rw [nobody]
      exact less

/-! ## The grace -/

theorem freshLifecycles_reconnectGrace
    (roomId : RoomId)
    (clients : List ClientId)
    (table : RoomTable) :
    (freshLifecycles roomId clients table).reconnectGrace =
      table.reconnectGrace := by
  induction clients generalizing table with
  | nil => rfl
  | cons clientId clients inductionHypothesis =>
      exact (inductionHypothesis _).trans rfl

theorem issueNextUpgradeJoin_reconnectGrace
    (table : RoomTable)
    (roomId : RoomId) :
    (table.issueNextUpgradeJoin roomId).2.reconnectGrace =
      table.reconnectGrace := by
  rcases issueNextUpgradeJoin_cases table roomId with ⟨error, same⟩ |
    ⟨_, _, _, _, _, _, -, -, -, -, -, -, issued⟩
  · rw [same]
  · rw [issued]
    rfl

theorem beginUpgrade_reconnectGrace
    (table : RoomTable)
    (authorityRequestId : Nat)
    (now : Instant)
    (roomId : RoomId)
    (room : Room)
    (clientId : ClientId)
    (token : String)
    (instanceId : InstanceId) :
    (table.beginUpgrade authorityRequestId now roomId room clientId token
      instanceId).2.reconnectGrace = table.reconnectGrace := by
  unfold RoomTable.beginUpgrade
  dsimp only
  split <;> next asked =>
    have kept := congrArg (·.2.reconnectGrace) asked
    simp only [issueNextUpgradeJoin_reconnectGrace] at kept
    exact kept.symm.trans (freshLifecycles_reconnectGrace ..)

/-- No move changes the grace. -/
theorem Moved.reconnectGrace
    {phase phase' : Option InstanceId}
    {table table' : RoomTable}
    {move : Move}
    (taken : Moved phase table move phase' table')
    (wellFormed : table.WellFormed) :
    table'.reconnectGrace = table.reconnectGrace := by
  have failed {before : RoomTable} {order : VisitOrder} {roomId : RoomId}
      {reason : String} :
      (before.failRoom order roomId reason).reconnectGrace =
        before.reconnectGrace := by
    unfold RoomTable.failRoom
    split <;> rfl
  cases taken with
  | create | joinDirect | beginJoin | register | dropWithGrace | queueMessage
  | disconnectWorker | clearDeadline | rearmGrace | setDwell | beginExpiry
  | dropWithLeave | forwardSignal | requestLeave | push | retryLeave
  | refuseJoin => rfl
  | beginUpgrade => exact beginUpgrade_reconnectGrace ..
  | removeFailed | removeDirect | expireMembers =>
      unfold RoomTable.setOrDropRoom
      split <;> rfl
  | connectWorker | noteEvent | answer | expireRoom | endExpiry =>
      simp [RoomTable.connectWorker, failExpired, releaseWorker]
  | syncRoom order found listed connected =>
      simp only [syncAssignedRoom, found]
      rfl
  | reportFailure => exact failed
  | refuseSync => exact failed
  | advanceUpgrade => exact issueNextUpgradeJoin_reconnectGrace _ _
  | commitUpgrade order outstanding connected found upgrading finished =>
      rename_i requestId instanceId roomId clientId lifecycleId
        assignmentEpoch room upgrade connectionId
      rw [commitUpgrade_eq order (room.advanceUpgrade upgrade clientId)
        (by simp) rfl]
      split <;> simp
  | abortUpgrade reason outstanding found upgrading =>
      rename_i requestId instanceId roomId clientId lifecycleId
        assignmentEpoch room upgrade
      obtain ⟨carrier, carried⟩ := Option.isSome_iff_exists.1
        ((wellFormed.rooms roomId room found).upgrade upgrade upgrading).2.2.1
      obtain ⟨leavers, answers, release, -⟩ := abortUpgrade_released
        (table.retireCommand requestId) reason found upgrading carried
      exact release.reconnectGrace
  | completeJoin outstanding found joining =>
      rw [completeJoin_eq]
      split <;> rfl
  | completeLeave now outstanding found leaving =>
      rename_i requestId instanceId roomId clientId lifecycleId
        assignmentEpoch room pendingLeave
      obtain ⟨deadline, -, complete⟩ := completeLeave_eq
        (table.retireCommand requestId) instanceId roomId room clientId
          pendingLeave now
      rw [complete]
      split <;> simp
  | refuseLeave =>
      rw [removalAnswer_eq]
      simp
  | expireUpgrade waits listed found upgrading =>
      rename_i instanceId roomId room
      have kept : (RoomTable.expireRoom .sorted table roomId).reconnectGrace =
          table.reconnectGrace :=
        (Lightens.expireRoom wellFormed .sorted roomId :
          Lightens 0 table _).grace
      simpa [RoomTable.expireRoom, found, upgrading] using kept
  | downgrade order eligible =>
      obtain ⟨room, instanceId, initiatorClientId, others, found, forwarded,
        small, noJoin, noLeave, carried, clients⟩ :=
          wellFormed.eligible eligible
      exact (commitDowngrade_released order found carried clients).reconnectGrace
  | pollAction =>
      unfold RoomTable.pollAction
      split <;> rfl

theorem RoomTable.step_reconnectGrace
    {table : RoomTable}
    (wellFormed : table.WellFormed)
    (call : Call) :
    (table.step call).WellFormed ∧
      (table.step call).reconnectGrace = table.reconnectGrace :=
  (step_chain table call wellFormed).invariant
    (fun state => state.2.WellFormed ∧
      state.2.reconnectGrace = table.reconnectGrace)
    (fun _ _ _ moved _ ⟨shape, same⟩ =>
      ⟨shape.moved moved, (moved.reconnectGrace shape).trans same⟩)
    ⟨wellFormed, rfl⟩

end V2
end Signaling
