import Signaling.Support.SetTotals
import Signaling.V2.Downgrade
import Signaling.V2.Registrations

/-!
# The accounts of the workers

A worker counts the clients of the rooms that it carries: three for an upgrade
in flight, and the members whose join it has confirmed for any other room. The
count is the sum over its rooms as long as no member leaves a room behind the
worker's back.
-/

namespace Signaling
namespace V2

open Std (ExtTreeMap ExtTreeSet)
open RoomTable

/-- The clients of the room that its worker counts. -/
def Room.charge (room : Room) : Nat :=
  if room.upgrade.isSome then 3
  else room.members.size - if room.pendingJoin.isSome then 1 else 0

/-- What a worker counts for a room that may be absent. -/
def chargeOf (room : Option Room) : Nat :=
  room.elim 0 Room.charge

/-- An upgrade has all its three clients, and whoever joins or leaves through
the worker is a member. -/
structure Room.Seated (room : Room) : Prop where
  upgrading : room.upgrade.isSome = true -> room.members.size = 3
  joining : ∀ join, room.pendingJoin = some join ->
    join.clientId ∈ room.members
  leaving : ∀ leave, room.pendingLeave = some leave ->
    leave.clientId ∈ room.members

/-- The clients that the move adds to the count of the room. -/
def Move.charges (roomId : RoomId) : Move -> Nat
  | .completeJoin _ _ subject _ => if subject = roomId then 1 else 0
  | _ => 0

/-- The clients that the move takes off the count of the room. -/
def Move.refunds (roomId : RoomId) : Move -> Nat
  | .completeLeave _ subject _ => if subject = roomId then 1 else 0
  | _ => 0

/-- The move takes the room from its worker. -/
def Move.Frees (room : Room) : Move -> Prop
  | .abortUpgrade _ _ | .downgrade _ => True
  | .expireRoom _ _ => room.mode = .upgrading
  | _ => False

/-- The move takes no member out of the room without its worker's count: nobody
is removed from it, a leave is that of a member whose join is not pending, and
no join is refused while its client is leaving. -/
def Room.Fair (room : Room) (roomId : RoomId) (move : Move) : Prop :=
  match move with
  | .removeFailed subject _ => subject ≠ roomId
  | .completeLeave _ subject clientId => subject = roomId ->
      (∃ leave, room.pendingLeave = some leave ∧ leave.clientId = clientId) ∧
      ∀ join, room.pendingJoin = some join -> join.clientId ≠ clientId
  | .refuseJoin _ subject => subject = roomId -> ∀ join leave,
      room.pendingJoin = some join -> room.pendingLeave = some leave ->
      join.clientId ≠ leave.clientId
  | _ => True

theorem size_pos_of_mem
    {members : ExtTreeMap ClientId Member}
    {clientId : ClientId}
    (present : clientId ∈ members) :
    0 < members.size := by
  rw [← ExtTreeMap.length_keys]
  exact List.length_pos_of_mem (ExtTreeMap.mem_keys.2 present)

/-- A room counts no more clients than it has members. -/
theorem Room.Seated.charge_le
    {room : Room}
    (seated : room.Seated) :
    room.charge ≤ room.members.size := by
  unfold charge
  split
  · next running => exact (seated.upgrading running).ge
  · exact Nat.sub_le _ _

/-- A change that keeps the number of the members, whoever joins or leaves, and
the transitions. -/
theorem Room.Seated.kept
    {room after : Room}
    (seated : room.Seated)
    (size : after.members.size = room.members.size)
    (members : ∀ clientId ∈ room.members, clientId ∈ after.members)
    (upgrade : after.upgrade.isSome = room.upgrade.isSome)
    (join : after.pendingJoin = room.pendingJoin)
    (leave : after.pendingLeave = room.pendingLeave) :
    after.Seated ∧ after.charge = room.charge := by
  refine ⟨⟨fun running => ?_, fun pending waits => ?_, fun pending waits => ?_⟩,
    ?_⟩
  · rw [size]
    exact seated.upgrading (upgrade ▸ running)
  · exact members _ (seated.joining pending (join ▸ waits))
  · exact members _ (seated.leaving pending (leave ▸ waits))
  · rw [charge, charge, upgrade, size, join]

/-- A started upgrade has three clients, and its worker counts them. -/
theorem Room.startUpgrade_charge
    {room : Room}
    {authorityRequestId : Nat}
    {clientId : ClientId}
    {member : Member}
    {lifecycle : ClientId -> Nat}
    {instanceId : InstanceId}
    (shape : room.WellFormed)
    (direct : room.mode = .p2p)
    (full : ¬room.members.size < maxP2pMembers)
    (fresh : room.members.contains clientId = false) :
    (room.startUpgrade authorityRequestId clientId member lifecycle
        instanceId).Seated ∧
      (room.startUpgrade authorityRequestId clientId member lifecycle
        instanceId).charge = 3 := by
  obtain ⟨most, -, -, noJoin, noLeave⟩ := shape.direct direct
  refine ⟨⟨fun _ => ?_, ?_, ?_⟩, rfl⟩
  · simp only [maxP2pMembers] at full most
    simp only [Room.startUpgrade, Room.relive, Room.insertMember,
      ExtTreeMap.size_map, ExtTreeMap.size_insert]
    rw [if_neg (by simp [fresh])]
    omega
  · simp [Room.startUpgrade, Room.relive, Room.insertMember, noJoin]
  · simp [Room.startUpgrade, Room.relive, Room.insertMember, noLeave]

/-- What a fair move makes of a carried room. -/
theorem RoomMoved.charged
    {roomId : RoomId}
    {move : Move}
    {room : Room}
    {after : Option Room}
    (moved : RoomMoved roomId move (some room) after)
    (wellFormed : room.WellFormed)
    (carried : room.mode ≠ .p2p)
    (seated : room.Seated)
    (fair : room.Fair roomId move)
    (holds : ¬move.Frees room) :
    (∀ left, after = some left -> left.Seated) ∧
      chargeOf after + move.refunds roomId =
        room.charge + move.charges roomId := by
  have settled (left : Room)
      (same : left.Seated ∧ left.charge = room.charge) :
      (∀ other, some left = some other -> other.Seated) ∧
        chargeOf (some left) = room.charge := by
    refine ⟨?_, same.2⟩
    rintro _ ⟨⟩
    exact same.1
  generalize start : some room = before at moved
  cases moved with
  | kept elsewhere =>
      subst start
      have about : move.room? ≠ some roomId := by simpa using elsewhere
      have free : move.refunds roomId = 0 ∧ move.charges roomId = 0 := by
        cases move <;> simp_all [Move.refunds, Move.charges, Move.room?]
      rw [free.1, free.2]
      exact settled room ⟨seated, rfl⟩
  | create => cases start
  | joinDirect now grace token lifecycleId fresh direct
  | beginUpgrade now grace token lifecycleId lifecycle instanceId fresh direct =>
      cases start
      exact absurd direct carried
  | removeDirect present noJoin noLeave direct =>
      cases start
      exact absurd direct carried
  | expireMembers now direct =>
      cases start
      exact absurd direct carried
  | removeFailed =>
      cases start
      exact absurd rfl fair
  | abortUpgrade | downgrade => exact absurd trivial holds
  | expireUpgrade instanceId upgrading =>
      cases start
      exact absurd upgrading holds
  | beginJoin now grace token lifecycleId fresh forwarded noJoin noLeave =>
      rename_i clientId authorityRequestId
      cases start
      have noUpgrade := (wellFormed.forwarded forwarded).2
      have grown : (room.members.insert clientId
          (newMember now grace token false lifecycleId)).size =
          room.members.size + 1 := by
        rw [ExtTreeMap.size_insert, if_neg (by simp [fresh])]
      refine ⟨?_, ?_⟩
      · rintro _ ⟨⟩
        refine ⟨by simp [noUpgrade], ?_, by simp [noLeave]⟩
        rintro _ ⟨⟩
        simp
      · simp [chargeOf, Room.charge, Room.insertMember, noUpgrade, noJoin,
          grown, Move.refunds, Move.charges]
  | register settles present unregistered =>
      cases start
      obtain ⟨members, size⟩ := Room.registerMember_clients present
      exact settled _ (seated.kept size (fun _ listed => (members _).2 listed)
        (by simp) (by simp) (by simp))
  | dropWithLeave present =>
      cases start
      have size := size_insert_present
        (show Member from { ‹Member› with registered := false }) present
      refine settled _ ⟨⟨fun running => size.trans (seated.upgrading running),
        fun join waits => ?_, ?_⟩, ?_⟩
      · exact (mem_insert_present _ present).2 (seated.joining join waits)
      · rintro _ ⟨⟩
        simp
      · simp [Room.charge, size]
  | dropWithGrace deadline present | queueMessage present =>
      cases start
      exact settled _ (seated.kept (size_insert_present _ present)
        (fun _ listed => (mem_insert_present _ present).2 listed) rfl rfl rfl)
  | requestLeave present | retryLeave present =>
      cases start
      refine settled _ ⟨⟨seated.upgrading, seated.joining, ?_⟩, rfl⟩
      rintro _ ⟨⟩
      exact ExtTreeMap.mem_iff_isSome_getElem?.2 (by simp [present])
  | reportFailure | refuseSync | clearDeadline =>
      cases start
      exact settled _ (seated.kept rfl (fun _ listed => listed) rfl rfl rfl)
  | advanceUpgrade requestId upgrading =>
      cases start
      exact settled _ (seated.kept rfl (fun _ listed => listed)
        (by simp [Room.advanceUpgrade, upgrading]) rfl rfl)
  | commitUpgrade requestId upgrading finished =>
      rename_i upgrade clientId
      cases start
      obtain ⟨-, -, -, noJoin, noLeave, -⟩ := wellFormed.upgrade upgrade upgrading
      have three := seated.upgrading (by simp [upgrading])
      refine settled _ ⟨⟨by simp [Room.commitSfu], ?_, ?_⟩, ?_⟩
      · simp [Room.commitSfu, Room.advanceUpgrade, noJoin]
      · simp [Room.commitSfu, Room.advanceUpgrade, noLeave]
      · simp [Room.charge, Room.commitSfu, Room.advanceUpgrade, upgrading,
          noJoin, three]
  | completeJoin instanceId requestId joining =>
      rename_i join clientId
      cases start
      have idle := wellFormed.idle (.inl (by simp [joining]))
      have filled := size_pos_of_mem (seated.joining join joining)
      refine ⟨?_, ?_⟩
      · rintro _ ⟨⟩
        exact ⟨seated.upgrading, by simp, seated.leaving⟩
      · simp [chargeOf, Room.charge, idle, joining, Move.refunds, Move.charges]
        omega
  | refuseJoin requestId joining =>
      rename_i join
      cases start
      have idle := wellFormed.idle (.inl (by simp [joining]))
      have there := seated.joining join joining
      refine settled _ ⟨⟨by simp [idle], by simp, fun leave leaving => ?_⟩, ?_⟩
      · have other := fair rfl join leave joining leaving
        simpa [Room.eraseMember, other] using seated.leaving leave leaving
      · simp [Room.charge, idle, joining, Room.eraseMember,
          ExtTreeMap.size_erase, there]
  | completeLeave requestId deadline leaving armed =>
      rename_i clientId
      cases start
      obtain ⟨⟨leave, leaves, rfl⟩, others⟩ := fair rfl
      have idle := wellFormed.idle (.inr (by simp [leaving]))
      have there := seated.leaving leave leaves
      have shrunk : (room.members.erase leave.clientId).size + 1 =
          room.members.size := by
        rw [ExtTreeMap.size_erase, if_pos (ExtTreeMap.mem_iff_contains.1 there)]
        exact Nat.sub_add_cancel (size_pos_of_mem there)
      have waits : ∀ join, room.pendingJoin = some join ->
          join.clientId ∈ room.members.erase leave.clientId := fun join joining =>
        ExtTreeMap.mem_erase.2 ⟨by simpa using (others join joining).symm,
          seated.joining join joining⟩
      refine ⟨fun left stored => ?_, ?_⟩
      · obtain rfl := Room.eq_of_stored stored
        exact ⟨by simp [Room.afterLeave, Room.eraseMember, idle], waits,
          by simp [Room.afterLeave]⟩
      · have counted : chargeOf (room.afterLeave leave.clientId deadline).stored =
            (room.members.erase leave.clientId).size -
              if room.pendingJoin.isSome then 1 else 0 := by
          unfold Room.stored
          split
          · next empty =>
              rw [ExtTreeMap.isEmpty_eq_size_beq_zero, beq_iff_eq] at empty
              simp only [Room.afterLeave, Room.eraseMember] at empty
              simp [chargeOf, empty]
          · simp [chargeOf, Room.charge, Room.afterLeave, Room.eraseMember, idle]
        have one : (if room.pendingJoin.isSome then 1 else 0) ≤
            (room.members.erase leave.clientId).size := by
          cases joining : room.pendingJoin with
          | none => simp
          | some join => exact size_pos_of_mem (waits join joining)
        rw [counted, Room.charge, idle]
        simp only [Move.refunds, Move.charges, if_true, Option.isSome_none,
          Bool.false_eq_true, if_false]
        omega
  | refuseLeave requestId leaving =>
      cases start
      exact settled _ ⟨⟨seated.upgrading, seated.joining, by simp⟩, rfl⟩
  | expireRoom instanceId settles =>
      cases start
      cases joining : room.pendingJoin with
      | none =>
          refine settled _ ⟨⟨?_, by simp [Room.fail], by simp [Room.fail]⟩, ?_⟩
          · simpa [Room.fail, joining] using seated.upgrading
          · simp [Room.charge, Room.fail, joining]
      | some join =>
          have idle := wellFormed.idle (.inl (by simp [joining]))
          have there := seated.joining join joining
          refine settled _ ⟨⟨by simp [Room.fail, idle], by simp [Room.fail],
            by simp [Room.fail]⟩, ?_⟩
          simp [Room.charge, Room.fail, idle, joining, ExtTreeMap.size_erase,
            there]
  | rearmGrace deadline present unregistered forwarded =>
      cases start
      refine settled _ (seated.kept (size_modifyMember _ _ _)
        (fun _ listed => ?_) rfl rfl rfl)
      exact ExtTreeMap.mem_modify.2 listed

/-! ## The count of a worker -/

/-- What a worker counts for the room of an id. -/
def RoomTable.chargeAt (table : RoomTable) (roomId : RoomId) : Nat :=
  chargeOf table.rooms[roomId]?

theorem RoomTable.chargeAt_congr
    {table next : RoomTable}
    {roomId : RoomId}
    (same : next.rooms[roomId]? = table.rooms[roomId]?) :
    next.chargeAt roomId = table.chargeAt roomId := by
  rw [chargeAt, chargeAt, same]

theorem RoomTable.chargeAt_found
    {table : RoomTable}
    {roomId : RoomId}
    {room : Room}
    (found : table.rooms[roomId]? = some room) :
    table.chargeAt roomId = room.charge := by
  rw [chargeAt, found]
  rfl

/-- The worker counts the clients of the rooms on its list, and these are
seated. -/
structure RoomTable.Balanced (table : RoomTable) (worker : Worker) : Prop where
  counted : worker.assignedClients =
    total worker.assignedRooms table.chargeAt
  seated : ∀ roomId ∈ worker.assignedRooms, ∀ room,
    table.rooms[roomId]? = some room -> room.Seated

/-- Workers list the rooms that they carry and count the clients in them. -/
structure Accounted
    (phase : Option InstanceId)
    (table : RoomTable) : Prop where
  assigned : Assigned (fun _ => True) phase table
  balanced : ∀ (instanceId : InstanceId) (worker : Worker),
    table.workers[instanceId]? = some worker -> table.Balanced worker

/-- The move leaves no member uncounted: nobody is removed from a failed room
that a worker lists, no join is refused and no leave confirmed for a client that
joins and leaves at once, and the members can be counted. -/
def RoomTable.Just (table : RoomTable) (move : Move) : Prop :=
  match move with
  | .removeFailed roomId _ => ∀ instanceId, ¬table.Lists instanceId roomId
  | .refuseJoin _ roomId | .completeLeave _ roomId _ => ∀ (room : Room)
      (join : PendingJoin) (leave : PendingLeave),
      table.rooms[roomId]? = some room -> room.pendingJoin = some join ->
      room.pendingLeave = some leave -> join.clientId ≠ leave.clientId
  | .beginUpgrade .. | .completeJoin .. => table.memberCount + 3 ≤ u64Max
  | _ => True

namespace RoomTable.Balanced

variable
  {table next : RoomTable}
  {worker later : Worker}
  {roomId : RoomId}

/-- The rooms keep what they count. -/
theorem kept
    (balanced : table.Balanced worker)
    (lists : later.assignedRooms = worker.assignedRooms)
    (clients : later.assignedClients = worker.assignedClients)
    (same : ∀ roomId ∈ worker.assignedRooms,
      next.chargeAt roomId = table.chargeAt roomId ∧
        ∀ room, next.rooms[roomId]? = some room -> room.Seated) :
    next.Balanced later where
  counted := by
    rw [lists, clients, balanced.counted]
    exact total_congr fun roomId listed => (same roomId listed).1.symm
  seated := fun roomId listed => (same roomId (lists ▸ listed)).2

/-- A worker with an empty account counts right. -/
theorem of_empty
    (lists : later.assignedRooms = ∅)
    (clients : later.assignedClients = 0) :
    next.Balanced later where
  counted := by rw [lists, clients, total_empty]
  seated := by simp [lists]

/-- Only a room that the worker does not list changes. -/
theorem elsewhere
    (balanced : table.Balanced worker)
    (unlisted : roomId ∉ worker.assignedRooms)
    (rooms : ∀ otherId, otherId ≠ roomId ->
      next.rooms[otherId]? = table.rooms[otherId]?) :
    next.Balanced worker := by
  refine balanced.kept rfl rfl fun otherId listed => ?_
  have other : otherId ≠ roomId := by
    rintro rfl
    exact unlisted listed
  refine ⟨chargeAt_congr (rooms otherId other), fun room found => ?_⟩
  exact balanced.seated otherId listed room (rooms otherId other ▸ found)

/-- A listed room changes what it counts. -/
theorem recharged
    (balanced : table.Balanced worker)
    (listed : roomId ∈ worker.assignedRooms)
    (rooms : ∀ otherId, otherId ≠ roomId ->
      next.rooms[otherId]? = table.rooms[otherId]?)
    (lists : later.assignedRooms = worker.assignedRooms)
    (clients : later.assignedClients + table.chargeAt roomId =
      worker.assignedClients + next.chargeAt roomId)
    (seated : ∀ room, next.rooms[roomId]? = some room -> room.Seated) :
    next.Balanced later where
  counted := by
    have exchange : total worker.assignedRooms next.chargeAt +
          table.chargeAt roomId =
        total worker.assignedRooms table.chargeAt + next.chargeAt roomId :=
      total_exchange listed fun otherId _ other =>
        (chargeAt_congr (rooms otherId other)).symm
    have before := balanced.counted
    rw [lists]
    omega
  seated := by
    intro otherId inside room found
    rw [lists] at inside
    by_cases same : otherId = roomId
    · subst same
      exact seated room found
    · exact balanced.seated otherId inside room (rooms otherId same ▸ found)

/-- A listed room is taken off the list with what it counts. -/
theorem freed
    (balanced : table.Balanced worker)
    (listed : roomId ∈ worker.assignedRooms)
    (rooms : ∀ otherId, otherId ≠ roomId ->
      next.rooms[otherId]? = table.rooms[otherId]?)
    (lists : later.assignedRooms = worker.assignedRooms.erase roomId)
    (clients : later.assignedClients =
      worker.assignedClients - table.chargeAt roomId) :
    next.Balanced later := by
  have other {otherId : RoomId}
      (inside : otherId ∈ worker.assignedRooms.erase roomId) :
      otherId ≠ roomId := by
    rintro rfl
    simp at inside
  have less : total (worker.assignedRooms.erase roomId) table.chargeAt +
      table.chargeAt roomId = total worker.assignedRooms table.chargeAt :=
    total_erase listed
  have same : total (worker.assignedRooms.erase roomId) next.chargeAt =
      total (worker.assignedRooms.erase roomId) table.chargeAt :=
    total_congr fun otherId inside =>
      chargeAt_congr (rooms otherId (other inside))
  refine ⟨?_, fun otherId inside room found => ?_⟩
  · have before := balanced.counted
    rw [lists]
    omega
  · rw [lists] at inside
    exact balanced.seated otherId (ExtTreeSet.mem_of_mem_erase inside) room
      (rooms otherId (other inside) ▸ found)

/-- A room comes on the list with what it counts. -/
theorem charged
    (balanced : table.Balanced worker)
    (fresh : roomId ∉ worker.assignedRooms)
    (rooms : ∀ otherId, otherId ≠ roomId ->
      next.rooms[otherId]? = table.rooms[otherId]?)
    (lists : later.assignedRooms = worker.assignedRooms.insert roomId)
    (clients : later.assignedClients =
      worker.assignedClients + next.chargeAt roomId)
    (seated : ∀ room, next.rooms[roomId]? = some room -> room.Seated) :
    next.Balanced later := by
  have former := balanced.elsewhere fresh rooms
  refine ⟨?_, fun otherId inside room found => ?_⟩
  · rw [lists, clients, total_insert fresh, former.counted]
  · rw [lists, ExtTreeSet.mem_insert] at inside
    rcases inside with same | inside
    · obtain rfl := Std.LawfulEqCmp.eq_of_compare same
      exact seated room found
    · exact former.seated otherId inside room found

/-- A worker counts the clients of each of its rooms. -/
theorem charge_le
    (balanced : table.Balanced worker)
    (listed : roomId ∈ worker.assignedRooms) :
    table.chargeAt roomId ≤ worker.assignedClients := by
  rw [balanced.counted, ← total_erase listed]
  exact Nat.le_add_left _ _

/-- A worker counts no more clients than there are members. -/
theorem le_memberCount (balanced : table.Balanced worker) :
    worker.assignedClients ≤ table.memberCount := by
  rw [balanced.counted]
  show _ ≤ tally table.rooms fun room => room.members.size
  refine total_le_tally fun roomId listed => ?_
  unfold weightAt chargeAt chargeOf
  cases found : table.rooms[roomId]? with
  | none => exact le_rfl
  | some room => exact (balanced.seated roomId listed room found).charge_le

end RoomTable.Balanced

/-! ## Moves -/

/-- Every worker of the later table keeps its account or has an empty one. -/
def RoomTable.KeepsAccounts (table after : RoomTable) : Prop :=
  ∀ (instanceId : InstanceId) (later : Worker),
    after.workers[instanceId]? = some later ->
    (later.assignedRooms = ∅ ∧ later.assignedClients = 0) ∨
      ∃ worker, table.workers[instanceId]? = some worker ∧
        later.assignedRooms = worker.assignedRooms ∧
        later.assignedClients = worker.assignedClients

/-- The move changes what some worker lists or counts. -/
def Move.Recounts (table : RoomTable) : Move -> Prop
  | .beginUpgrade .. | .abortUpgrade .. | .completeJoin .. | .completeLeave ..
  | .downgrade _ => True
  | .expireRoom _ roomId => ∃ room, table.rooms[roomId]? = some room ∧
      room.mode = .upgrading
  | _ => False

namespace RoomTable.KeepsAccounts

variable {table after : RoomTable}

theorem of_same (workers : after.workers = table.workers) :
    table.KeepsAccounts after := by
  intro instanceId later known
  rw [workers] at known
  exact .inr ⟨later, known, rfl, rfl⟩

/-- A worker whose record changes keeps its account or has it emptied. -/
theorem of_modify
    {instanceId : InstanceId}
    {update : Worker -> Worker}
    (workers : after.workers = table.workers.modify instanceId update)
    (keeps : ∀ worker,
      ((update worker).assignedRooms = ∅ ∧
        (update worker).assignedClients = 0) ∨
      ((update worker).assignedRooms = worker.assignedRooms ∧
        (update worker).assignedClients = worker.assignedClients)) :
    table.KeepsAccounts after := by
  intro otherId later known
  rw [workers, ExtTreeMap.getElem?_modify] at known
  split at known
  · next same =>
      obtain rfl := Std.LawfulEqCmp.eq_of_compare same
      obtain ⟨worker, present, rfl⟩ := Option.map_eq_some_iff.1 known
      exact (keeps worker).imp_right fun kept => ⟨worker, present, kept⟩
  · exact .inr ⟨later, known, rfl, rfl⟩

end RoomTable.KeepsAccounts

theorem RoomTable.failRoom_workers
    (table : RoomTable)
    (order : VisitOrder)
    (roomId : RoomId)
    (reason : String) :
    (table.failRoom order roomId reason).workers = table.workers := by
  unfold RoomTable.failRoom
  split <;> simp

/-- Only few moves change an account. -/
theorem Moved.keeps_accounts
    {phase phase' : Option InstanceId}
    {table table' : RoomTable}
    {move : Move}
    (taken : Moved phase table move phase' table')
    (plain : ¬move.Recounts table) :
    table.KeepsAccounts table' := by
  cases taken with
  | beginUpgrade | abortUpgrade | completeJoin | completeLeave | downgrade =>
      exact absurd trivial plain
  | expireUpgrade waits listed found upgrading =>
      exact absurd ⟨_, found, upgrading⟩ plain
  | create | joinDirect | beginJoin | register | dropWithLeave | dropWithGrace
  | forwardSignal | queueMessage | requestLeave | push | answer | refuseJoin
  | beginExpiry | clearDeadline | retryLeave | rearmGrace | setDwell =>
      exact .of_same (by simp)
  | removeFailed | removeDirect | expireMembers =>
      refine .of_same ?_
      unfold RoomTable.setOrDropRoom
      split <;> rfl
  | connectWorker connectionId capacity actions notices =>
      rename_i instanceId
      intro otherId later known
      simp only [retireAll_workers, pushActions_workers,
        RoomTable.connectWorker, ExtTreeMap.getElem?_insert] at known
      split at known
      · next same =>
          obtain rfl := Std.LawfulEqCmp.eq_of_compare same
          obtain rfl := Option.some.inj known
          cases present : table.workers[instanceId]? with
          | none => exact .inl ⟨rfl, rfl⟩
          | some worker => exact .inr ⟨worker, rfl, rfl, rfl⟩
      · exact .inr ⟨later, known, rfl, rfl⟩
  | syncRoom order found =>
      refine .of_same ?_
      simp [syncAssignedRoom, found]
  | noteEvent update actions keepsConnection keepsDeadline keepsRooms
      keepsClients =>
      refine .of_modify (by simp; rfl) fun worker => .inr ?_
      exact ⟨keepsRooms worker, keepsClients worker⟩
  | reportFailure requestId order reason ack known =>
      refine .of_modify (by simp [failRoom_workers]; rfl) fun worker => .inr ?_
      simp
  | disconnectWorker now =>
      exact .of_modify rfl fun _ => .inr ⟨rfl, rfl⟩
  | refuseSync order outstanding =>
      exact .of_same (by simp [failRoom_workers])
  | advanceUpgrade outstanding connected found upgrading unfinished =>
      rename_i roomId clientId lifecycleId assignmentEpoch room upgrade
        connectionId
      refine .of_same ?_
      rcases RoomTable.issueNextUpgradeJoin_cases
        ((table.retireCommand _).setRoom roomId
          (room.advanceUpgrade upgrade clientId)) roomId with ⟨error, same⟩ |
        ⟨advanced, later, nextId, member, worker, nextConnection, -, -, -, -, -,
          -, issued⟩
      · rw [same]
        simp
      · rw [issued]
        simp
  | commitUpgrade order outstanding connected found upgrading finished =>
      rename_i roomId clientId lifecycleId assignmentEpoch room upgrade
        connectionId
      refine .of_same ?_
      rw [commitUpgrade_eq order (room.advanceUpgrade upgrade clientId)
        (by simp) rfl]
      split <;> simp
  | refuseLeave reason outstanding found leaving =>
      refine .of_same ?_
      rw [removalAnswer_eq]
      simp
  | expireRoom => exact .of_same (by simp [failExpired])
  | endExpiry waits settled =>
      refine .of_modify (by simp [releaseWorker]; rfl) fun _ => .inl ⟨rfl, rfl⟩
  | pollAction =>
      refine .of_same ?_
      unfold RoomTable.pollAction
      split <;> rfl

namespace Accounted

variable
  {phase phase' : Option InstanceId}
  {table table' : RoomTable}
  {move : Move}
  {roomId : RoomId}
  {room : Room}
  {instanceId : InstanceId}
  {worker : Worker}

/-- A listed room is stored and carried by the worker that lists it. -/
theorem carries
    (accounted : Accounted phase table)
    (known : table.workers[instanceId]? = some worker)
    (listed : roomId ∈ worker.assignedRooms) :
    ∃ room : Room, table.rooms[roomId]? = some room ∧
      room.assignedInstance = some instanceId ∧ room.Seated := by
  obtain ⟨room, found, carried⟩ :=
    accounted.assigned.listed instanceId roomId ⟨worker, known, listed⟩
  exact ⟨room, found, carried,
    (accounted.balanced instanceId worker known).seated roomId listed room
      found⟩

/-- No other worker lists a room that a worker carries. -/
theorem unlisted
    {otherInstance : InstanceId}
    {other : Worker}
    (accounted : Accounted phase table)
    (found : table.rooms[roomId]? = some room)
    (carried : room.assignedInstance = some instanceId)
    (different : otherInstance ≠ instanceId)
    (known : table.workers[otherInstance]? = some other) :
    roomId ∉ other.assignedRooms := by
  intro listed
  obtain ⟨stored, present, carries, -⟩ := accounted.carries known listed
  obtain rfl := Option.some.inj (found.symm.trans present)
  exact different (Option.some.inj (carries.symm.trans carried))

/-- A change of one room and of its worker's record keeps the accounts when the
worker's own is kept. -/
theorem of_worker
    (update : Worker -> Worker)
    (accounted : Accounted phase table)
    (found : table.rooms[roomId]? = some room)
    (carried : room.assignedInstance = some instanceId)
    (rooms : ∀ otherId, otherId ≠ roomId ->
      table'.rooms[otherId]? = table.rooms[otherId]?)
    (workers : table'.workers = table.workers.modify instanceId update)
    (here : ∀ worker, table.workers[instanceId]? = some worker ->
      table.Balanced worker -> table'.Balanced (update worker))
    (otherInstance : InstanceId)
    (later : Worker)
    (known : table'.workers[otherInstance]? = some later) :
    table'.Balanced later := by
  rw [workers, ExtTreeMap.getElem?_modify] at known
  split at known
  · next same =>
      obtain rfl := Std.LawfulEqCmp.eq_of_compare same
      obtain ⟨worker, present, rfl⟩ := Option.map_eq_some_iff.1 known
      exact here worker present (accounted.balanced _ worker present)
  · next other =>
      have different : otherInstance ≠ instanceId := by
        rintro rfl
        exact other Std.ReflCmp.compare_self
      exact (accounted.balanced _ later known).elsewhere
        (accounted.unlisted found carried different known) rooms

/-- A carried room is taken from its worker with what it counts. -/
theorem released
    {count : Nat}
    {released : Room}
    (accounted : Accounted phase table)
    (found : table.rooms[roomId]? = some room)
    (carried : room.assignedInstance = some instanceId)
    (shown : table.Lists instanceId roomId)
    (rooms : table'.rooms = table.rooms.insert roomId released)
    (workers : table'.workers =
      table.workers.modify instanceId (dischargeRoom roomId count))
    (counts : count = room.charge) :
    ∀ (otherInstance : InstanceId) (later : Worker),
      table'.workers[otherInstance]? = some later -> table'.Balanced later := by
  have others (otherId : RoomId) (other : otherId ≠ roomId) :
      table'.rooms[otherId]? = table.rooms[otherId]? := by
    rw [rooms]
    grind
  refine accounted.of_worker (dischargeRoom roomId count) found carried others
    workers fun worker present balanced => ?_
  obtain ⟨same, known, listed⟩ := shown
  obtain rfl := Option.some.inj (present.symm.trans known)
  refine balanced.freed listed others rfl ?_
  rw [RoomTable.chargeAt_found found, ← counts]
  rfl

/-- A room that no worker lists is given to a worker with its three clients. -/
theorem enlisted
    {upgraded : Room}
    (accounted : Accounted phase table)
    (absent : ∀ (otherInstance : InstanceId) (worker : Worker),
      table.workers[otherInstance]? = some worker ->
      roomId ∉ worker.assignedRooms)
    (rooms : table'.rooms = table.rooms.insert roomId upgraded)
    (workers : table'.workers =
      table.workers.modify instanceId (chargeRoom roomId))
    (three : upgraded.Seated ∧ upgraded.charge = 3)
    (bound : table.memberCount + 3 ≤ u64Max) :
    ∀ (otherInstance : InstanceId) (later : Worker),
      table'.workers[otherInstance]? = some later -> table'.Balanced later := by
  have others (otherId : RoomId) (other : otherId ≠ roomId) :
      table'.rooms[otherId]? = table.rooms[otherId]? := by
    rw [rooms]
    grind
  have found : table'.rooms[roomId]? = some upgraded := by
    rw [rooms, ExtTreeMap.getElem?_insert_self]
  intro otherInstance later known
  rw [workers, ExtTreeMap.getElem?_modify] at known
  split at known
  · next same =>
      obtain ⟨worker, present, rfl⟩ := Option.map_eq_some_iff.1 known
      have balanced := accounted.balanced _ worker present
      have counted := balanced.le_memberCount
      refine balanced.charged (absent _ worker present) others rfl ?_
        fun room stored => Option.some.inj (found.symm.trans stored) ▸ three.1
      rw [RoomTable.chargeAt_found found, three.2]
      exact saturatingAdd_eq (by omega)
  · exact (accounted.balanced _ later known).elsewhere (absent _ later known)
      others

/-- What a fair move makes of a listed room that it leaves to its worker. -/
theorem listed_charged
    (accounted : Accounted phase table)
    (wellFormed : table.WellFormed)
    (taken : Moved phase table move phase' table')
    (known : table.workers[instanceId]? = some worker)
    (listed : roomId ∈ worker.assignedRooms)
    (fair : ∀ room, table.rooms[roomId]? = some room -> room.Fair roomId move)
    (holds : ∀ room, table.rooms[roomId]? = some room -> ¬move.Frees room) :
    (∀ room, table'.rooms[roomId]? = some room -> room.Seated) ∧
      table'.chargeAt roomId + move.refunds roomId =
        table.chargeAt roomId + move.charges roomId := by
  obtain ⟨room, found, carried, seated⟩ := accounted.carries known listed
  have shape := wellFormed.rooms roomId room found
  have moved := taken.room wellFormed roomId
  rw [found] at moved
  rw [RoomTable.chargeAt_found found]
  exact moved.charged shape
    (fun direct => by simp [(shape.direct direct).2.1] at carried) seated
    (fair room found) (holds room found)

/-- A move that touches no account keeps what a listed room counts. -/
theorem listed_kept
    (accounted : Accounted phase table)
    (wellFormed : table.WellFormed)
    (taken : Moved phase table move phase' table')
    (just : table.Just move)
    (plain : ¬move.Recounts table)
    (known : table.workers[instanceId]? = some worker)
    (listed : roomId ∈ worker.assignedRooms) :
    table'.chargeAt roomId = table.chargeAt roomId ∧
      ∀ room, table'.rooms[roomId]? = some room -> room.Seated := by
  by_cases about : move.room? = some roomId
  · have quiet : move.refunds roomId = 0 ∧ move.charges roomId = 0 := by
      cases move <;> simp_all [Move.refunds, Move.charges, Move.Recounts]
    obtain ⟨seats, charge⟩ := accounted.listed_charged wellFormed taken known
      listed (fun room found => by
        cases move <;> simp only [Room.Fair]
        case removeFailed =>
          rintro rfl
          exact just instanceId ⟨worker, known, listed⟩
        case completeLeave => exact absurd trivial plain
        case refuseJoin =>
          rintro rfl
          exact fun join leave => just room join leave found)
      (fun room found => by
        cases move <;> simp_all [Move.Frees, Move.Recounts, Move.room?])
    rw [quiet.1, quiet.2] at charge
    exact ⟨charge, seats⟩
  · have same := (taken.room wellFormed roomId).elsewhere about
    refine ⟨RoomTable.chargeAt_congr same, fun room stored => ?_⟩
    rw [same] at stored
    exact (accounted.balanced instanceId worker known).seated roomId listed room
      stored

/-- A confirmed leave is that of a member, and of no client that joins. -/
theorem leaver
    {requestId : Nat}
    {clientId : ClientId}
    {lifecycleId assignmentEpoch : Nat}
    (accounted : Accounted none table)
    (just : table.Just (.completeLeave requestId roomId clientId))
    (found : table.rooms[roomId]? = some room)
    (outstanding : table.pendingCommands[requestId]? =
      some (.sfuLeave instanceId roomId clientId lifecycleId assignmentEpoch)) :
    room.assignedInstance = some instanceId ∧ table.Lists instanceId roomId ∧
      room.Seated ∧
      room.Fair roomId (.completeLeave requestId roomId clientId) := by
  obtain ⟨backs, otherId, named, carried, shown⟩ :=
    accounted.assigned.carried_of_outstanding .leave found outstanding rfl
      trivial (by simp [PendingCommand.instance?])
  obtain rfl : instanceId = otherId := Option.some.inj named
  obtain ⟨leave, leaving, same, -⟩ := backs
  obtain ⟨worker, known, listed⟩ := shown
  refine ⟨carried, ⟨worker, known, listed⟩,
    (accounted.balanced _ worker known).seated roomId listed room found,
    fun _ => ⟨⟨leave, leaving, same⟩, fun join joining => ?_⟩⟩
  exact same ▸ just room join leave found joining leaving

/-- Every just move keeps lists and commands in step. -/
theorem sound
    (accounted : Accounted phase table)
    (taken : Moved phase table move phase' table')
    (just : table.Just move) :
    Sound (fun _ => True) table move := by
  cases taken with
  | removeFailed => exact fun _ _ _ => just
  | completeLeave now outstanding found leaving =>
      intro _ other stored last
      obtain rfl := Option.some.inj (found.symm.trans stored)
      obtain ⟨-, -, seated, fair⟩ := accounted.leaver just found outstanding
      by_contra joining
      obtain ⟨join, joining⟩ := Option.ne_none_iff_exists'.1 joining
      have waits := seated.joining join joining
      have different := (fair rfl).2 join joining
      rw [ExtTreeMap.isEmpty_eq_size_beq_zero, beq_iff_eq] at last
      exact (size_pos_of_mem (ExtTreeMap.mem_erase.2
        ⟨by simpa using different.symm, waits⟩)).ne' last
  | _ => trivial

/-- Every just move keeps the accounts. -/
theorem moved
    (accounted : Accounted phase table)
    (taken : Moved phase table move phase' table')
    (just : table.Just move)
    (wellFormed : table.WellFormed)
    (records : table.CommandsMatch) :
    Accounted phase' table' := by
  refine ⟨accounted.assigned.moved taken trivial trivial
    (accounted.sound taken just) wellFormed records, ?_⟩
  have plainly (plain : ¬move.Recounts table) : ∀ (instanceId : InstanceId)
      (later : Worker), table'.workers[instanceId]? = some later ->
      table'.Balanced later := by
    intro instanceId later known
    rcases taken.keeps_accounts plain instanceId later known with
      ⟨lists, clients⟩ | ⟨worker, former, lists, clients⟩
    · exact .of_empty lists clients
    · exact (accounted.balanced instanceId worker former).kept lists clients
        fun roomId listed => accounted.listed_kept wellFormed taken just plain
          former listed
  cases id taken with
  | beginUpgrade authorityRequestId now token found fresh direct full selected =>
      rename_i roomId room clientId instanceId
      obtain ⟨lifecycle, counters, lifecycleId, first, joining, connectionId,
        -, -, -, begun⟩ := beginUpgrade_eq authorityRequestId now token roomId
          fresh full selected
      have shape := wellFormed.rooms roomId room found
      have absent (otherInstance : InstanceId) (worker : Worker)
          (known : table.workers[otherInstance]? = some worker) :
          roomId ∉ worker.assignedRooms := fun listed =>
        accounted.assigned.unlisted_of_unassigned found (shape.direct direct).2.1
          otherInstance ⟨worker, known, listed⟩
      rw [begun]
      exact accounted.enlisted absent (by simp; rfl) (by simp; rfl)
        (Room.startUpgrade_charge shape direct full fresh) just
  | completeJoin outstanding found joining =>
      rename_i requestId instanceId roomId clientId lifecycleId
        assignmentEpoch room pendingJoin
      obtain ⟨-, otherId, named, carried, worker, known, listed⟩ :=
        accounted.assigned.carried_of_outstanding .join found outstanding rfl
          trivial (by simp [PendingCommand.instance?])
      obtain rfl : instanceId = otherId := Option.some.inj named
      obtain ⟨seats, charge⟩ := accounted.listed_charged wellFormed taken known
        listed (fun _ _ => trivial) (fun _ _ => id)
      have changes : ((table.retireCommand requestId).completeJoin instanceId
          roomId room clientId pendingJoin).2.rooms = table.rooms.insert roomId
            { room with pendingJoin := none } ∧
          ((table.retireCommand requestId).completeJoin instanceId roomId room
            clientId pendingJoin).2.workers =
              table.workers.modify instanceId chargeMember := by
        rw [completeJoin_eq]
        split <;> simp
      have others (otherId : RoomId) (other : otherId ≠ roomId) :
          ((table.retireCommand requestId).completeJoin instanceId roomId room
            clientId pendingJoin).2.rooms[otherId]? = table.rooms[otherId]? := by
        rw [changes.1]
        grind
      refine accounted.of_worker chargeMember found carried others changes.2
        fun same present balanced => ?_
      · obtain rfl := Option.some.inj (known.symm.trans present)
        have bound := balanced.le_memberCount
        simp only [RoomTable.Just] at just
        simp only [Move.refunds, Move.charges, if_true] at charge
        refine balanced.recharged listed others rfl ?_ seats
        simp only [chargeMember]
        rw [saturatingAdd_eq (by omega)]
        omega
  | completeLeave now outstanding found leaving =>
      rename_i requestId instanceId roomId clientId lifecycleId
        assignmentEpoch room pendingLeave
      obtain ⟨carried, ⟨worker, known, listed⟩, -, fair⟩ :=
        accounted.leaver just found outstanding
      obtain ⟨seats, charge⟩ := accounted.listed_charged wellFormed taken known
        listed (fun other stored => Option.some.inj (found.symm.trans stored) ▸
          fair) (fun _ _ => id)
      obtain ⟨deadline, -, complete⟩ := completeLeave_eq
        (table.retireCommand requestId) instanceId roomId room clientId
          pendingLeave now
      have others (otherId : RoomId) (other : otherId ≠ roomId) :
          ((table.retireCommand requestId).completeLeave instanceId roomId room
            clientId pendingLeave now).rooms[otherId]? =
              table.rooms[otherId]? := by
        rw [complete]
        split <;> simp <;> grind
      refine accounted.of_worker (dischargeMember roomId
        (room.members.erase clientId).isEmpty) found carried others ?_
        fun same present balanced => ?_
      · rw [complete]
        split <;> simp
      · obtain rfl := Option.some.inj (known.symm.trans present)
        simp only [Move.refunds, Move.charges, if_true] at charge
        cases last : (room.members.erase clientId).isEmpty with
        | true =>
            have gone : ((table.retireCommand requestId).completeLeave instanceId
                roomId room clientId pendingLeave now).chargeAt roomId = 0 := by
              rw [complete, RoomTable.chargeAt]
              simp [last, chargeOf]
            refine balanced.freed listed others rfl ?_
            simp only [dischargeMember]
            omega
        | false =>
            have counted := balanced.charge_le listed
            refine balanced.recharged listed others rfl ?_ seats
            simp only [dischargeMember]
            omega
  | abortUpgrade reason outstanding found upgrading =>
      rename_i requestId instanceId roomId clientId lifecycleId
        assignmentEpoch room upgrade
      obtain ⟨-, otherId, named, carried, shown⟩ :=
        accounted.assigned.carried_of_outstanding .upgrade found outstanding rfl
          trivial (by simp [PendingCommand.instance?])
      obtain ⟨leavers, answers, release, -⟩ := abortUpgrade_released
        (table.retireCommand requestId) reason found upgrading carried
      exact accounted.released found carried shown release.rooms release.workers
        (by simp [Room.charge, upgrading])
  | expireUpgrade waits listed found upgrading =>
      rename_i instanceId roomId room
      obtain ⟨worker, known, inside⟩ := listed
      obtain ⟨other, present, carried, -⟩ := accounted.carries known inside
      obtain rfl := Option.some.inj (found.symm.trans present)
      obtain ⟨upgrade, running, -⟩ :=
        (wellFormed.rooms roomId room found).upgrading upgrading
      obtain ⟨leavers, answers, release, -⟩ :=
        abortUpgrade_released table "WORKER_UNAVAILABLE" found running carried
      exact accounted.released found carried ⟨worker, known, inside⟩
        release.rooms release.workers (by simp [Room.charge, running])
  | downgrade order eligible =>
      rename_i roomId
      obtain ⟨room, instanceId, initiatorClientId, others, found, forwarded,
        small, noJoin, noLeave, carried, clients⟩ :=
          wellFormed.eligible eligible
      have noUpgrade := ((wellFormed.rooms _ _ found).forwarded forwarded).2
      have release := commitDowngrade_released order found carried clients
      exact accounted.released found carried
        (accounted.assigned.lists_of_serving found (.inr forwarded) carried)
        release.rooms release.workers (by simp [Room.charge, noUpgrade, noJoin])
  | expireRoom order waits listed found settled =>
      refine plainly ?_
      rintro ⟨other, present, upgrading⟩
      exact settled (Option.some.inj (found.symm.trans present) ▸ upgrading)
  | _ => exact plainly (by simp [Move.Recounts])

end Accounted

/-! ## Runs -/

/-- The call takes a member off a worker's rooms without its account, or could
overflow one: a member of a failed room is removed while a worker lists the room,
a leave is confirmed or a join refused for a client that joins and leaves at
once, or there are too many members to count. -/
def Call.Miscounts (call : Call) (table : RoomTable) : Prop :=
  u64Max < table.memberCount + 3 ∨
  (∃ roomId clientId instanceId room,
    call.Removes table roomId clientId ∧ table.rooms[roomId]? = some room ∧
      room.mode = .failed ∧ room.pendingJoin = none ∧
      room.pendingLeave = none ∧ table.Lists instanceId roomId) ∨
  ∃ instanceId requestId pending roomId room join leave,
    table.rooms[roomId]? = some room ∧ room.pendingJoin = some join ∧
      room.pendingLeave = some leave ∧ join.clientId = leave.clientId ∧
      (call.Refuses table instanceId requestId pending ∧
        pending.transition? = some (.join, roomId) ∨
      call.Accepts table instanceId requestId pending ∧
        pending.transition? = some (.leave, roomId))

/-- The moves of a call that does not miscount are just. -/
theorem Moved.just
    {phase phase' : Option InstanceId}
    {before table table' : RoomTable}
    {call : Call}
    {move : Move}
    (taken : Moved phase table move phase' table')
    (arises : Arises before call table move)
    (fair : ¬call.Miscounts before) :
    table.Just move := by
  have few : before.memberCount + 3 ≤ u64Max :=
    Nat.le_of_not_lt fun many => fair (.inl many)
  cases taken with
  | beginUpgrade => exact arises.1 ▸ few
  | completeJoin => exact arises.1 ▸ few
  | removeFailed found present noJoin noLeave failed =>
      obtain ⟨rfl, removes⟩ := arises
      exact fun instanceId listed => fair (.inr (.inl
        ⟨_, _, instanceId, _, removes, found, failed, noJoin, noLeave, listed⟩))
  | refuseJoin reason outstanding found joining =>
      obtain ⟨rfl, instanceId, pending, refuses⟩ := arises
      obtain rfl := refuses.recorded outstanding
      exact fun room join leave stored joins leaves same => fair (.inr (.inr
        ⟨_, _, _, _, room, join, leave, stored, joins, leaves, same,
          .inl ⟨refuses, rfl⟩⟩))
  | completeLeave now outstanding found leaving =>
      obtain ⟨rfl, instanceId, pending, accepts⟩ := arises
      obtain rfl := accepts.recorded outstanding
      exact fun room join leave stored joins leaves same => fair (.inr (.inr
        ⟨_, _, _, _, room, join, leave, stored, joins, leaves, same,
          .inr ⟨accepts, rfl⟩⟩))
  | _ => trivial

/-- The accounts are right in every run without a call that miscounts. -/
theorem accounted_of_run
    {reconnectGrace : Duration}
    {history : History}
    {table : RoomTable}
    (run : (RoomTable.machine reconnectGrace).Run history table)
    (guarded : Machine.Guarded (fun table call => ¬call.Miscounts table)
      history) :
    Accounted none table :=
  RoomTable.run_invariant Accounted
    ⟨Assigned.new reconnectGrace, by simp⟩
    (fun _ _ _ _ _ _ _ fair taken arises consistent accounted =>
      accounted.moved taken (taken.just arises fair) consistent.wellFormed
        consistent.records) run guarded

/-- A test for calls that do not miscount: few members, no removal, and nobody
who leaves. -/
def Call.settled (call : Call) (table : RoomTable) : Bool :=
  decide (table.memberCount + 3 ≤ u64Max)
    && (match call.operation with
      | .remove .. => false
      | _ => true)
    && table.rooms.toList.all fun entry => entry.2.pendingLeave.isNone

theorem Call.fair_of_settled
    {call : Call}
    {table : RoomTable}
    (settled : call.settled table = true) :
    ¬call.Miscounts table := by
  simp only [Call.settled, Bool.and_eq_true, decide_eq_true_eq,
    List.all_eq_true, Option.isNone_iff_eq_none] at settled
  obtain ⟨⟨few, stays⟩, idle⟩ := settled
  rintro (many | ⟨_, _, _, _, ⟨_, _, _, asked, -⟩, -⟩ |
    ⟨_, _, _, roomId, room, _, _, found, -, leaving, -⟩)
  · exact absurd few (Nat.not_le.2 many)
  · simp [asked] at stays
  · have waits := idle (roomId, room) (by simpa using found)
    cases waits.symm.trans leaving

/-- In every run without a call that miscounts, a worker counts the clients of
the rooms on its list: three for a room in an upgrade, and the members whose join
is confirmed for any other one. It lists rooms that are assigned to it, among
them every such room that is being upgraded or forwarded, and it never counts
more clients than there are members. -/
theorem workers_accounted
    {reconnectGrace : Duration}
    {history : History}
    {table : RoomTable}
    {instanceId : InstanceId}
    {worker : Worker}
    (run : (RoomTable.machine reconnectGrace).Run history table)
    (guarded : Machine.Guarded (fun table call => ¬call.Miscounts table)
      history)
    (known : table.workers[instanceId]? = some worker) :
    worker.assignedClients = total worker.assignedRooms table.chargeAt ∧
      worker.assignedClients ≤ table.memberCount ∧
      (∀ roomId ∈ worker.assignedRooms, ∃ room : Room,
        table.rooms[roomId]? = some room ∧
          room.assignedInstance = some instanceId) ∧
      ∀ (roomId : RoomId) (room : Room), table.rooms[roomId]? = some room ->
        room.mode = .upgrading ∨ room.mode = .sfu ->
        room.assignedInstance = some instanceId ->
        roomId ∈ worker.assignedRooms := by
  have accounted := accounted_of_run run guarded
  have balanced := accounted.balanced instanceId worker known
  refine ⟨balanced.counted, balanced.le_memberCount, fun roomId listed => ?_,
    fun roomId room found active carried => ?_⟩
  · obtain ⟨room, found, carried, -⟩ := accounted.carries known listed
    exact ⟨room, found, carried⟩
  · obtain ⟨other, present, listed⟩ :=
      accounted.assigned.lists_of_serving found active carried
    obtain rfl := Option.some.inj (known.symm.trans present)
    exact listed

/-- A fourth client is admitted to the forwarded room. -/
def fourthOperations : List Operation :=
  forwardedOperations ++ [.admitClient 4 0 exampleRoomId 4 "fourth"]

/-- The worker counts the three members and not the one whose join is pending. -/
theorem workers_accounted_fourth :
    ∃ worker : Worker,
      (RoomTable.played 0 fourthOperations).2.workers["sfu"]? = some worker ∧
      worker.assignedClients = 3 ∧
      total worker.assignedRooms
        (RoomTable.played 0 fourthOperations).2.chargeAt = 3 := by
  have settled : (RoomTable.played 0 fourthOperations).1.all (fun event =>
      event.2.settled event.1) = true := by
    decide +kernel
  have guarded : Machine.Guarded (fun table call => ¬call.Miscounts table)
      (RoomTable.played 0 fourthOperations).1 := fun event taken =>
    Call.fair_of_settled (List.all_eq_true.1 settled event taken)
  have counts : (RoomTable.played 0 fourthOperations).2.workers["sfu"]?.map
      (·.assignedClients) = some 3 := by
    decide +kernel
  obtain ⟨worker, known, three⟩ := Option.map_eq_some_iff.1 counts
  exact ⟨worker, known, three, (workers_accounted (RoomTable.played_run 0
    fourthOperations) guarded known).1.symm.trans three⟩

end V2
end Signaling
