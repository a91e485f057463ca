import Signaling.V2.Dwell
import Signaling.V2.Emissions

/-!
# Rooms that everybody has left

A room goes with its last member, except where an admission that fails takes the
last member: the room then stays behind without members. A room whose members
have all been away for longer than their grace is attended to by the next
timeout, unless it has failed.
-/

namespace Signaling
namespace V2

open Std (ExtTreeMap ExtTreeSet)
open RoomTable

/-- No client but the given one is a member. -/
def Room.Alone (room : Room) (clientId : ClientId) : Prop :=
  ∀ otherId, room.members.contains otherId = true -> otherId = clientId

/-- The refusal of the recorded command takes the last member of the room. -/
def PendingCommand.Empties
    (pending : PendingCommand)
    (roomId : RoomId)
    (room : Room) : Prop :=
  match pending with
  | .upgradeJoin _ upgradedId _ _ _ => upgradedId = roomId ∧ ∃ upgrade,
      room.upgrade = some upgrade ∧ room.Alone upgrade.joiningClientId
  | .sfuJoin _ joinedId _ _ _ => joinedId = roomId ∧ ∃ join,
      room.pendingJoin = some join ∧ room.Alone join.clientId
  | _ => False

/-- The call ends an admission whose client is the only member of the room: a
worker refuses it, or the worker of the room expires. -/
def Call.Empties
    (call : Call)
    (table : RoomTable) : Prop :=
  ∃ (roomId : RoomId) (room : Room),
    table.rooms[roomId]? = some room ∧
    ((∃ instanceId requestId pending,
      call.Refuses table instanceId requestId pending ∧
        pending.Empties roomId room) ∨
    ∃ now instanceId join,
      call.operation = .handleTimeout now ∧
      table.Expires now instanceId ∧
      table.Lists instanceId roomId ∧
      room.pendingJoin = some join ∧
      room.Alone join.clientId)

/-- The move takes no last member from the room without dropping it. -/
def KeepsMember
    (roomId : RoomId)
    (room : Option Room)
    (move : Move) : Prop :=
  match move with
  | .abortUpgrade _ abortedId => abortedId = roomId ->
      ∀ (stored : Room) (upgrade : Upgrade), room = some stored ->
        stored.upgrade = some upgrade -> ¬stored.Alone upgrade.joiningClientId
  | .refuseJoin _ joinedId => joinedId = roomId ->
      ∀ (stored : Room) (join : PendingJoin), room = some stored ->
        stored.pendingJoin = some join -> ¬stored.Alone join.clientId
  | .expireRoom _ expiredId => expiredId = roomId ->
      ∀ (stored : Room) (join : PendingJoin), room = some stored ->
        stored.pendingJoin = some join -> ¬stored.Alone join.clientId
  | _ => True

/-- Erasing a client empties a room only when nobody else is a member. -/
theorem Room.alone_iff
    (room : Room)
    (clientId : ClientId) :
    room.Alone clientId ↔ (room.members.erase clientId).isEmpty = true := by
  constructor
  · intro alone
    rw [ExtTreeMap.isEmpty_iff]
    apply ExtTreeMap.ext_getElem?
    intro otherId
    by_cases same : otherId = clientId
    · simp [same]
    · have absent : room.members.contains otherId ≠ true :=
        fun present => same (alone otherId present)
      grind
  · intro empty otherId present
    by_contra other
    have kept : (room.members.erase clientId).contains otherId = true := by
      grind
    rw [ExtTreeMap.isEmpty_iff.1 empty] at kept
    simp at kept

/-- A room that upgrades has members besides the one that joins. -/
theorem Room.WellFormed.accompanied
    {room : Room}
    {upgrade : Upgrade}
    (wellFormed : room.WellFormed)
    (upgrading : room.mode = .upgrading)
    (running : room.upgrade = some upgrade) :
    ¬room.Alone upgrade.joiningClientId := by
  intro alone
  obtain ⟨found, same, present, -⟩ := wellFormed.upgrading upgrading
  rw [running] at same
  cases same
  obtain ⟨three, distinct, -, -⟩ := (wellFormed.upgrade upgrade running).1
  have all : ∀ clientId ∈ upgrade.orderedClients,
      clientId = upgrade.joiningClientId := by
    intro clientId listed
    refine alone clientId ?_
    rw [ExtTreeMap.contains_eq_isSome_getElem?]
    exact present clientId listed
  have repeated := List.eq_replicate_of_mem all
  rw [repeated, three] at distinct
  simp at distinct

namespace RoomMoved

variable
  {roomId : RoomId}
  {move : Move}
  {room after : Option Room}

/-- Every move that keeps a member keeps a room inhabited. -/
theorem inhabited
    (moved : RoomMoved roomId move room after)
    (keeps : KeepsMember roomId room move)
    (wellFormed : ∀ stored, room = some stored -> stored.WellFormed)
    (inhabited : ∀ stored, room = some stored ->
      stored.members.isEmpty = false)
    (stored : Room)
    (present : after = some stored) :
    stored.members.isEmpty = false := by
  have erased {room : Room} {clientId : ClientId}
      (accompanied : ¬room.Alone clientId) :
      (room.members.erase clientId).isEmpty = false := by
    rw [Room.alone_iff] at accompanied
    simpa using accompanied
  have kept {room : Room} (here : room.stored = some stored) :
      stored.members.isEmpty = false := by
    unfold Room.stored at here
    split at here
    · cases here
    · rename_i occupied
      cases here
      simpa using occupied
  cases moved with
  | kept => exact inhabited stored present
  | removeFailed | removeDirect | completeLeave | expireMembers =>
      exact kept present
  | create | joinDirect | beginJoin | dropWithLeave | dropWithGrace
  | queueMessage =>
      cases present
      simp [Room.create, Room.insertMember]
  | beginUpgrade =>
      cases present
      simp [Room.startUpgrade, Room.relive, Room.insertMember]
  | register settled found unregistered =>
      rename_i room clientId member
      cases present
      unfold Room.registerMember
      dsimp only
      split <;> simp [Room.insertMember, Room.drainOthers]
  | requestLeave | reportFailure | refuseSync | advanceUpgrade | completeJoin
  | refuseLeave | clearDeadline | retryLeave =>
      cases present
      have occupied := inhabited _ rfl
      exact occupied
  | commitUpgrade =>
      cases present
      simpa [Room.commitSfu, Room.advanceUpgrade] using inhabited _ rfl
  | abortUpgrade requestId upgrading =>
      cases present
      exact erased (keeps rfl _ _ rfl upgrading)
  | refuseJoin requestId joining =>
      cases present
      exact erased (keeps rfl _ _ rfl joining)
  | expireUpgrade instanceId upgrading running =>
      cases present
      exact erased ((wellFormed _ rfl).accompanied upgrading running)
  | expireRoom instanceId settled =>
      rename_i room
      cases present
      cases joining : room.pendingJoin with
      | none => simpa [Room.fail, joining] using inhabited _ rfl
      | some join =>
          simpa [Room.fail, joining] using erased (keeps rfl _ _ rfl joining)
  | downgrade =>
      cases present
      simpa [Room.commitP2p] using inhabited _ rfl
  | rearmGrace =>
      cases present
      simpa [Room.modifyMember, ExtTreeMap.isEmpty_eq_size_beq_zero,
        ExtTreeMap.size_modify] using inhabited _ rfl

end RoomMoved

/-- A downgrade deadline is that of a small room that is not P2P. -/
def Room.DwellsSmall (room : Room) : Prop :=
  room.downgradeDeadline.isSome = true ->
    room.mode ≠ .p2p ∧ room.members.size ≤ 2 ∧ room.upgrade = none

namespace RoomMoved

variable
  {roomId : RoomId}
  {move : Move}
  {room after : Option Room}

/-- Every move keeps the deadlines to small rooms. -/
theorem dwellsSmall
    (moved : RoomMoved roomId move room after)
    (wellFormed : ∀ stored, room = some stored -> stored.WellFormed)
    (small : ∀ stored, room = some stored -> stored.DwellsSmall)
    (stored : Room)
    (present : after = some stored) :
    stored.DwellsSmall := by
  have direct {room other : Room} (dwells : room.DwellsSmall)
      (mode : room.mode = .p2p)
      (same : other.downgradeDeadline = room.downgradeDeadline) :
      other.DwellsSmall := by
    intro armed
    rw [same] at armed
    exact absurd mode (dwells armed).1
  have transition {room other : Room} {upgrade : Upgrade}
      (dwells : room.DwellsSmall) (running : room.upgrade = some upgrade)
      (same : other.downgradeDeadline = room.downgradeDeadline) :
      other.DwellsSmall := by
    intro armed
    rw [same] at armed
    simp [(dwells armed).2.2] at running
  have shrunk {room other : Room} (dwells : room.DwellsSmall)
      (mode : other.mode = room.mode ∨ other.mode = .failed)
      (size : other.members.size ≤ room.members.size)
      (upgrade : other.upgrade = room.upgrade)
      (same : other.downgradeDeadline = room.downgradeDeadline) :
      other.DwellsSmall := by
    intro armed
    rw [same] at armed
    obtain ⟨left, few, settled⟩ := dwells armed
    refine ⟨?_, size.trans few, upgrade.trans settled⟩
    rcases mode with mode | mode <;> simp [mode, left]
  have erased (room : Room) (clientId : ClientId) :
      (room.members.erase clientId).size ≤ room.members.size :=
    ExtTreeMap.size_erase_le
  cases moved with
  | kept => exact small stored present
  | create =>
      cases present
      exact fun armed => by simp [Room.create] at armed
  | beginJoin | clearDeadline | downgrade =>
      cases present
      exact fun armed => by simp [Room.commitP2p] at armed
  | joinDirect now grace token lifecycleId fresh mode =>
      cases present
      exact direct (small _ rfl) mode rfl
  | beginUpgrade now grace token lifecycleId lifecycle instanceId fresh mode =>
      cases present
      exact direct (small _ rfl) mode rfl
  | removeDirect found noJoin noLeave mode =>
      obtain rfl := Room.eq_of_stored present
      exact direct (small _ rfl) mode (by simp)
  | expireMembers now mode =>
      obtain rfl := Room.eq_of_stored present
      exact direct (small _ rfl) mode (by simp)
  | advanceUpgrade requestId running =>
      cases present
      exact transition (small _ rfl) running rfl
  | commitUpgrade requestId running =>
      cases present
      exact transition (small _ rfl) running rfl
  | abortUpgrade requestId running =>
      cases present
      exact transition (small _ rfl) running rfl
  | expireUpgrade instanceId upgrading running =>
      cases present
      exact transition (small _ rfl) running rfl
  | register settled found unregistered =>
      rename_i room clientId member
      cases present
      by_cases mode : room.mode = .p2p
      · exact direct (small _ rfl) mode (by simp)
      · refine shrunk (small _ rfl) (Or.inl (by simp)) ?_ (by simp) (by simp)
        simpa [Room.registerMember, mode] using (size_insert_present _ found).le
  | dropWithLeave found | dropWithGrace deadline found | queueMessage found =>
      cases present
      exact shrunk (small _ rfl) (Or.inl rfl) (size_insert_present _ found).le
        rfl rfl
  | requestLeave | completeJoin | refuseLeave | retryLeave =>
      cases present
      have dwells := small _ rfl
      exact shrunk dwells (Or.inl rfl) le_rfl rfl rfl
  | reportFailure | refuseSync =>
      cases present
      have dwells := small _ rfl
      exact shrunk dwells (Or.inr rfl) le_rfl rfl rfl
  | removeFailed =>
      obtain rfl := Room.eq_of_stored present
      exact shrunk (small _ rfl) (Or.inl rfl) (erased _ _) rfl rfl
  | refuseJoin =>
      cases present
      have dwells := small _ rfl
      exact shrunk dwells (Or.inl rfl) (erased _ _) rfl rfl
  | completeLeave requestId deadline leaving armed =>
      obtain rfl := Room.eq_of_stored present
      intro set
      obtain ⟨forwarded, -, few, settled, -⟩ :=
        (Room.eligible_iff _).1 (armed.2 set)
      exact ⟨by simp [forwarded], few, settled⟩
  | expireRoom instanceId settled =>
      rename_i room
      cases present
      refine shrunk (small _ rfl) (Or.inr rfl) ?_ rfl rfl
      unfold Room.fail
      dsimp only
      split
      · exact le_rfl
      · exact erased _ _
  | rearmGrace =>
      cases present
      exact shrunk (small _ rfl) (Or.inl rfl) (size_modifyMember _ _ _).le rfl
        rfl

end RoomMoved

/-- A join that is pending during a timeout was pending before it, and no member
has left the room since. -/
theorem RoomMoved.joining
    {roomId : RoomId}
    {move : Move}
    {room after : Option Room}
    (moved : RoomMoved roomId move room after)
    (expiring : move.Expiring)
    (wellFormed : ∀ stored, room = some stored -> stored.WellFormed)
    {left : Room}
    {join : PendingJoin}
    (present : after = some left)
    (joining : left.pendingJoin = some join) :
    ∃ stored, room = some stored ∧ stored.pendingJoin = some join ∧
      ∀ clientId, stored.members.contains clientId = true ->
        left.members.contains clientId = true := by
  cases moved with
  | kept => exact ⟨left, present, joining, fun _ listed => listed⟩
  | expireUpgrade instanceId upgrading running =>
      cases present
      have idle := ((wellFormed _ rfl).upgrade _ running).2.2.2.1
      simp [Room.release, Room.rollBack, idle] at joining
  | expireRoom =>
      cases present
      simp [Room.fail] at joining
  | downgrade forwarded few noJoin =>
      cases present
      simp [Room.commitP2p, noJoin] at joining
  | clearDeadline | retryLeave =>
      cases present
      exact ⟨_, rfl, joining, fun _ listed => listed⟩
  | rearmGrace =>
      cases present
      refine ⟨_, rfl, joining, fun clientId listed => ?_⟩
      simp only [Room.modifyMember]
      rw [ExtTreeMap.contains_modify]
      exact listed
  | expireMembers now direct =>
      obtain rfl := Room.eq_of_stored present
      have idle := ((wellFormed _ rfl).direct direct).2.2.2.1
      simp [idle] at joining
  | _ => exact expiring.elim

/-- A call that empties no room keeps every room inhabited. -/
theorem RoomTable.Consistent.inhabited_step
    {table : RoomTable}
    {call : Call}
    (consistent : table.Consistent)
    (allowed : ¬call.Empties table)
    (inhabited : ∀ (roomId : RoomId) (room : Room),
      table.rooms[roomId]? = some room -> room.members.isEmpty = false) :
    ∀ (roomId : RoomId) (room : Room),
      (table.step call).rooms[roomId]? = some room ->
        room.members.isEmpty = false := by
  have both := @step_invariant table call (fun _ middle =>
    (∀ (roomId : RoomId) (room : Room), middle.rooms[roomId]? = some room ->
      room.members.isEmpty = false) ∧
    ((∃ now, call.operation = .handleTimeout now) ->
      ∀ (roomId : RoomId) (room : Room) (join : PendingJoin),
        middle.rooms[roomId]? = some room -> room.pendingJoin = some join ->
        ∃ former : Room, table.rooms[roomId]? = some former ∧
          former.pendingJoin = some join ∧
          ∀ clientId, former.members.contains clientId = true ->
            room.members.contains clientId = true)) consistent
    (fun phase middle move phase' next taken arises sound kept => ?_)
    ⟨inhabited, fun _ roomId room join found joining =>
      ⟨room, found, joining, fun _ listed => listed⟩⟩
  · exact both.1
  obtain ⟨occupied, joins⟩ := kept
  have shape (roomId : RoomId) := sound.wellFormed.rooms roomId
  refine ⟨fun roomId room found => ?_, fun timeout roomId room join found joining => ?_⟩
  · refine (taken.room sound.wellFormed roomId).inhabited ?_ (shape roomId)
      (occupied roomId) room found
    cases move <;> simp only [KeepsMember]
    case abortUpgrade requestId abortedId =>
      rintro rfl stored upgrade here running alone
      obtain ⟨rfl, instanceId, pending, refuses⟩ := arises
      cases taken with
      | abortUpgrade reason outstanding =>
          obtain rfl := refuses.recorded outstanding
          exact allowed ⟨_, stored, here, Or.inl ⟨_, _, _, refuses, rfl, upgrade,
            running, alone⟩⟩
    case refuseJoin requestId joinedId =>
      rintro rfl stored join here joining alone
      obtain ⟨rfl, instanceId, pending, refuses⟩ := arises
      cases taken with
      | refuseJoin reason outstanding =>
          obtain rfl := refuses.recorded outstanding
          exact allowed ⟨_, stored, here, Or.inl ⟨_, _, _, refuses, rfl, join,
            joining, alone⟩⟩
    case expireRoom instanceId expiredId =>
      rintro rfl stored join here joining alone
      obtain ⟨now, asked, expires, listed, -⟩ := arises
      obtain ⟨former, was, joined, left⟩ :=
        joins ⟨now, asked⟩ _ stored join here joining
      exact allowed ⟨_, former, was, Or.inr ⟨now, instanceId, join, asked,
        expires, listed, joined, fun clientId present =>
          alone clientId (left clientId present)⟩⟩
  · obtain ⟨now, asked⟩ := timeout
    obtain ⟨stored, here, pending, kept⟩ := (taken.room sound.wellFormed
      roomId).joining (arises.expiring asked) (shape roomId) found joining
    obtain ⟨former, was, joined, left⟩ :=
      joins ⟨now, asked⟩ roomId stored join here pending
    exact ⟨former, was, joined, fun clientId present =>
      kept clientId (left clientId present)⟩

/-- A leave becomes pending only by a move that asks for it. -/
theorem RoomMoved.leaving
    {roomId : RoomId}
    {move : Move}
    {room after : Option Room}
    (moved : RoomMoved roomId move room after)
    {left : Room}
    {leave : PendingLeave}
    (present : after = some left)
    (leaving : left.pendingLeave = some leave) :
    (∃ stored, room = some stored ∧ stored.pendingLeave = some leave) ∨
      move = .dropWithLeave roomId leave.clientId ∨
      (∃ authorityRequestId,
        move = .requestLeave authorityRequestId roomId leave.clientId) ∨
      move = .retryLeave roomId leave.clientId := by
  cases moved with
  | kept => exact Or.inl ⟨left, present, leaving⟩
  | create =>
      cases present
      simp [Room.create] at leaving
  | dropWithLeave =>
      cases present
      cases leaving
      exact Or.inr (Or.inl rfl)
  | requestLeave =>
      cases present
      cases leaving
      exact Or.inr (Or.inr (Or.inl ⟨_, rfl⟩))
  | retryLeave =>
      cases present
      cases leaving
      exact Or.inr (Or.inr (Or.inr rfl))
  | removeFailed | removeDirect | expireMembers =>
      obtain rfl := Room.eq_of_stored present
      exact Or.inl ⟨_, rfl, by simpa using leaving⟩
  | completeLeave =>
      obtain rfl := Room.eq_of_stored present
      simp [Room.afterLeave] at leaving
  | refuseLeave =>
      cases present
      simp at leaving
  | expireRoom =>
      cases present
      simp [Room.fail] at leaving
  | register =>
      cases present
      exact Or.inl ⟨_, rfl, by simpa using leaving⟩
  | _ =>
      cases present
      exact Or.inl ⟨_, rfl, leaving⟩

/-- A leave that a call begins is handed to the worker. -/
theorem RoomTable.Consistent.leave_asked
    {table : RoomTable}
    {call : Call}
    {roomId : RoomId}
    (consistent : table.Consistent)
    (appends : call.operation ≠ .pollAction)
    (noLeave : ∀ room : Room, table.rooms[roomId]? = some room ->
      room.pendingLeave = none)
    {left : Room}
    {leave : PendingLeave}
    (found : (table.step call).rooms[roomId]? = some left)
    (leaving : left.pendingLeave = some leave) :
    ∃ action ∈ table.emitted call, ∃ connectionId lifecycleId,
      action.IsLeave connectionId roomId leave.clientId lifecycleId := by
  refine consistent.emitted_invariant (fun _ middle actions =>
    ∀ (left : Room) (leave : PendingLeave), middle.rooms[roomId]? = some left ->
      left.pendingLeave = some leave ->
      ∃ action ∈ actions, ∃ connectionId lifecycleId,
        action.IsLeave connectionId roomId leave.clientId lifecycleId) appends
    (fun phase middle earlier move phase' next actions taken arises sound emits
      asked left leave found leaving => ?_)
    (fun room leave found leaving => ?_) left leave found leaving
  swap
  · simp [noLeave room found] at leaving
  have begun (handed : ∃ room member instanceId connectionId,
      middle.rooms[roomId]? = some room ∧
        room.members[leave.clientId]? = some member ∧
        room.assignedInstance = some instanceId ∧
        middle.connection? instanceId = some connectionId ∧
        ∃ action, actions = [action] ∧ action.Plain ∧
          action.IsLeave connectionId roomId leave.clientId
            member.lifecycleId) :
      ∃ action ∈ earlier ++ actions, ∃ connectionId lifecycleId,
        action.IsLeave connectionId roomId leave.clientId lifecycleId := by
    obtain ⟨_, member, _, connectionId, -, -, -, -, action, rfl, -, isLeave⟩ :=
      handed
    exact ⟨action, by simp, connectionId, member.lifecycleId, isLeave⟩
  rcases (taken.room sound.wellFormed roomId).leaving found leaving with
    ⟨stored, here, pending⟩ | rfl | ⟨authorityRequestId, rfl⟩ | rfl
  · obtain ⟨action, listed, isLeave⟩ := asked stored leave here pending
    exact ⟨action, List.mem_append_left _ listed, isLeave⟩
  · exact begun emits
  · exact begun emits
  · exact begun emits

/-! ## Deserted rooms -/

/-- Every member has been away for longer than its grace, and nothing is
pending. -/
structure Room.Deserted (room : Room) (now : Instant) : Prop where
  away : ∀ (clientId : ClientId) (member : Member),
    room.members[clientId]? = some member ->
      member.registered = false ∧ isDue member.reconnectDeadline now = true
  noUpgrade : room.upgrade = none
  noJoin : room.pendingJoin = none
  noLeave : room.pendingLeave = none

/-- The room has changed for the better: it has lost a member, it is back in
P2P, or a member is leaving. -/
def Room.Releases
    (room left : Room)
    (roomId : RoomId)
    (actions : List Action) : Prop :=
  (∃ clientId, room.members.contains clientId = true ∧
    left.members.contains clientId = false) ∨
  (room.mode = .sfu ∧ left.mode = .p2p) ∨
  ∃ clientId, left.pendingLeave = some ⟨none, clientId⟩ ∧
    ∃ action ∈ actions, ∃ connectionId lifecycleId,
      action.IsLeave connectionId roomId clientId lifecycleId

/-- The worker of the SFU room has no connection, and a member waits on. -/
def RoomTable.Rearms
    (table : RoomTable)
    (now : Instant)
    (left : Room) : Prop :=
  left.mode = .sfu ∧
  (∃ instanceId, left.assignedInstance = some instanceId ∧
    table.connection? instanceId = none) ∧
  ∃ (clientId : ClientId) (member : Member) (deadline : Instant),
    left.members[clientId]? = some member ∧
    member.reconnectDeadline = some deadline ∧ now ≤ deadline

/-- The timeout removes the room, releases it by a step, or puts it off while
its worker cannot be reached. -/
def RoomTable.Attends
    (table : RoomTable)
    (order : VisitOrder)
    (now : Instant)
    (roomId : RoomId)
    (room : Room) : Prop :=
  ∀ left, (table.handleTimeout order now).2.rooms[roomId]? = some left ->
    room.Releases left roomId (table.emitted ⟨.handleTimeout now, order⟩) ∨
      table.Rearms now left

section Attendance

variable
  {table : RoomTable}
  {order : VisitOrder}
  {now : Instant}
  {roomId : RoomId}
  {room : Room}

/-- A due member of an idle SFU room is found. -/
theorem expiredSfuClient_of_deserted
    (deserted : room.Deserted now)
    (forwarded : room.mode = .sfu)
    (occupied : room.members.isEmpty = false) :
    ∃ (clientId : ClientId) (member : Member),
      room.expiredSfuClient order roomId now = some clientId ∧
        room.members[clientId]? = some member := by
  have due (clientId : ClientId) :
      (room.members[clientId]?.any fun member =>
        isDue member.reconnectDeadline now) = room.members.contains clientId := by
    rw [ExtTreeMap.contains_eq_isSome_getElem?]
    cases present : room.members[clientId]? with
    | none => rfl
    | some member => simpa using (deserted.away clientId member present).2
  cases search : room.expiredSfuClient order roomId now with
  | none =>
      exfalso
      simp only [Room.expiredSfuClient, forwarded, deserted.noLeave, due,
        Option.isNone_none, decide_true, Bool.and_self, if_true,
        List.find?_eq_none, Room.clients, HashOrder.mem_visit] at search
      have empty : room.members = ∅ := by
        apply ExtTreeMap.ext_getElem?
        intro clientId
        by_cases present : room.members.contains clientId = true
        · exact absurd present (search clientId (by simpa using present))
        · grind
      simp [empty] at occupied
  | some clientId =>
      simp only [Room.expiredSfuClient, forwarded, deserted.noLeave, due,
        Option.isNone_none, decide_true, Bool.and_self, if_true] at search
      have present := List.find?_some search
      rw [ExtTreeMap.contains_eq_isSome_getElem?] at present
      obtain ⟨member, found⟩ := Option.isSome_iff_exists.1 present
      exact ⟨clientId, member, rfl, found⟩

/-- A timeout attends to a deserted room that no expiring worker lists, when the
room has a member, exactly unless the room has failed. -/
theorem attends_iff
    (consistent : table.Consistent)
    (small : room.DwellsSmall)
    (occupied : room.members.isEmpty = false)
    (found : table.rooms[roomId]? = some room)
    (deserted : room.Deserted now)
    (served : ∀ instanceId, table.Expires now instanceId ->
      ¬table.Lists instanceId roomId) :
    table.Attends order now roomId room ↔ room.mode ≠ .failed := by
  obtain ⟨promotions, arrived, arrives, same⟩ :=
    handleTimeout_visits order now roomId consistent.wellFormed
  have here : arrived.rooms[roomId]? = some room := by
    rcases arrives.touched with kept | ⟨instanceId, expires, listed⟩
    · rw [kept, found]
    · exact absurd listed (served instanceId expires)
  have shape := consistent.wellFormed.rooms roomId room found
  unfold RoomTable.Attends
  cases mode : room.mode with
  | upgrading =>
      obtain ⟨upgrade, running, -⟩ := shape.upgrading mode
      simp [deserted.noUpgrade] at running
  | failed =>
      refine iff_of_false (fun attends => ?_) (by simp)
      have ineligible : arrived.isDowngradeEligible roomId = false := by
        simp [isDowngradeEligible_eq roomId arrived here, Room.eligible, mode]
      obtain ⟨left, stays, members, noLeave, failed⟩ : ∃ left,
          (table.handleTimeout order now).2.rooms[roomId]? = some left ∧
            left.members = room.members ∧ left.pendingLeave = none ∧
            left.mode = .failed := by
        rw [same]
        cases due : isDue room.downgradeDeadline now with
        | true =>
            exact ⟨{ room with downgradeDeadline := none }, by
              simp [RoomTable.sweepRoom, here, due, ineligible], rfl,
              deserted.noLeave, mode⟩
        | false =>
            exact ⟨room, by
              simp [RoomTable.sweepRoom, here, due, Room.expiredSfuClient,
                mode], rfl, deserted.noLeave, mode⟩
      rcases attends left stays with (⟨clientId, was, gone⟩ | ⟨forwarded, -⟩ |
        ⟨clientId, leaving, -⟩) | ⟨forwarded, -⟩
      · rw [members, was] at gone
        cases gone
      · simp [mode] at forwarded
      · simp [noLeave] at leaving
      · simp [failed] at forwarded
  | p2p =>
      refine iff_of_true (fun left present => ?_) (by simp)
      have settled : isDue room.downgradeDeadline now = false := by
        cases armed : room.downgradeDeadline with
        | none => rfl
        | some deadline => exact absurd mode (small (by simp [armed])).1
      have empty : (room.expireMembers roomId now).2.members = ∅ := by
        apply ExtTreeMap.ext_getElem?
        intro clientId
        cases stays : (room.expireMembers roomId now).2.members[clientId]? with
        | none => simp
        | some member =>
            obtain ⟨former, was, outside, -⟩ := Room.expireMembers_members _ _ stays
            refine absurd ?_ outside
            have due := (deserted.away clientId former was).2
            simp only [Room.expiredClients, List.mem_filter,
              ExtTreeMap.mem_keys, was, Option.any_some, due, and_true]
            grind
      rw [same] at present
      simp [RoomTable.sweepRoom, here, settled, Room.expiredSfuClient, mode,
        RoomTable.setOrDropRoom, empty] at present
  | sfu =>
      refine iff_of_true (fun left present => ?_) (by simp)
      cases due : isDue room.downgradeDeadline now with
      | true =>
          obtain ⟨deadline, armed, passed⟩ : ∃ deadline,
              room.downgradeDeadline = some deadline ∧ deadline ≤ now := by
            simpa [isDue, Option.any_eq_true] using due
          have eligible : room.eligible = true :=
            (Room.eligible_iff room).2 ⟨mode, occupied,
              (small (by simp [armed])).2.1, deserted.noUpgrade,
              deserted.noJoin, deserted.noLeave⟩
          have back := handleTimeout_downgrades order consistent.wellFormed
            found eligible armed passed served
          simp only [RoomTable.mode?, present, Option.map_some,
            Option.some.injEq] at back
          exact Or.inl (Or.inr (Or.inl ⟨mode, back⟩))
      | false =>
          obtain ⟨clientId, member, expired, listed⟩ :=
            @expiredSfuClient_of_deserted order now roomId room deserted mode
              occupied
          obtain ⟨instanceId, assigned⟩ :=
            Option.isSome_iff_exists.1 (shape.forwarded mode).1
          rcases issueSfuLeave_cases arrived roomId clientId .disconnected with
            unsent | ⟨other, carried, carrier, connectionId, stored, -, -, -, -,
              -, sent⟩
          · rw [same] at present
            simp only [RoomTable.sweepRoom, here, due, expired, unsent,
              Bool.false_eq_true, if_false, setRoom_rooms,
              ExtTreeMap.getElem?_insert_self, Option.some.injEq] at present
            subst present
            refine Or.inr ⟨mode, ⟨instanceId, assigned, ?_⟩, clientId,
              { member with
                reconnectDeadline := some (now + arrived.reconnectGrace) },
              now + arrived.reconnectGrace, ?_, rfl, Nat.le_add_right _ _⟩
            · rw [← arrives.connections]
              by_contra connected
              obtain ⟨connectionId, connected⟩ :=
                Option.ne_none_iff_exists'.1 connected
              simp [RoomTable.issueSfuLeave, here, mode, deserted.noLeave,
                listed, assigned, connected] at unsent
            · simp [Room.modifyMember, listed]
          · rw [here] at stored
            cases stored
            have left_eq : left =
                { room with pendingLeave := some ⟨none, clientId⟩ } := by
              rw [same] at present
              simp only [RoomTable.sweepRoom, here, due, expired, sent,
                Bool.false_eq_true, if_false, issueCommand_rooms, setRoom_rooms,
                ExtTreeMap.getElem?_insert_self, Option.some.injEq] at present
              exact present.symm
            subst left_eq
            refine Or.inl (Or.inr (Or.inr ⟨clientId, rfl, ?_⟩))
            exact @RoomTable.Consistent.leave_asked table
              ⟨.handleTimeout now, order⟩ roomId consistent (by simp)
              (fun stored was => by
                rw [found] at was
                cases was
                exact deserted.noLeave) _ ⟨none, clientId⟩ present rfl

end Attendance

/-- In every run in which no call empties a room with the admission of its only
member, every room has a member; and a timeout attends to a room that everybody
has left, when no expiring worker lists it, exactly unless the room has failed. -/
theorem no_dead_rooms
    {reconnectGrace : Duration}
    {history : History}
    {table : RoomTable}
    (run : (RoomTable.machine reconnectGrace).Run history table)
    (guarded : Machine.Guarded (fun table call => ¬call.Empties table)
      history) :
    (∀ (roomId : RoomId) (room : Room), table.rooms[roomId]? = some room ->
      room.members.isEmpty = false) ∧
    ∀ order now roomId room, table.rooms[roomId]? = some room ->
      room.Deserted now ->
      (∀ instanceId, table.Expires now instanceId ->
        ¬table.Lists instanceId roomId) ->
      (table.Attends order now roomId room ↔ room.mode ≠ .failed) := by
  have inhabited : ∀ (roomId : RoomId) (room : Room),
      table.rooms[roomId]? = some room -> room.members.isEmpty = false := by
    refine run.history_invariant (fun _ table => ∀ (roomId : RoomId)
      (room : Room), table.rooms[roomId]? = some room ->
        room.members.isEmpty = false) (fun table starts => ?_)
      (fun earlier before call ran allowed occupied => ?_) guarded
    · obtain rfl : table = RoomTable.new reconnectGrace := starts
      simp
    · exact (consistent_of_run ran).inhabited_step allowed occupied
  have small : ∀ (roomId : RoomId) (room : Room),
      table.rooms[roomId]? = some room -> room.DwellsSmall := by
    exact RoomTable.rooms_invariant Room.DwellsSmall (fun _ _ _ => True)
      (fun roomId move room after moved _ wellFormed =>
        moved.dwellsSmall wellFormed)
      (fun _ _ _ _ _ _ _ _ _ _ _ _ => trivial) run guarded
  refine ⟨inhabited, fun order now roomId room found deserted served => ?_⟩
  exact attends_iff (consistent_of_run run) (small roomId room found)
    (inhabited roomId room found) found deserted served

theorem no_dead_rooms_forwarded :
    ∃ room : Room, (RoomTable.played 0 forwardedOperations).2.rooms[
        exampleRoomId]? = some room ∧
      room.members.isEmpty = false ∧
      (RoomTable.played 0 forwardedOperations).2.Attends .sorted 0 exampleRoomId
        room := by
  have guarded : Machine.Guarded (fun table call => ¬call.Empties table)
      (RoomTable.played 0 forwardedOperations).1 := by
    rintro event taken ⟨roomId, room, found, ends⟩
    -- Two members stay through the whole run, and no timeout comes.
    have checked := List.all_eq_true.1 (show (RoomTable.played 0
      forwardedOperations).1.all (fun event =>
        (match event.2.operation with
          | .handleTimeout _ => false
          | _ => true) &&
        (event.2.answered? event.1).all fun pending =>
          pending.transition?.any fun transition =>
            transition.2 = exampleRoomId &&
            event.1.rooms[exampleRoomId]?.all fun room =>
              room.members.contains 1 && room.members.contains 2) = true by
      decide +kernel) event taken
    rcases ends with ⟨instanceId, requestId, pending, refuses, empties⟩ |
      ⟨now, instanceId, join, asked, -⟩
    · obtain ⟨result, answers, -⟩ := refuses
      simp only [Bool.and_eq_true, answers.answered?, Option.all_some] at checked
      have two {otherId : RoomId} {clientId : ClientId} (same : otherId = roomId)
          (known : ((otherId = exampleRoomId : Bool) &&
            event.1.rooms[exampleRoomId]?.all fun room =>
              room.members.contains 1 && room.members.contains 2) = true) :
          ¬room.Alone clientId := by
        intro alone
        simp only [Bool.and_eq_true, decide_eq_true_eq] at known
        obtain ⟨here, known⟩ := known
        rw [same] at here
        rw [← here, found] at known
        simp only [Option.all_some, Bool.and_eq_true] at known
        exact absurd ((alone 1 known.1).trans (alone 2 known.2).symm) (by decide)
      cases pending with
      | upgradeJoin =>
          obtain ⟨same, upgrade, -, alone⟩ := empties
          exact two same (by simpa [PendingCommand.transition?] using checked.2)
            alone
      | sfuJoin =>
          obtain ⟨same, join, -, alone⟩ := empties
          exact two same (by simpa [PendingCommand.transition?] using checked.2)
            alone
      | _ => exact empties
    · simp [asked] at checked
  obtain ⟨room, found⟩ : ∃ room, (RoomTable.played 0
      forwardedOperations).2.rooms[exampleRoomId]? = some room :=
    Option.isSome_iff_exists.1 (by decide +kernel)
  have dead := no_dead_rooms (RoomTable.played_run 0 forwardedOperations) guarded
  have idle : (RoomTable.played 0 forwardedOperations).2.rooms[
      exampleRoomId]?.any (fun room =>
        room.mode = .sfu && room.upgrade.isNone && room.pendingJoin.isNone &&
          room.pendingLeave.isNone && room.members.toList.all fun entry =>
            !entry.2.registered && isDue entry.2.reconnectDeadline 0) = true := by
    decide +kernel
  have connected : (RoomTable.played 0 forwardedOperations).2.workers.toList.all
      (fun entry => entry.2.disconnectDeadline.isNone) = true := by
    decide +kernel
  rw [found] at idle
  simp only [Option.any_some, Bool.and_eq_true, decide_eq_true_eq,
    Option.isNone_iff_eq_none, List.all_eq_true, Bool.not_eq_true'] at idle
  obtain ⟨⟨⟨⟨forwarded, noUpgrade⟩, noJoin⟩, noLeave⟩, away⟩ := idle
  refine ⟨room, found, dead.1 _ room found, (dead.2 .sorted 0 _ room found
    ⟨fun clientId member present => ?_, noUpgrade, noJoin, noLeave⟩
    (fun instanceId expires => ?_)).2 (by simp [forwarded])⟩
  · exact away (clientId, member) (by simpa using present)
  · obtain ⟨worker, known, due⟩ := expires
    have free := List.all_eq_true.1 connected (instanceId, worker)
      (by simpa using known)
    simp only [Option.isNone_iff_eq_none] at free
    simp [isDue, free] at due

/-- The room of an upgrade fails, its two members are removed, and the join of
the third is refused: the room stays without members. -/
theorem refused_upgrade_empties :
    ¬∀ (history : History) (table : RoomTable) (roomId : RoomId) (room : Room),
      (RoomTable.machine 0).Run history table ->
      table.rooms[roomId]? = some room ->
      room.members.isEmpty = false := by
  intro inhabited
  let operations := upgradingOperations ++ [failureReport.operation,
    .remove 4 exampleRoomId 1 "first", .remove 5 exampleRoomId 2 "second",
    refused 1]
  obtain ⟨room, found⟩ : ∃ room, (RoomTable.played 0 operations).2.rooms[
      exampleRoomId]? = some room :=
    Option.isSome_iff_exists.1 (by decide +kernel)
  have occupied := inhabited _ _ _ room (RoomTable.played_run 0 operations) found
  have empty : (RoomTable.played 0 operations).2.rooms[exampleRoomId]?.map
      (·.members.isEmpty) = some true := by
    decide +kernel
  simp [found, occupied] at empty

end V2
end Signaling
