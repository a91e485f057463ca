import Signaling.V2.Invariants

/-!
# What a move does to one room

The projection of the moves to a single room id: either the move leaves the
room alone, or it is one of the changes listed here. Facts about rooms are
proved once for each change, with no table around it.
-/

namespace Signaling
namespace V2

open Std (ExtTreeMap ExtTreeSet)
open RoomTable

/-- What is stored for a room: nothing once its last member has gone. -/
def Room.stored (room : Room) : Option Room :=
  if room.members.isEmpty then none else some room

theorem Room.eq_of_stored
    {room stored : Room}
    (present : room.stored = some stored) :
    stored = room := by
  unfold Room.stored at present
  split at present
  · cases present
  · exact (Option.some.inj present).symm

/-- A room with a pending join or leave has no upgrade in flight. -/
theorem Room.WellFormed.idle
    {room : Room}
    (wellFormed : room.WellFormed)
    (pending : room.pendingJoin ≠ none ∨ room.pendingLeave ≠ none) :
    room.upgrade = none := by
  by_contra running
  obtain ⟨upgrade, running⟩ := Option.ne_none_iff_exists'.1 running
  obtain ⟨-, -, -, noJoin, noLeave, -⟩ := wellFormed.upgrade upgrade running
  exact pending.elim (· noJoin) (· noLeave)

/-- The room that a move changes. -/
def Move.room? : Move -> Option RoomId
  | .create roomId _ | .joinDirect roomId _ | .beginUpgrade _ roomId _
  | .beginJoin _ roomId _ | .register roomId _ | .dropWithLeave roomId _
  | .dropWithGrace roomId _ | .queueMessage roomId _ _
  | .requestLeave _ roomId _ | .removeFailed roomId _ | .removeDirect roomId _
  | .reportFailure _ roomId | .refuseSync _ roomId | .advanceUpgrade _ roomId
  | .commitUpgrade _ roomId | .abortUpgrade _ roomId
  | .completeJoin _ _ roomId _ | .refuseJoin _ roomId
  | .completeLeave _ roomId _ | .refuseLeave _ roomId | .expireRoom _ roomId
  | .downgrade roomId | .clearDeadline roomId | .retryLeave roomId _
  | .rearmGrace roomId _ | .expireMembers roomId => some roomId
  | .forwardSignal _ _ | .connectWorker _ | .syncRoom _ _ | .noteEvent _
  | .disconnectWorker _ | .push | .answer _ | .beginExpiry _ | .endExpiry _
  | .setDwell | .pollAction => none

/-- `RoomMoved roomId move room after` holds when the move takes the room of the
given id from `room` to `after`; an absent room is `none`. -/
inductive RoomMoved
    (roomId : RoomId) : Move -> Option Room -> Option Room -> Prop
  | kept
      {move : Move} {room : Option Room}
      (elsewhere : move.room? ≠ some roomId ∨ room = none) :
      RoomMoved roomId move room room
  | create
      (clientId : ClientId) (now : Instant) (grace : Duration)
      (token : String) (lifecycleId : Nat) :
      RoomMoved roomId (.create roomId clientId) none
        (some (Room.create clientId
          (newMember now grace token true lifecycleId)))
  | joinDirect
      {room : Room} {clientId : ClientId}
      (now : Instant) (grace : Duration) (token : String) (lifecycleId : Nat)
      (fresh : room.members.contains clientId = false)
      (direct : room.mode = .p2p)
      (space : room.members.size < maxP2pMembers) :
      RoomMoved roomId (.joinDirect roomId clientId) (some room)
        (some (room.insertMember clientId
          (newMember now grace token false lifecycleId)))
  | beginUpgrade
      {room : Room} {clientId : ClientId} {authorityRequestId : Nat}
      (now : Instant) (grace : Duration) (token : String) (lifecycleId : Nat)
      (lifecycle : ClientId -> Nat) (instanceId : InstanceId)
      (fresh : room.members.contains clientId = false)
      (direct : room.mode = .p2p)
      (full : ¬room.members.size < maxP2pMembers) :
      RoomMoved roomId (.beginUpgrade authorityRequestId roomId clientId)
        (some room)
        (some (room.startUpgrade authorityRequestId clientId
          (newMember now grace token false lifecycleId) lifecycle instanceId))
  | beginJoin
      {room : Room} {clientId : ClientId} {authorityRequestId : Nat}
      (now : Instant) (grace : Duration) (token : String) (lifecycleId : Nat)
      (fresh : room.members.contains clientId = false)
      (forwarded : room.mode = .sfu)
      (noJoin : room.pendingJoin = none)
      (noLeave : room.pendingLeave = none) :
      RoomMoved roomId (.beginJoin authorityRequestId roomId clientId)
        (some room)
        (some { room.insertMember clientId
            (newMember now grace token false lifecycleId) with
          pendingJoin := some ⟨authorityRequestId, clientId⟩
          downgradeDeadline := none })
  | register
      {room : Room} {clientId : ClientId} {member : Member}
      (settled : room.mode ≠ .upgrading)
      (present : room.members[clientId]? = some member)
      (unregistered : member.registered = false) :
      RoomMoved roomId (.register roomId clientId) (some room)
        (some (room.registerMember clientId member))
  | dropWithLeave
      {room : Room} {clientId : ClientId} {member : Member}
      (present : room.members[clientId]? = some member)
      (registered : member.registered = true)
      (forwarded : room.mode = .sfu)
      (noLeave : room.pendingLeave = none) :
      RoomMoved roomId (.dropWithLeave roomId clientId) (some room)
        (some { room.insertMember clientId { member with registered := false }
          with pendingLeave := some ⟨none, clientId⟩ })
  | dropWithGrace
      {room : Room} {clientId : ClientId} {member : Member}
      (deadline : Instant)
      (present : room.members[clientId]? = some member)
      (registered : member.registered = true) :
      RoomMoved roomId (.dropWithGrace roomId clientId) (some room)
        (some (room.insertMember clientId
          { member with
            registered := false
            reconnectDeadline := some deadline }))
  | queueMessage
      {room : Room} {clientId : ClientId} {member : Member} {message : String}
      (present : room.members[clientId]? = some member)
      (settled : room.mode ≠ .upgrading)
      (direct : room.mode ≠ .sfu) :
      RoomMoved roomId (.queueMessage roomId clientId message) (some room)
        (some (room.insertMember clientId
          { member with queuedMessages := member.queuedMessages ++ [message] }))
  | requestLeave
      {room : Room} {clientId : ClientId} {member : Member}
      {authorityRequestId : Nat}
      (present : room.members[clientId]? = some member)
      (forwarded : room.mode = .sfu)
      (noJoin : room.pendingJoin = none)
      (noLeave : room.pendingLeave = none) :
      RoomMoved roomId (.requestLeave authorityRequestId roomId clientId)
        (some room)
        (some { room with
          pendingLeave := some ⟨some authorityRequestId, clientId⟩ })
  | removeFailed
      {room : Room} {clientId : ClientId} {member : Member}
      (present : room.members[clientId]? = some member)
      (noJoin : room.pendingJoin = none)
      (noLeave : room.pendingLeave = none)
      (failed : room.mode = .failed) :
      RoomMoved roomId (.removeFailed roomId clientId) (some room)
        (room.eraseMember clientId).stored
  | removeDirect
      {room : Room} {clientId : ClientId} {member : Member}
      (present : room.members[clientId]? = some member)
      (noJoin : room.pendingJoin = none)
      (noLeave : room.pendingLeave = none)
      (direct : room.mode = .p2p) :
      RoomMoved roomId (.removeDirect roomId clientId) (some room)
        (promoteSurvivor roomId (room.eraseMember clientId)).2.stored
  | reportFailure
      {room : Room} (instanceId : InstanceId) :
      RoomMoved roomId (.reportFailure instanceId roomId) (some room)
        (some { room with mode := .failed })
  | refuseSync
      {room : Room} (requestId : Nat) :
      RoomMoved roomId (.refuseSync requestId roomId) (some room)
        (some { room with mode := .failed })
  | advanceUpgrade
      {room : Room} {upgrade : Upgrade} {clientId : ClientId}
      (requestId : Nat)
      (upgrading : room.upgrade = some upgrade)
      (unfinished :
        upgrade.nextClient + 1 ≠ upgrade.orderedClients.length) :
      RoomMoved roomId (.advanceUpgrade requestId roomId) (some room)
        (some (room.advanceUpgrade upgrade clientId))
  | commitUpgrade
      {room : Room} {upgrade : Upgrade} {clientId : ClientId}
      (requestId : Nat)
      (upgrading : room.upgrade = some upgrade)
      (finished : upgrade.nextClient + 1 = upgrade.orderedClients.length) :
      RoomMoved roomId (.commitUpgrade requestId roomId) (some room)
        (some (room.advanceUpgrade upgrade clientId).commitSfu)
  | abortUpgrade
      {room : Room} {upgrade : Upgrade}
      (requestId : Nat)
      (upgrading : room.upgrade = some upgrade) :
      RoomMoved roomId (.abortUpgrade requestId roomId) (some room)
        (some (room.release upgrade.joiningClientId))
  | completeJoin
      {room : Room} {pendingJoin : PendingJoin} {clientId : ClientId}
      (instanceId : InstanceId) (requestId : Nat)
      (joining : room.pendingJoin = some pendingJoin) :
      RoomMoved roomId (.completeJoin instanceId requestId roomId clientId)
        (some room) (some { room with pendingJoin := none })
  | refuseJoin
      {room : Room} {pendingJoin : PendingJoin}
      (requestId : Nat)
      (joining : room.pendingJoin = some pendingJoin) :
      RoomMoved roomId (.refuseJoin requestId roomId) (some room)
        (some { room.eraseMember pendingJoin.clientId with
          pendingJoin := none })
  | completeLeave
      {room : Room} {pendingLeave : PendingLeave} {clientId : ClientId}
      (requestId : Nat) (deadline : Option Instant)
      (leaving : room.pendingLeave = some pendingLeave)
      (armed : (room.afterLeave clientId deadline).eligible = true ↔
        deadline.isSome = true) :
      RoomMoved roomId (.completeLeave requestId roomId clientId) (some room)
        (room.afterLeave clientId deadline).stored
  | refuseLeave
      {room : Room} {pendingLeave : PendingLeave}
      (requestId : Nat)
      (leaving : room.pendingLeave = some pendingLeave) :
      RoomMoved roomId (.refuseLeave requestId roomId) (some room)
        (some { room with pendingLeave := none })
  | expireUpgrade
      {room : Room} {upgrade : Upgrade}
      (instanceId : InstanceId)
      (upgrading : room.mode = .upgrading)
      (running : room.upgrade = some upgrade) :
      RoomMoved roomId (.expireRoom instanceId roomId) (some room)
        (some (room.release upgrade.joiningClientId))
  | expireRoom
      {room : Room}
      (instanceId : InstanceId)
      (settled : room.mode ≠ .upgrading) :
      RoomMoved roomId (.expireRoom instanceId roomId) (some room)
        (some room.fail)
  | downgrade
      {room : Room} {initiatorClientId : ClientId} {others : List ClientId}
      (forwarded : room.mode = .sfu)
      (small : room.members.size ≤ maxP2pMembers)
      (noJoin : room.pendingJoin = none)
      (noLeave : room.pendingLeave = none)
      (clients : room.members.keys = initiatorClientId :: others) :
      RoomMoved roomId (.downgrade roomId) (some room)
        (some (room.commitP2p initiatorClientId))
  | clearDeadline
      {room : Room}
      (ineligible : room.eligible = false) :
      RoomMoved roomId (.clearDeadline roomId) (some room)
        (some { room with downgradeDeadline := none })
  | retryLeave
      {room : Room} {clientId : ClientId} {member : Member}
      {deadline : Instant}
      (present : room.members[clientId]? = some member)
      (waiting : member.reconnectDeadline = some deadline)
      (forwarded : room.mode = .sfu)
      (noLeave : room.pendingLeave = none) :
      RoomMoved roomId (.retryLeave roomId clientId) (some room)
        (some { room with pendingLeave := some ⟨none, clientId⟩ })
  | rearmGrace
      {room : Room} {clientId : ClientId} {member : Member}
      (deadline : Instant)
      (present : room.members[clientId]? = some member)
      (unregistered : member.registered = false)
      (forwarded : room.mode = .sfu) :
      RoomMoved roomId (.rearmGrace roomId clientId) (some room)
        (some (room.modifyMember clientId fun member =>
          { member with reconnectDeadline := some deadline }))
  | expireMembers
      {room : Room}
      (now : Instant)
      (direct : room.mode = .p2p) :
      RoomMoved roomId (.expireMembers roomId) (some room)
        (room.expireMembers roomId now).2.stored

/-- A move leaves every room but its own alone. -/
theorem RoomMoved.elsewhere
    {roomId : RoomId}
    {move : Move}
    {room after : Option Room}
    (moved : RoomMoved roomId move room after)
    (other : move.room? ≠ some roomId) :
    after = room := by
  cases moved <;> first | rfl | exact absurd rfl other

namespace RoomMoved

variable
  {roomId otherId : RoomId}
  {move : Move}
  {table after : RoomTable}
  {room replaced : Room}
  {result : Option Room}

/-- A change that stores or deletes one room is the projection of itself to that
room and leaves every other one alone. -/
theorem of_rooms
    (roomId otherId : RoomId)
    (about : move.room? = some roomId)
    (rooms : ∀ someId, after.rooms[someId]? =
      if someId = roomId then result else table.rooms[someId]?)
    (here : RoomMoved roomId move table.rooms[roomId]? result) :
    RoomMoved otherId move table.rooms[otherId]? after.rooms[otherId]? := by
  rw [rooms]
  split
  · rename_i same
    subst same
    exact here
  · rename_i other
    exact .kept (Or.inl (by simpa [about] using Ne.symm other))

theorem of_setRoom
    (otherId : RoomId)
    (about : move.room? = some roomId)
    (rooms : after.rooms = table.rooms.insert roomId replaced)
    (found : table.rooms[roomId]? = some room)
    (here : RoomMoved roomId move (some room) (some replaced)) :
    RoomMoved otherId move table.rooms[otherId]? after.rooms[otherId]? := by
  refine of_rooms roomId otherId about (fun someId => ?_)
    (by rw [found]; exact here)
  rw [rooms]
  grind

theorem of_setOrDropRoom
    (otherId : RoomId)
    (about : move.room? = some roomId)
    (rooms : after.rooms = (table.setOrDropRoom roomId replaced).rooms)
    (found : table.rooms[roomId]? = some room)
    (here : RoomMoved roomId move (some room) replaced.stored) :
    RoomMoved otherId move table.rooms[otherId]? after.rooms[otherId]? := by
  refine of_rooms roomId otherId about (fun someId => ?_)
    (by rw [found]; exact here)
  rw [rooms]
  unfold RoomTable.setOrDropRoom Room.stored
  split <;> simp only [dropRoom_rooms, setRoom_rooms] <;> grind

theorem of_same
    (otherId : RoomId)
    (about : move.room? = none)
    (rooms : after.rooms = table.rooms) :
    RoomMoved otherId move table.rooms[otherId]? after.rooms[otherId]? := by
  rw [rooms]
  exact .kept (Or.inl (by simp [about]))

end RoomMoved

/-- Every move does to each room one of the listed changes. -/
theorem Moved.room
    {phase phase' : Option InstanceId}
    {table table' : RoomTable}
    {move : Move}
    (taken : Moved phase table move phase' table')
    (wellFormed : table.WellFormed)
    (otherId : RoomId) :
    RoomMoved otherId move table.rooms[otherId]? table'.rooms[otherId]? := by
  have failed {before : RoomTable} {move : Move} (order : VisitOrder)
      (roomId : RoomId) (reason : String)
      (about : move.room? = some roomId)
      (rooms : before.rooms = table.rooms)
      (here : ∀ room, RoomMoved roomId move (some room)
        (some { room with mode := .failed })) :
      RoomMoved otherId move table.rooms[otherId]?
        (before.failRoom order roomId reason).rooms[otherId]? := by
    unfold RoomTable.failRoom
    split
    · rename_i absent
      rw [rooms] at absent
      rw [rooms]
      by_cases same : otherId = roomId
      · exact .kept (Or.inr (by rw [same, absent]))
      · exact .kept (Or.inl (by simpa [about] using Ne.symm same))
    · rename_i room found
      rw [rooms] at found
      exact RoomMoved.of_setRoom otherId about (by simp [rooms]) found
        (here room)
  cases taken with
  | create clientId now token absent =>
      rename_i roomId
      refine RoomMoved.of_rooms roomId otherId rfl (fun someId => ?_)
        (by
          rw [absent]
          exact .create clientId now table.reconnectGrace token
            (table.nextLifecycle roomId clientId).1)
      simp only [setRoom_rooms, nextLifecycle_rooms]
      grind
  | joinDirect now token found fresh direct space =>
      exact RoomMoved.of_setRoom otherId rfl rfl found
        (.joinDirect now _ token _ fresh direct space)
  | beginUpgrade authorityRequestId now token found fresh direct full selected =>
      rename_i roomId room clientId instanceId
      obtain ⟨lifecycle, counters, lifecycleId, first, joining, connectionId,
        head, present, connected, begun⟩ := beginUpgrade_eq authorityRequestId
          now token roomId fresh full selected
      rw [begun]
      exact RoomMoved.of_setRoom otherId rfl rfl found
        (.beginUpgrade now _ token _ _ _ fresh direct full)
  | beginJoin authorityRequestId now token found fresh forwarded noJoin noLeave
      assigned connected =>
      exact RoomMoved.of_setRoom otherId rfl rfl found
        (.beginJoin now _ token _ fresh forwarded noJoin noLeave)
  | register found settled present unregistered =>
      exact RoomMoved.of_setRoom otherId rfl rfl found
        (.register settled present unregistered)
  | dropWithLeave found present registered forwarded noLeave assigned
      connected =>
      exact RoomMoved.of_setRoom otherId rfl rfl found
        (.dropWithLeave present registered forwarded noLeave)
  | dropWithGrace now found present registered =>
      exact RoomMoved.of_setRoom otherId rfl rfl found
        (.dropWithGrace _ present registered)
  | forwardSignal => exact .kept (Or.inl (by simp [Move.room?]))
  | queueMessage found present settled direct accepted =>
      obtain rfl := pushQueued_ok accepted
      exact RoomMoved.of_setRoom otherId rfl rfl found
        (.queueMessage present settled direct)
  | requestLeave authorityRequestId found present forwarded noJoin noLeave
      assigned connected =>
      exact RoomMoved.of_setRoom otherId rfl rfl found
        (.requestLeave present forwarded noJoin noLeave)
  | removeFailed found present noJoin noLeave failed =>
      exact RoomMoved.of_setOrDropRoom otherId rfl rfl found
        (.removeFailed present noJoin noLeave failed)
  | removeDirect found present noJoin noLeave direct =>
      exact RoomMoved.of_setOrDropRoom otherId rfl rfl found
        (.removeDirect present noJoin noLeave direct)
  | connectWorker connectionId capacity actions plain =>
      exact RoomMoved.of_same otherId rfl (by simp [RoomTable.connectWorker])
  | syncRoom order found listed connected =>
      simp only [syncAssignedRoom, found]
      exact .kept (Or.inl (by simp [Move.room?]))
  | noteEvent => exact RoomMoved.of_same otherId rfl (by simp)
  | reportFailure requestId order reason ack known =>
      exact failed order _ reason rfl rfl fun room => .reportFailure _
  | disconnectWorker => exact .kept (Or.inl (by simp [Move.room?]))
  | push => exact .kept (Or.inl (by simp [Move.room?]))
  | answer => exact RoomMoved.of_same otherId rfl (by simp)
  | refuseSync order outstanding =>
      exact failed order _ _ rfl rfl fun room => .refuseSync _
  | advanceUpgrade outstanding connected found upgrading unfinished =>
      rename_i requestId instanceId roomId clientId lifecycleId
        assignmentEpoch room upgrade connectionId
      refine RoomMoved.of_setRoom otherId rfl ?_ found
        (@RoomMoved.advanceUpgrade roomId room upgrade clientId requestId upgrading
          unfinished)
      rcases RoomTable.issueNextUpgradeJoin_cases
        ((table.retireCommand requestId).setRoom roomId
          (room.advanceUpgrade upgrade clientId)) roomId with ⟨error, same⟩ |
        ⟨_, _, _, _, _, _, -, -, -, -, -, -, issued⟩
      · rw [same]
        rfl
      · rw [issued]
        rfl
  | commitUpgrade order outstanding connected found upgrading finished =>
      rename_i requestId instanceId roomId clientId lifecycleId
        assignmentEpoch room upgrade connectionId
      refine RoomMoved.of_setRoom otherId rfl ?_ found
        (@RoomMoved.commitUpgrade roomId room upgrade clientId requestId upgrading
          finished)
      rw [commitUpgrade_eq order (room.advanceUpgrade upgrade clientId)
        (by simp) rfl, setRoom_setRoom]
      split <;> simp
  | abortUpgrade reason outstanding found upgrading =>
      rename_i requestId instanceId roomId clientId lifecycleId
        assignmentEpoch room upgrade
      obtain ⟨carrier, carried⟩ := Option.isSome_iff_exists.1
        ((wellFormed.rooms roomId room found).upgrade upgrade upgrading).2.2.1
      obtain ⟨leavers, answers, release, -⟩ := abortUpgrade_released
        (table.retireCommand requestId) reason found upgrading carried
      exact RoomMoved.of_setRoom otherId rfl release.rooms found
        (.abortUpgrade requestId upgrading)
  | completeJoin outstanding found joining =>
      rename_i requestId instanceId roomId clientId lifecycleId
        assignmentEpoch room pendingJoin
      refine RoomMoved.of_setRoom otherId rfl ?_ found
        (.completeJoin instanceId requestId joining)
      rw [completeJoin_eq]
      split <;> rfl
  | refuseJoin reason outstanding found joining =>
      exact RoomMoved.of_setRoom otherId rfl rfl found (.refuseJoin _ joining)
  | completeLeave now outstanding found leaving =>
      rename_i requestId instanceId roomId clientId lifecycleId
        assignmentEpoch room pendingLeave
      obtain ⟨deadline, armed, complete⟩ := completeLeave_eq
        (table.retireCommand requestId) instanceId roomId room clientId
          pendingLeave now
      refine RoomMoved.of_setOrDropRoom otherId rfl ?_ found
        (@RoomMoved.completeLeave roomId room pendingLeave clientId requestId
          deadline leaving armed)
      rw [complete]
      unfold RoomTable.setOrDropRoom
      simp only [pushActions_rooms, modifyWorker_rooms, Room.afterLeave,
        Room.eraseMember]
      split <;> rename_i last <;> simp [last]
  | refuseLeave reason outstanding found leaving =>
      rw [removalAnswer_eq]
      exact RoomMoved.of_setRoom otherId rfl (by simp) found
        (.refuseLeave _ leaving)
  | beginExpiry => exact .kept (Or.inl (by simp [Move.room?]))
  | expireUpgrade waits listed found upgrading =>
      rename_i instanceId roomId room
      obtain ⟨upgrade, running, -⟩ :=
        (wellFormed.rooms roomId room found).upgrading upgrading
      obtain ⟨carrier, carried⟩ := Option.isSome_iff_exists.1
        ((wellFormed.rooms roomId room found).upgrade upgrade running).2.2.1
      obtain ⟨leavers, answers, release, -⟩ :=
        abortUpgrade_released table "WORKER_UNAVAILABLE" found running carried
      exact RoomMoved.of_setRoom otherId rfl release.rooms found
        (.expireUpgrade instanceId upgrading running)
  | expireRoom order waits listed found settled =>
      exact RoomMoved.of_setRoom otherId rfl (by simp [failExpired]) found
        (.expireRoom _ settled)
  | endExpiry waits settled =>
      exact RoomMoved.of_same otherId rfl (by simp [releaseWorker])
  | downgrade order eligible =>
      obtain ⟨room, instanceId, initiatorClientId, others, found, forwarded,
        small, noJoin, noLeave, carried, clients⟩ :=
          wellFormed.eligible eligible
      exact RoomMoved.of_setRoom otherId rfl
        (commitDowngrade_released order found carried clients).rooms found
        (.downgrade forwarded small noJoin noLeave clients)
  | clearDeadline found ineligible =>
      rw [isDowngradeEligible_eq _ _ found] at ineligible
      exact RoomMoved.of_setRoom otherId rfl rfl found (.clearDeadline ineligible)
  | retryLeave found present waiting forwarded noLeave assigned connected =>
      exact RoomMoved.of_setRoom otherId rfl rfl found
        (.retryLeave present waiting forwarded noLeave)
  | rearmGrace now found present waiting forwarded =>
      rename_i roomId room clientId member deadline
      have unregistered : member.registered = false := by
        by_contra registered
        have waits := (wellFormed.rooms roomId room found).waiting clientId
          member present (by simpa using registered)
        simp [waits] at waiting
      exact RoomMoved.of_setRoom otherId rfl rfl found
        (.rearmGrace _ present unregistered forwarded)
  | expireMembers now found direct =>
      exact RoomMoved.of_setOrDropRoom otherId rfl rfl found
        (.expireMembers now direct)
  | setDwell => exact .kept (Or.inl (by simp [Move.room?]))
  | pollAction =>
      refine RoomMoved.of_same otherId rfl ?_
      unfold RoomTable.pollAction
      split <;> rfl

/-- A fact about single rooms that every guarded change of a room preserves holds
of every room along every guarded run. -/
theorem RoomTable.rooms_invariant
    {reconnectGrace : Duration}
    {guard : RoomTable -> Call -> Prop}
    (holds : Room -> Prop)
    (keeps : RoomId -> Option Room -> Move -> Prop)
    (preserved : ∀ (roomId : RoomId) (move : Move) (room after : Option Room),
      RoomMoved roomId move room after -> keeps roomId room move ->
      (∀ stored, room = some stored -> stored.WellFormed) ->
      (∀ stored, room = some stored -> holds stored) ->
      ∀ stored, after = some stored -> holds stored)
    (sound : ∀ before call phase table move phase' table',
      guard before call -> Moved phase table move phase' table' ->
      Arises before call table move -> table.Consistent ->
      ∀ roomId : RoomId, keeps roomId table.rooms[roomId]? move)
    {history : History}
    {table : RoomTable}
    (run : (machine reconnectGrace).Run history table)
    (guarded : Machine.Guarded guard history)
    (roomId : RoomId)
    (room : Room)
    (found : table.rooms[roomId]? = some room) :
    holds room := by
  refine run_invariant (fun _ table => ∀ (roomId : RoomId) (room : Room),
    table.rooms[roomId]? = some room -> holds room) (by simp)
    (fun before call phase table move phase' table' allowed taken arises
      consistent kept roomId room found => ?_) run guarded roomId room found
  exact preserved roomId move _ _ (taken.room consistent.wellFormed roomId)
    (sound before call phase table move phase' table' allowed taken arises
      consistent roomId)
    (consistent.wellFormed.rooms roomId) (kept roomId) room found

/-- A room enters a mode by one of the moves that lead into it. Where no sweep
makes such a move, it is the only move of the call. -/
theorem RoomTable.Consistent.enters
    {table : RoomTable}
    {call : Call}
    {roomId : RoomId}
    {mode : RoomMode}
    {entering : Move -> Prop}
    (consistent : table.Consistent)
    (onto : ∀ (move : Move) (before : Option Room) (after : Room),
      RoomMoved roomId move before (some after) -> after.mode = mode ->
      (∃ former, before = some former ∧ former.mode = mode) ∨ entering move)
    (single : ∀ (middle : RoomTable) (move : Move),
      entering move -> Arises table call middle move -> ¬call.Sweeps)
    (waiting : table.mode? roomId ≠ some mode)
    (entered : (table.step call).mode? roomId = some mode) :
    ∃ move, entering move ∧ Arises table call table move ∧
      Moved none table move none (table.step call) := by
  have enteredRoom {state : RoomTable} (there : state.mode? roomId = some mode) :
      ∃ room, state.rooms[roomId]? = some room ∧ room.mode = mode := by
    simpa [RoomTable.mode?, Option.map_eq_some_iff] using there
  have stays {state : RoomTable} {former : Room}
      (away : state.mode? roomId ≠ some mode)
      (found : state.rooms[roomId]? = some former) :
      former.mode ≠ mode := by
    simpa [RoomTable.mode?, found] using away
  by_cases sweeps : call.Sweeps
  · have kept := @step_invariant table call
      (fun _ middle => middle.mode? roomId ≠ some mode) consistent
      (fun phase middle move phase' next taken arises sound kept becomes => by
        obtain ⟨room, found, there⟩ := enteredRoom becomes
        have moved := taken.room sound.wellFormed roomId
        rw [found] at moved
        rcases onto move _ room moved there with ⟨former, was, before⟩ | enters
        · exact stays kept was before
        · exact single middle move enters arises sweeps) waiting
    exact absurd entered kept
  rcases step_direct table call sweeps with same | ⟨move, taken, arises⟩
  · rw [same] at entered
    exact absurd entered waiting
  obtain ⟨room, found, there⟩ := enteredRoom entered
  have moved := taken.room consistent.wellFormed roomId
  rw [found] at moved
  rcases onto move _ room moved there with ⟨former, was, before⟩ | enters
  · exact absurd before (stays waiting was)
  · exact ⟨move, enters, arises, taken⟩

end V2
end Signaling
