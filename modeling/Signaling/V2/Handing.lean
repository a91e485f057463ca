import Signaling.V2.Filing
import Signaling.V2.RoomMoves

/-!
# Calls that hand out commands

Which calls hand a connected worker new joins, leaves or signals of a room, told
from the call and from the table in which it is made.
-/

namespace Signaling
namespace V2

open Std (ExtTreeMap)
open RoomTable

namespace RoomTable

/-- No worker whose grace has passed lists the room. -/
def Spared
    (table : RoomTable)
    (now : Instant)
    (roomId : RoomId) : Prop :=
  ∀ instanceId, table.Expires now instanceId -> ¬table.Lists instanceId roomId

end RoomTable

/-- The call hands new joins, leaves or signals of the room to the worker. -/
inductive Call.Hands
    (call : Call)
    (table : RoomTable)
    (instanceId : InstanceId)
    (roomId : RoomId) : Prop
  | upgrade
      {authorityRequestId : Nat} {now : Instant} {clientId : ClientId}
      {token : String} {room : Room}
      (asked : call.operation =
        .admitClient authorityRequestId now roomId clientId token)
      (found : table.rooms[roomId]? = some room)
      (fresh : room.members.contains clientId = false)
      (direct : room.mode = .p2p)
      (full : ¬room.members.size < maxP2pMembers)
      (selected : table.selectWorker 3 = some instanceId)
  | join
      {authorityRequestId : Nat} {now : Instant} {clientId : ClientId}
      {token : String} {room : Room}
      (asked : call.operation =
        .admitClient authorityRequestId now roomId clientId token)
      (served : table.Reaches instanceId roomId room)
      (fresh : room.members.contains clientId = false)
      (forwarded : room.mode = .sfu)
      (noJoin : room.pendingJoin = none)
      (noLeave : room.pendingLeave = none)
  | drop
      {now : Instant} {clientId : ClientId} {room : Room} {member : Member}
      (asked : call.operation = .deregister now roomId clientId)
      (served : table.Reaches instanceId roomId room)
      (present : room.members[clientId]? = some member)
      (registered : member.registered = true)
      (forwarded : room.mode = .sfu)
      (noLeave : room.pendingLeave = none)
  | signal
      {clientId : ClientId} {message : String} {room : Room} {member : Member}
      -- A signal of another epoch is dropped.
      (asked : call.operation =
        .send roomId clientId room.signalEpoch message)
      (served : table.Reaches instanceId roomId room)
      (present : room.members[clientId]? = some member)
      (forwarded : room.mode = .sfu)
  | leave
      {clientId : ClientId} {room : Room}
      (removes : call.Removes table roomId clientId)
      (served : table.Reaches instanceId roomId room)
      (forwarded : room.mode = .sfu)
      (noJoin : room.pendingJoin = none)
      (noLeave : room.pendingLeave = none)
  | next
      {answering expected : InstanceId} {requestId : Nat} {clientId : ClientId}
      {lifecycleId assignmentEpoch : Nat} {room : Room}
      (accepts : call.Accepts table answering requestId
        (.upgradeJoin expected roomId clientId lifecycleId assignmentEpoch))
      (served : table.Reaches instanceId roomId room)
      (proceeds : room.Proceeds)
  | rollback
      {answering expected : InstanceId} {requestId : Nat} {clientId : ClientId}
      {lifecycleId assignmentEpoch : Nat} {room : Room}
      (refuses : call.Refuses table answering requestId
        (.upgradeJoin expected roomId clientId lifecycleId assignmentEpoch))
      (served : table.Reaches instanceId roomId room)
      (rewinds : room.Rewinds)
  | expiry
      {now : Instant} {expiredId : InstanceId} {room : Room}
      (asked : call.operation = .handleTimeout now)
      (expires : table.Expires now expiredId)
      (lists : table.Lists expiredId roomId)
      (served : table.Reaches instanceId roomId room)
      (upgrading : room.mode = .upgrading)
      (rewinds : room.Rewinds)
  | downgrade
      {now : Instant} {room : Room}
      (asked : call.operation = .handleTimeout now)
      (spared : table.Spared now roomId)
      (served : table.Reaches instanceId roomId room)
      (due : isDue room.downgradeDeadline now = true)
      (eligible : room.eligible = true)
  | retry
      {now : Instant} {clientId : ClientId} {room : Room}
      (asked : call.operation = .handleTimeout now)
      (spared : table.Spared now roomId)
      (served : table.Reaches instanceId roomId room)
      (undue : isDue room.downgradeDeadline now = false)
      (expired : room.expiredSfuClient call.order roomId now = some clientId)

section Timeouts

variable
  {table : RoomTable}
  {call : Call}
  {now : Instant}
  {roomId : RoomId}

/-- A move of a timeout begins no upgrade and goes on with none. -/
theorem Moved.upgrading_before
    {phase phase' : Option InstanceId}
    {middle next : RoomTable}
    {move : Move}
    {room : Room}
    (taken : Moved phase middle move phase' next)
    (expiring : move.Expiring)
    (wellFormed : middle.WellFormed)
    (found : next.rooms[roomId]? = some room)
    (upgrading : room.mode = .upgrading) :
    ∃ former deadline, middle.rooms[roomId]? = some former ∧
      former = { room with downgradeDeadline := deadline } := by
  have moved := taken.room wellFormed roomId
  rw [found] at moved
  generalize middle.rooms[roomId]? = before at moved
  generalize was : some room = after at moved
  cases moved with
  | kept => exact ⟨room, room.downgradeDeadline, was.symm, rfl⟩
  | clearDeadline =>
      cases was
      exact ⟨_, _, rfl, rfl⟩
  | expireMembers _ direct =>
      obtain rfl := Room.eq_of_stored was.symm
      simp [direct] at upgrading
  | expireUpgrade | expireRoom | downgrade | retryLeave | rearmGrace =>
      cases was
      simp_all [Room.release, Room.rollBack, Room.fail, Room.commitP2p,
        Room.modifyMember]
  | _ => exact expiring.elim

/-- A chain of moves of a timeout leaves an upgrading room as it was, apart from
the deadline of a downgrade. -/
theorem CallChain.upgrading_before
    {state : Option InstanceId × RoomTable}
    {room : Room}
    (asked : call.operation = .handleTimeout now)
    (wellFormed : table.WellFormed)
    (chain : CallChain table call (none, table) state)
    (found : state.2.rooms[roomId]? = some room)
    (upgrading : room.mode = .upgrading) :
    ∃ former deadline, table.rooms[roomId]? = some former ∧
      former = { room with downgradeDeadline := deadline } := by
  have kept := Chain.invariant (fun state => state.2.WellFormed ∧
      ∀ room, state.2.rooms[roomId]? = some room -> room.mode = .upgrading ->
        ∃ former deadline, table.rooms[roomId]? = some former ∧
          former = { room with downgradeDeadline := deadline })
    (fun state move next taken arises ⟨shape, before⟩ => by
      refine ⟨shape.moved taken, fun room found upgrading => ?_⟩
      obtain ⟨middle, deadline, there, rfl⟩ := taken.upgrading_before
        (arises.expiring asked) shape found upgrading
      obtain ⟨former, other, here, rfl⟩ := before _ there upgrading
      exact ⟨_, other, here, rfl⟩)
    chain ⟨wellFormed, fun room found _ => ⟨room, _, found, rfl⟩⟩
  exact kept.2 room found upgrading

/-- A chain of moves of a timeout connects no worker. -/
theorem CallChain.connected_before
    {state : Option InstanceId × RoomTable}
    {instanceId : InstanceId}
    {connectionId : Sfu.ConnectionId}
    (asked : call.operation = .handleTimeout now)
    (wellFormed : table.WellFormed)
    (chain : CallChain table call (none, table) state)
    (connected : state.2.connection? instanceId = some connectionId) :
    table.connection? instanceId = some connectionId := by
  have kept := Chain.invariant (fun state => state.2.WellFormed ∧
      (state.2.connection? instanceId = some connectionId ->
        table.connection? instanceId = some connectionId))
    (fun state move next taken arises ⟨shape, before⟩ => by
      refine ⟨shape.moved taken, fun later => before ?_⟩
      have expiring := arises.expiring asked
      refine (taken.ledger shape ?_ ?_).connections later
      · cases move with
        | connectWorker | syncRoom | pollAction => exact expiring.elim
        | _ => trivial
      · rintro requestId pending rfl
        exact expiring.elim)
    chain ⟨wellFormed, id⟩
  exact kept.2 connected

end Timeouts

/-- A branch of a call that issues commands is one that hands them out. -/
theorem Call.Issues.hands
    {call : Call}
    {table : RoomTable}
    {instanceId : InstanceId}
    {roomId : RoomId}
    (issues : call.Issues table instanceId roomId)
    (wellFormed : table.WellFormed) :
    call.Hands table instanceId roomId := by
  obtain ⟨⟨phase, middle⟩, move, next, chain, taken, arises, commands⟩ := issues
  change Moved phase middle move next.1 next.2 at taken
  generalize next.1 = phase' at taken
  generalize next.2 = after at taken
  change move.Commands middle instanceId roomId at commands
  change Arises table call middle move at arises
  cases taken with
  | beginUpgrade authorityRequestId now token found fresh direct full =>
      obtain ⟨rfl, selected⟩ := commands
      obtain ⟨rfl, since, presented, asked⟩ := arises
      exact .upgrade asked found fresh direct full selected
  | beginJoin authorityRequestId now token found fresh forwarded noJoin noLeave =>
      obtain ⟨rfl, room, served⟩ := commands
      obtain ⟨rfl, since, presented, asked⟩ := arises
      obtain rfl := Option.some.inj (found.symm.trans served.found)
      exact .join asked served fresh forwarded noJoin noLeave
  | dropWithLeave found present registered forwarded noLeave =>
      obtain ⟨rfl, room, served⟩ := commands
      obtain ⟨rfl, now, asked⟩ := arises
      obtain rfl := Option.some.inj (found.symm.trans served.found)
      exact .drop asked served present registered forwarded noLeave
  | forwardSignal message found present forwarded =>
      obtain ⟨rfl, room, served⟩ := commands
      obtain ⟨rfl, signalEpoch, text, current, asked, here, rfl⟩ := arises
      obtain rfl := Option.some.inj (found.symm.trans served.found)
      obtain rfl := Option.some.inj (here.symm.trans found)
      exact .signal asked served present forwarded
  | requestLeave authorityRequestId found present forwarded noJoin noLeave =>
      obtain ⟨rfl, room, served⟩ := commands
      obtain ⟨rfl, removes, -⟩ := arises
      obtain rfl := Option.some.inj (found.symm.trans served.found)
      exact .leave removes served forwarded noJoin noLeave
  | advanceUpgrade outstanding connected found upgrading unfinished =>
      obtain ⟨rfl, room, served, proceeds⟩ := commands
      obtain ⟨rfl, answering, pending, accepts⟩ := arises
      obtain rfl := accepts.recorded outstanding
      exact .next accepts served proceeds
  | abortUpgrade reason outstanding found upgrading =>
      obtain ⟨rfl, room, served, rewinds⟩ := commands
      obtain ⟨rfl, answering, pending, refuses⟩ := arises
      obtain rfl := refuses.recorded outstanding
      exact .rollback refuses served rewinds
  | expireUpgrade waits listed found upgrading =>
      obtain ⟨rfl, room, served, rewinds, mode⟩ := commands
      obtain ⟨now, asked, expires, lists, -⟩ := arises
      obtain ⟨former, deadline, here, rfl⟩ :=
        CallChain.upgrading_before asked wellFormed chain served.found mode
      obtain ⟨connectionId, connected⟩ :=
        Option.isSome_iff_exists.1 served.connected
      exact .expiry asked expires lists
        ⟨here, served.assigned, Option.isSome_iff_exists.2 ⟨connectionId,
          CallChain.connected_before asked wellFormed chain connected⟩⟩
        mode rewinds
  | expireRoom order waits listed found settled =>
      obtain ⟨rfl, room, served, rewinds, mode⟩ := commands
      obtain rfl := Option.some.inj (found.symm.trans served.found)
      exact absurd mode settled
  | downgrade order eligible =>
      obtain ⟨rfl, room, served⟩ := commands
      obtain ⟨now, other, asked, here, there, due, connections, spared⟩ := arises
      obtain rfl := Option.some.inj (there.symm.trans served.found)
      rw [isDowngradeEligible_eq _ _ there] at eligible
      exact .downgrade asked spared
        ⟨here, served.assigned, connections instanceId ▸ served.connected⟩ due
        eligible
  | retryLeave found present waiting forwarded noLeave =>
      obtain ⟨rfl, room, served⟩ := commands
      obtain ⟨now, asked, -, other, here, there, undue, expired, connections,
        spared⟩ := arises
      obtain rfl := Option.some.inj (there.symm.trans served.found)
      exact .retry asked spared
        ⟨here, served.assigned, connections instanceId ▸ served.connected⟩ undue
        expired
  | _ => exact commands.elim

/-- The confirmation of a synchronization hands out no new command. -/
theorem Call.Accepts.hands_nothing
    {call : Call}
    {table : RoomTable}
    {instanceId otherId : InstanceId}
    {requestId : Nat}
    {pending : PendingCommand}
    {roomId : RoomId}
    (accepts : call.Accepts table instanceId requestId pending)
    (sync : pending.isSync = true) :
    ¬call.Hands table otherId roomId := by
  obtain ⟨result, answers, -⟩ := accepts
  have ⟨connectionId, now, answered, _⟩ := answers
  intro hands
  cases hands with
  | upgrade asked | join asked | drop asked | signal asked | expiry asked
  | downgrade asked | retry asked =>
      rw [answered] at asked
      cases asked
  | leave removes =>
      obtain ⟨_, _, _, asked, -⟩ := removes
      rw [answered] at asked
      cases asked
  | next others =>
      obtain ⟨_, others, -⟩ := others
      obtain ⟨-, -, rfl, -⟩ := answers.same others
      cases sync
  | rollback others =>
      obtain ⟨_, others, -⟩ := others
      obtain ⟨-, -, rfl, -⟩ := answers.same others
      cases sync

end V2
end Signaling
