import Signaling.V2.Grace

/-!
# Why members leave

A member is gone after a call only because the authority removed it, because the
admission that it was to have was refused, because it was away for the grace, or
because a worker confirmed a leave that had been asked for with such a reason.
-/

namespace Signaling
namespace V2

open Std (ExtTreeMap)
open RoomTable

/-- The call gives a reason to have a worker let the member go: the authority
removes it, its browser is gone, or it has been away for the grace. -/
inductive Call.Dismisses
    (reconnectGrace : Duration)
    (older : History)
    (table : RoomTable)
    (call : Call)
    (roomId : RoomId)
    (clientId : ClientId)
    (member : Member) : Prop
  | removed (authorityRequestId : Nat)
      (asked : call.operation =
        .remove authorityRequestId roomId clientId member.token)
  | disconnected (now : Instant)
      (asked : call.operation = .deregister now roomId clientId)
      (registered : member.registered = true)
  | waited (now deadline : Instant)
      (asked : call.operation = .handleTimeout now)
      (passed : deadline ≤ now)
      (waited : Waited reconnectGrace older table roomId clientId member.token
        deadline)

/-- A call of the history has dismissed the member that had the lifecycle: with
it the leave became outstanding under its number. -/
def Dismissed
    (reconnectGrace : Duration)
    (history : History)
    (requestId : Nat)
    (instanceId : InstanceId)
    (roomId : RoomId)
    (clientId : ClientId)
    (lifecycleId assignmentEpoch : Nat) : Prop :=
  ∃ newer table call older member,
    history = newer ++ (table, call) :: older ∧
    table.member? roomId clientId = some member ∧
    member.lifecycleId = lifecycleId ∧
    table.pendingCommands[requestId]? ≠ some (PendingCommand.sfuLeave
      instanceId roomId clientId lifecycleId assignmentEpoch) ∧
    (table.step call).pendingCommands[requestId]? = some
      (PendingCommand.sfuLeave instanceId roomId clientId lifecycleId
        assignmentEpoch) ∧
    call.Dismisses reconnectGrace older table roomId clientId member

/-- Why the call takes the member out of its room. -/
inductive Departure
    (reconnectGrace : Duration)
    (history : History)
    (table : RoomTable)
    (call : Call)
    (roomId : RoomId)
    (clientId : ClientId)
    (member : Member) : Prop
  | removed (authorityRequestId : Nat) (promotion : Option Promotion)
      (asked : call.operation =
        .remove authorityRequestId roomId clientId member.token)
      (done : (table.remove authorityRequestId roomId clientId
        member.token).1 = .ok (.complete promotion))
  | left
      {instanceId expected : InstanceId}
      {requestId lifecycleId assignmentEpoch : Nat}
      (accepts : call.Accepts table instanceId requestId
        (.sfuLeave expected roomId clientId lifecycleId assignmentEpoch))
      (dismissed : Dismissed reconnectGrace history requestId expected roomId
        clientId lifecycleId assignmentEpoch)
  -- The worker refuses the join of the client that the room waits for.
  | refused
      {room : Room} {join : PendingJoin} {instanceId expected : InstanceId}
      {requestId lifecycleId assignmentEpoch : Nat} {asked : ClientId}
      (found : table.rooms[roomId]? = some room)
      (waits : room.pendingJoin = some join)
      (own : join.clientId = clientId)
      (refuses : call.Refuses table instanceId requestId
        (.sfuJoin expected roomId asked lifecycleId assignmentEpoch))
  -- The worker refuses a join of the upgrade that the client was admitted with.
  | rolledBack
      {room : Room} {upgrade : Upgrade} {instanceId expected : InstanceId}
      {requestId lifecycleId assignmentEpoch : Nat} {asked : ClientId}
      (found : table.rooms[roomId]? = some room)
      (running : room.upgrade = some upgrade)
      (own : upgrade.joiningClientId = clientId)
      (refuses : call.Refuses table instanceId requestId
        (.upgradeJoin expected roomId asked lifecycleId assignmentEpoch))
  | relied (now : Instant)
      (asked : call.operation = .handleTimeout now)
      (relies : table.Relies now roomId clientId)
  | waited (now deadline : Instant)
      (asked : call.operation = .handleTimeout now)
      (passed : deadline ≤ now)
      (waited : Waited reconnectGrace history table roomId clientId member.token
        deadline)

section Dismissals

variable
  {reconnectGrace : Duration}
  {history : History}
  {table : RoomTable}
  {call : Call}
  {roomId : RoomId}
  {clientId : ClientId}

/-- An outstanding leave was outstanding before the call, or the call dismisses
the member. -/
theorem dismisses_of_leave
    {requestId lifecycleId assignmentEpoch : Nat}
    {instanceId : InstanceId}
    (run : (RoomTable.machine reconnectGrace).Run history table)
    (outstanding : (table.step call).pendingCommands[requestId]? =
      some (PendingCommand.sfuLeave instanceId roomId clientId lifecycleId
        assignmentEpoch)) :
    table.pendingCommands[requestId]? = some (PendingCommand.sfuLeave instanceId
        roomId clientId lifecycleId assignmentEpoch) ∨
      ∃ member, table.member? roomId clientId = some member ∧
        member.lifecycleId = lifecycleId ∧
        call.Dismisses reconnectGrace history table roomId clientId member := by
  have consistent := consistent_of_run run
  by_cases timed : ∃ now, call.operation = .handleTimeout now
  · obtain ⟨now, asked⟩ := timed
    simp only [RoomTable.step, asked] at outstanding
    refine (consistent.leave_due outstanding).imp_right ?_
    rintro ⟨member, present, same, due⟩
    obtain ⟨deadline, passed, waited⟩ := waited_of_due run present due
    exact ⟨member, present, same, .waited now deadline asked passed waited⟩
  refine consistent.step_invariant (fun _ middle =>
      middle.pendingCommands[requestId]? = some (PendingCommand.sfuLeave
        instanceId roomId clientId lifecycleId assignmentEpoch) ->
      table.pendingCommands[requestId]? = some (PendingCommand.sfuLeave
        instanceId roomId clientId lifecycleId assignmentEpoch) ∨
      ∃ member, table.member? roomId clientId = some member ∧
        member.lifecycleId = lifecycleId ∧
        call.Dismisses reconnectGrace history table roomId clientId member)
    (fun phase middle move phase' next taken arises shape kept recorded => ?_)
    .inl outstanding
  rcases taken.outstanding shape.wellFormed recorded rfl with before |
    ⟨-, issues⟩
  · exact kept before
  cases move with
  | dropWithLeave subject leaver =>
      obtain ⟨rfl, now, asked⟩ := arises
      obtain ⟨room, member, carrier, found, present, -, same⟩ := issues
      cases same
      refine .inr ⟨member, by simp [member?, found, present], rfl,
        .disconnected now asked ?_⟩
      cases taken with
      | dropWithLeave there inside registered =>
          obtain rfl := Option.some.inj (found.symm.trans there)
          obtain rfl := Option.some.inj (present.symm.trans inside)
          exact registered
  | requestLeave authorityRequestId subject leaver =>
      obtain ⟨rfl, removes, -⟩ := arises
      obtain ⟨room, member, carrier, found, present, -, same⟩ := issues
      cases same
      obtain ⟨requested, token, other, asked, there, authentic⟩ := removes
      obtain rfl := tokenBytes_injective
        ((constantTimeEq_iff _ _).1 authentic)
      have here : middle.member? roomId clientId = some member := by
        simp [member?, found, present]
      obtain rfl := Option.some.inj (there.symm.trans here)
      exact .inr ⟨other, there, rfl, .removed requested asked⟩
  | retryLeave subject leaver =>
      obtain ⟨now, asked, -⟩ := arises
      exact absurd ⟨now, asked⟩ timed
  | beginUpgrade | advanceUpgrade => simp [Issues, PendingCommand.transition?]
      at issues
  | beginJoin =>
      obtain ⟨room, carrier, -, -, same⟩ := issues
      cases same
  | _ => exact issues.elim

/-- Whoever a worker is asked to let go has been dismissed. -/
theorem dismissed_of_run
    {requestId lifecycleId assignmentEpoch : Nat}
    {instanceId : InstanceId}
    (run : (RoomTable.machine reconnectGrace).Run history table)
    (outstanding : table.pendingCommands[requestId]? =
      some (PendingCommand.sfuLeave instanceId roomId clientId lifecycleId
        assignmentEpoch)) :
    Dismissed reconnectGrace history requestId instanceId roomId clientId
      lifecycleId assignmentEpoch := by
  induction run with
  | start starts =>
      obtain rfl : _ = RoomTable.new reconnectGrace := starts
      simp at outstanding
  | next call run inductionHypothesis =>
      rename_i history before
      by_cases recorded : before.pendingCommands[requestId]? = some
        (PendingCommand.sfuLeave instanceId roomId clientId lifecycleId
          assignmentEpoch)
      · obtain ⟨newer, table, dismissal, older, member, split, rest⟩ :=
          inductionHypothesis recorded
        exact ⟨(before, call) :: newer, table, dismissal, older, member,
          by rw [split]; rfl, rest⟩
      · obtain ⟨member, present, same, dismisses⟩ :=
          (dismisses_of_leave run outstanding).resolve_left recorded
        exact ⟨[], before, call, history, member, rfl, present, same, recorded,
          outstanding, dismisses⟩

/-- A registration of a worker takes nobody out of a room. -/
theorem RoomTable.Consistent.member_registered
    {instanceId : InstanceId}
    {connectionId : Sfu.ConnectionId}
    {requestId : Nat}
    {capacity : Sfu.Capacity}
    (consistent : table.Consistent)
    (asked : call.operation =
      .handleSfuInput (.register connectionId instanceId requestId capacity)) :
    (table.step call).member? roomId clientId =
      table.member? roomId clientId := by
  refine @step_invariant table call (fun _ middle =>
      middle.member? roomId clientId = table.member? roomId clientId) consistent
    (fun phase middle move phase' next taken arises shape kept => ?_) rfl
  have idle : move.room? = none := by
    cases move <;> simp only [Arises, asked] at arises <;>
      simp_all [Move.room?, Call.Removes, Call.Registers, Call.Reports,
        Call.Accepts, Call.Refuses, Call.Answers]
  rw [← kept, member?, (taken.room shape.wellFormed roomId).elsewhere
    (by simp [idle])]
  rfl

/-- Any other call takes a member out by one move. -/
theorem RoomTable.Consistent.evicted
    {member : Member}
    (consistent : table.Consistent)
    (present : table.member? roomId clientId = some member)
    (absent : (table.step call).member? roomId clientId = none)
    (direct : ¬call.Sweeps) :
    ∃ move, Moved none table move none (table.step call) ∧
      Arises table call table move ∧ move.room? = some roomId ∧
      move.Evicts table.rooms[roomId]? clientId := by
  rcases step_direct table call direct with same | ⟨move, taken, arises⟩
  · rw [same, present] at absent
    cases absent
  have moved := taken.room consistent.wellFormed roomId
  have evicts : move.Evicts table.rooms[roomId]? clientId := by
    by_contra stays
    obtain ⟨later, kept, -⟩ := moved.remains present stays
    rw [member?] at absent
    rw [memberOf, absent] at kept
    cases kept
  refine ⟨move, taken, arises, ?_, evicts⟩
  by_contra other
  rw [member?, moved.elsewhere other] at absent
  rw [member?, absent] at present
  cases present

end Dismissals

/-- In every run, whoever is not a member any more after a call was removed by
the authority, refused admission, away for the grace, or dismissed earlier and
let go by a worker. -/
theorem members_leave_for_reasons
    {reconnectGrace : Duration}
    {history : History}
    {table : RoomTable}
    (run : (RoomTable.machine reconnectGrace).Run history table)
    {call : Call}
    {roomId : RoomId}
    {clientId : ClientId}
    {member : Member}
    (present : table.member? roomId clientId = some member)
    (absent : (table.step call).member? roomId clientId = none) :
    Departure reconnectGrace history table call roomId clientId member := by
  have consistent := consistent_of_run run
  by_cases sweeps : call.Sweeps
  · unfold Call.Sweeps at sweeps
    split at sweeps
    · next now asked =>
        simp only [RoomTable.step, asked] at absent
        rcases consistent.timed_out present absent with relies | due
        · exact .relied now asked relies
        · obtain ⟨deadline, passed, waited⟩ := waited_of_due run present due
          exact .waited now deadline asked passed waited
    · next asked =>
        rw [consistent.member_registered asked, present] at absent
        cases absent
    · exact sweeps.elim
  obtain ⟨move, taken, arises, about, evicts⟩ :=
    consistent.evicted present absent sweeps
  generalize table.step call = after at taken
  cases taken with
  | removeFailed found inside noJoin noLeave failed =>
      obtain rfl := Option.some.inj about
      cases evicts
      simp only [member?, found, Option.bind_some] at present
      obtain ⟨authorityRequestId, promotion, asked, done⟩ :=
        removes_completes arises.2 found present (by simp [failed]) noJoin
          noLeave (by simp [failed])
      exact .removed authorityRequestId promotion asked done
  | removeDirect found inside noJoin noLeave direct =>
      obtain rfl := Option.some.inj about
      cases evicts
      simp only [member?, found, Option.bind_some] at present
      obtain ⟨authorityRequestId, promotion, asked, done⟩ :=
        removes_completes arises.2 found present (by simp [direct]) noJoin
          noLeave (by simp [direct])
      exact .removed authorityRequestId promotion asked done
  | completeLeave now outstanding found leaving =>
      obtain rfl := Option.some.inj about
      cases evicts
      obtain ⟨-, instanceId, pending, accepts⟩ := arises
      obtain rfl := accepts.recorded outstanding
      exact .left accepts (dismissed_of_run run outstanding)
  | refuseJoin reason outstanding found joining =>
      obtain rfl := Option.some.inj about
      obtain ⟨-, instanceId, pending, refuses⟩ := arises
      obtain rfl := refuses.recorded outstanding
      obtain ⟨room, join, there, waiting, rfl⟩ := evicts
      exact .refused there waiting rfl refuses
  | abortUpgrade reason outstanding found upgrading =>
      obtain rfl := Option.some.inj about
      obtain ⟨-, instanceId, pending, refuses⟩ := arises
      obtain rfl := refuses.recorded outstanding
      obtain ⟨room, upgrade, there, running, rfl⟩ := evicts
      exact .rolledBack there running rfl refuses
  | expireMembers =>
      obtain ⟨now, asked⟩ := arises
      simp [Call.Sweeps, asked] at sweeps
  | _ => exact evicts.elim

/-- The authority removes a member of an SFU room. -/
def dismissingOperations : List Operation :=
  forwardedOperations ++ [.remove 4 exampleRoomId 1 "first"]

theorem members_leave_for_reasons_left :
    ∃ member : Member, member.token = "first" ∧
      Departure 0 (RoomTable.played 0 dismissingOperations).1
        (RoomTable.played 0 dismissingOperations).2 ⟨left 4 1 2, .sorted⟩
        exampleRoomId 1 member := by
  have present : ((RoomTable.played 0 dismissingOperations).2.member?
      exampleRoomId 1).map (·.token) = some "first" := by
    decide +kernel
  have absent : (((RoomTable.played 0 dismissingOperations).2.step
      ⟨left 4 1 2, .sorted⟩).member? exampleRoomId 1).isNone = true := by
    decide +kernel
  obtain ⟨member, found, token⟩ := Option.map_eq_some_iff.1 present
  exact ⟨member, token, members_leave_for_reasons
    (RoomTable.played_run 0 dismissingOperations) found
    (Option.isNone_iff_eq_none.1 absent)⟩

end V2
end Signaling
