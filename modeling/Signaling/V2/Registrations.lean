import Signaling.V2.Memberships
import Signaling.V2.Debts
import Signaling.V2.Promotions
import Signaling.V2.Relay

/-!
# Who is registered

A member is registered by a registration of its own only, and keeps the token of
its admission for as long as it is a member. It stops being registered when it
deregisters, and when it is taken out of its room.
-/

namespace Signaling
namespace V2

open Std (ExtTreeMap ExtTreeSet)
open RoomTable

/-- What is stored for a member of a room that may be absent. -/
def memberOf (room : Option Room) (clientId : ClientId) : Option Member :=
  room.bind (·.members[clientId]?)

/-- The member is registered. -/
def RoomTable.Registered
    (table : RoomTable)
    (roomId : RoomId)
    (clientId : ClientId) : Prop :=
  ∃ member, table.member? roomId clientId = some member ∧
    member.registered = true

/-- The move ends the registration of the client in its room. -/
def Move.Departs
    (room : Option Room)
    (clientId : ClientId) : Move -> Prop
  | .dropWithLeave _ otherId | .dropWithGrace _ otherId
  | .removeFailed _ otherId | .removeDirect _ otherId
  | .completeLeave _ _ otherId => otherId = clientId
  | .refuseJoin _ _ | .expireRoom _ _ => ∃ stored join, room = some stored ∧
      stored.pendingJoin = some join ∧ join.clientId = clientId
  | .abortUpgrade _ _ => ∃ stored upgrade, room = some stored ∧
      stored.upgrade = some upgrade ∧ upgrade.joiningClientId = clientId
  | _ => False

/-- The move makes the client a member of the room. -/
def Move.Adds
    (move : Move)
    (roomId : RoomId)
    (clientId : ClientId) : Prop :=
  match move with
  | .create otherId otherClientId | .joinDirect otherId otherClientId
  | .beginUpgrade _ otherId otherClientId
  | .beginJoin _ otherId otherClientId =>
      otherId = roomId ∧ otherClientId = clientId
  | _ => False

/-- How a member came to be what it is after a move: it has its token from
before, is registered by a registration of its own only and is given a deadline
only when it is told to wait, or it is new. -/
def Continues
    (roomId : RoomId)
    (clientId : ClientId)
    (move : Move)
    (earlier : Option Member)
    (later : Member) : Prop :=
  (∃ member, earlier = some member ∧ later.token = member.token ∧
    (later.registered = true ->
      member.registered = true ∨ move = .register roomId clientId) ∧
    (later.reconnectDeadline = member.reconnectDeadline ∨
      later.reconnectDeadline = none ∨
      move = .dropWithGrace roomId clientId ∨
      move = .rearmGrace roomId clientId)) ∨
  (earlier = none ∧ later.registered = false ∧ move.Adds roomId clientId)

namespace Continues

variable
  {roomId : RoomId}
  {clientId otherId : ClientId}
  {move : Move}
  {members : ExtTreeMap ClientId Member}
  {member later : Member}

theorem of_same
    {earlier : Option Member}
    (before : earlier = some member)
    (token : later.token = member.token)
    (registered : later.registered = true -> member.registered = true)
    (deadline : later.reconnectDeadline = member.reconnectDeadline) :
    Continues roomId clientId move earlier later :=
  .inl ⟨member, before, token, fun holds => .inl (registered holds),
    .inl deadline⟩

/-- Other data of the member changes. -/
theorem changed
    {earlier : Option Member}
    (continues : Continues roomId clientId move earlier member)
    (token : later.token = member.token)
    (registered : later.registered = member.registered)
    (deadline : later.reconnectDeadline = member.reconnectDeadline) :
    Continues roomId clientId move earlier later := by
  unfold Continues
  rwa [token, registered, deadline]

/-- One member is replaced. -/
theorem of_insert
    {replaced : Member}
    (present : (members.insert otherId replaced)[clientId]? = some later)
    (found : members[otherId]? = some member)
    (token : replaced.token = member.token)
    (registered : replaced.registered = true -> member.registered = true)
    (deadline : replaced.reconnectDeadline = member.reconnectDeadline ∨
      move = .dropWithGrace roomId otherId) :
    Continues roomId clientId move members[clientId]? later := by
  rw [ExtTreeMap.getElem?_insert] at present
  split at present
  · next same =>
      cases compare_eq_iff_eq.1 same
      cases present
      exact .inl ⟨member, found, token, fun holds => .inl (registered holds),
        deadline.imp_right fun drops => .inr (.inl drops)⟩
  · exact .of_same present rfl id rfl

/-- One member is new. -/
theorem of_enrol
    {enrolled : Member}
    (present : (members.insert otherId enrolled)[clientId]? = some later)
    (fresh : members.contains otherId = false)
    (unregistered : enrolled.registered = false)
    (adds : move.Adds roomId otherId) :
    Continues roomId clientId move members[clientId]? later := by
  rw [ExtTreeMap.getElem?_insert] at present
  split at present
  · next same =>
      cases compare_eq_iff_eq.1 same
      cases present
      refine .inr ⟨?_, unregistered, adds⟩
      exact ExtTreeMap.getElem?_eq_none_of_contains_eq_false fresh
  · exact .of_same present rfl id rfl

/-- One member is dropped. -/
theorem of_erase
    (present : (members.erase otherId)[clientId]? = some later) :
    Continues roomId clientId move members[clientId]? later := by
  rw [ExtTreeMap.getElem?_erase] at present
  split at present
  · cases present
  · exact .of_same present rfl id rfl

end Continues

theorem memberOf_stored_le
    {room : Room}
    {clientId : ClientId}
    {member : Member}
    (present : memberOf room.stored clientId = some member) :
    room.members[clientId]? = some member := by
  unfold Room.stored at present
  split at present
  · cases present
  · exact present

/-- What is stored of a room with a member has that member. -/
theorem memberOf_stored
    {room : Room}
    {clientId : ClientId}
    {member : Member}
    (present : room.members[clientId]? = some member) :
    memberOf room.stored clientId = some member := by
  unfold Room.stored
  split
  · next empty =>
      rw [ExtTreeMap.isEmpty_iff.1 empty] at present
      simp at present
  · exact present

/-- Every member of a room after a move was one before or is new. -/
theorem RoomMoved.continues
    {roomId : RoomId}
    {move : Move}
    {before after : Option Room}
    {clientId : ClientId}
    {later : Member}
    (moved : RoomMoved roomId move before after)
    (present : memberOf after clientId = some later) :
    Continues roomId clientId move (memberOf before clientId) later := by
  cases moved with
  | kept => exact .of_same present rfl id rfl
  | create otherId now grace token lifecycleId =>
      simp only [memberOf, Room.create, Option.bind_some,
        ExtTreeMap.getElem?_insert] at present
      split at present
      · next same =>
          cases compare_eq_iff_eq.1 same
          cases present
          exact .inr ⟨rfl, rfl, rfl, rfl⟩
      · simp at present
  | joinDirect now grace token lifecycleId fresh
  | beginJoin now grace token lifecycleId fresh =>
      exact .of_enrol present fresh rfl ⟨rfl, rfl⟩
  | beginUpgrade now grace token lifecycleId lifecycle instanceId fresh =>
      simp only [memberOf, Room.startUpgrade, Room.relive, Room.insertMember,
        Option.bind_some, ExtTreeMap.getElem?_map,
        Option.map_eq_some_iff] at present
      obtain ⟨former, found, rfl⟩ := present
      refine Continues.changed (.of_enrol found fresh rfl ?_) rfl rfl rfl
      exact ⟨rfl, rfl⟩
  | register settled found unregistered =>
      rename_i room otherId member
      simp only [memberOf, Option.bind_some, Room.registerMember_members]
        at present
      split at present
      · next same =>
          subst same
          cases present
          exact .inl ⟨member, found, rfl, fun _ => .inr rfl, .inr (.inl rfl)⟩
      · split at present
        · obtain ⟨former, listed, rfl⟩ := Option.map_eq_some_iff.1 present
          exact .of_same listed rfl id rfl
        · exact .of_same present rfl id rfl
  | dropWithLeave found =>
      exact .of_insert present found rfl (by simp) (.inl rfl)
  | dropWithGrace deadline found =>
      exact .of_insert present found rfl (by simp) (.inr rfl)
  | queueMessage found =>
      exact .of_insert present found rfl id (.inl rfl)
  | requestLeave | retryLeave | completeJoin | clearDeadline | refuseLeave
  | reportFailure | refuseSync | advanceUpgrade =>
      exact .of_same present rfl id rfl
  | removeFailed found noJoin noLeave failed =>
      exact .of_erase (memberOf_stored_le present)
  | removeDirect found noJoin noLeave direct =>
      obtain ⟨former, listed, rfl | rfl⟩ := Room.promoteSurvivor_members _ _
        (memberOf_stored_le present)
      · exact .of_erase listed
      · exact (Continues.of_erase listed).changed rfl rfl rfl
  | expireMembers now direct =>
      obtain ⟨former, listed, -, rfl | rfl⟩ := Room.expireMembers_members _ _
        (memberOf_stored_le present)
      · exact .of_same listed rfl id rfl
      · exact .of_same listed rfl id rfl
  | commitUpgrade requestId upgrading finished =>
      simp only [memberOf, Room.commitSfu, Room.advanceUpgrade,
        Option.bind_some, ExtTreeMap.getElem?_map,
        Option.map_eq_some_iff] at present
      obtain ⟨former, listed, rfl⟩ := present
      exact .of_same listed rfl id rfl
  | abortUpgrade | expireUpgrade | refuseJoin =>
      exact .of_erase present
  | completeLeave requestId deadline leaving armed =>
      exact .of_erase (memberOf_stored_le present)
  | expireRoom instanceId settled =>
      simp only [memberOf, Room.fail, Option.bind_some] at present
      split at present
      · exact .of_same present rfl id rfl
      · exact .of_erase present
  | downgrade forwarded small noJoin noLeave clients =>
      simp only [memberOf, Room.commitP2p, Option.bind_some,
        ExtTreeMap.getElem?_map, Option.map_eq_some_iff] at present
      obtain ⟨former, listed, rfl⟩ := present
      exact .of_same listed rfl id rfl
  | rearmGrace deadline found unregistered forwarded =>
      rename_i room otherId member
      simp only [memberOf, Room.modifyMember, Option.bind_some,
        ExtTreeMap.getElem?_modify] at present
      split at present
      · next same =>
          cases compare_eq_iff_eq.1 same
          obtain ⟨former, listed, rfl⟩ := Option.map_eq_some_iff.1 present
          exact .inl ⟨former, listed, rfl, .inl, .inr (.inr (.inr rfl))⟩
      · exact .of_same present rfl id rfl

/-- The promotion of a survivor registers and deregisters nobody. -/
theorem Room.promoteSurvivor_registered
    {room : Room}
    {clientId : ClientId}
    {member : Member}
    (roomId : RoomId)
    (present : room.members[clientId]? = some member) :
    ∃ later, (promoteSurvivor roomId room).2.members[clientId]? = some later ∧
      later.registered = member.registered := by
  rw [promoteSurvivor_eq]
  split
  · refine ⟨{ member with isInitiator := true, queuedMessages := [] }, ?_, rfl⟩
    simp [promoteOnly, present]
  · exact ⟨member, present, rfl⟩

/-- A member whose deadline is not due outlives the expiry of others. -/
theorem Room.expireMembers_registered
    {room : Room}
    {clientId : ClientId}
    {member : Member}
    (roomId : RoomId)
    (now : Instant)
    (present : room.members[clientId]? = some member)
    (undue : isDue member.reconnectDeadline now = false) :
    ∃ later,
      (room.expireMembers roomId now).2.members[clientId]? = some later ∧
        later.registered = member.registered := by
  have spared : clientId ∉ room.expiredClients now := by
    simp [expiredClients, present, undue]
  have kept : (room.eraseMembers (room.expiredClients now)).members[clientId]? =
      some member := by
    rw [eraseMembers_members, if_neg spared, present]
  unfold expireMembers
  dsimp only
  split
  · exact ⟨member, kept, rfl⟩
  · exact promoteSurvivor_registered roomId kept

/-- The move takes the member out of its room. -/
def Move.Evicts
    (room : Option Room)
    (clientId : ClientId) : Move -> Prop
  | .removeFailed _ otherId | .removeDirect _ otherId
  | .completeLeave _ _ otherId => otherId = clientId
  | .refuseJoin _ _ => ∃ stored join, room = some stored ∧
      stored.pendingJoin = some join ∧ join.clientId = clientId
  | .abortUpgrade _ _ => ∃ stored upgrade, room = some stored ∧
      stored.upgrade = some upgrade ∧ upgrade.joiningClientId = clientId
  | .expireRoom _ _ =>
      (∃ stored join, room = some stored ∧
        stored.pendingJoin = some join ∧ join.clientId = clientId) ∨
      ∃ stored upgrade, room = some stored ∧ stored.mode = .upgrading ∧
        stored.upgrade = some upgrade ∧ upgrade.joiningClientId = clientId
  | .expireMembers _ => ∃ stored member, room = some stored ∧
      stored.members[clientId]? = some member ∧
      member.reconnectDeadline ≠ none
  | _ => False

/-- A member remains one in every move but those that take it out, and stays
registered unless it deregisters. -/
theorem RoomMoved.remains
    {roomId : RoomId}
    {move : Move}
    {before after : Option Room}
    {clientId : ClientId}
    {earlier : Member}
    (moved : RoomMoved roomId move before after)
    (present : memberOf before clientId = some earlier)
    (stays : ¬move.Evicts before clientId) :
    ∃ later, memberOf after clientId = some later ∧
      (earlier.registered = true -> later.registered = true ∨
        move = .dropWithLeave roomId clientId ∨
        move = .dropWithGrace roomId clientId) := by
  have spared {members : ExtTreeMap ClientId Member} {otherId : ClientId}
      (listed : members[clientId]? = some earlier)
      (other : otherId ≠ clientId) :
      (members.erase otherId)[clientId]? = some earlier := by
    grind
  cases moved with
  | kept => exact ⟨earlier, present, .inl⟩
  | create => cases present
  | joinDirect now grace token lifecycleId fresh
  | beginJoin now grace token lifecycleId fresh =>
      refine ⟨earlier, ?_, .inl⟩
      simp only [memberOf, Option.bind_some] at present ⊢
      grind [Room.insertMember]
  | beginUpgrade now grace token lifecycleId lifecycle instanceId fresh =>
      refine ⟨{ earlier with lifecycleId := lifecycle clientId }, ?_, .inl⟩
      simp only [memberOf, Option.bind_some, Room.startUpgrade, Room.relive,
        ExtTreeMap.getElem?_map, Option.map_eq_some_iff] at present ⊢
      exact ⟨earlier, by grind [Room.insertMember], rfl⟩
  | register settled found unregistered =>
      simp only [memberOf, Option.bind_some] at present ⊢
      rw [Room.registerMember_members]
      grind
  | dropWithLeave found | dropWithGrace deadline found =>
      simp only [memberOf, Option.bind_some, Room.insertMember] at present ⊢
      grind
  | queueMessage found =>
      simp only [memberOf, Option.bind_some, Room.insertMember] at present ⊢
      grind
  | requestLeave | retryLeave | completeJoin | clearDeadline | refuseLeave
  | reportFailure | refuseSync | advanceUpgrade =>
      exact ⟨earlier, present, .inl⟩
  | removeFailed found noJoin noLeave failed =>
      exact ⟨earlier, memberOf_stored (spared present stays), .inl⟩
  | removeDirect found noJoin noLeave direct =>
      rename_i room otherId member
      obtain ⟨later, kept, same⟩ := Room.promoteSurvivor_registered roomId
        (show (room.eraseMember otherId).members[clientId]? = some earlier from
          spared present stays)
      exact ⟨later, memberOf_stored kept, fun holds => .inl (same.trans holds)⟩
  | expireMembers now direct =>
      rename_i room
      have settled : earlier.reconnectDeadline = none := by
        by_contra waiting
        exact stays ⟨room, earlier, rfl, present, waiting⟩
      obtain ⟨later, kept, same⟩ := Room.expireMembers_registered roomId now
        present (by simp [settled, isDue])
      exact ⟨later, memberOf_stored kept, fun holds => .inl (same.trans holds)⟩
  | commitUpgrade requestId upgrading finished =>
      refine ⟨{ earlier with queuedMessages := [], isInitiator := false }, ?_,
        .inl⟩
      simp only [memberOf, Option.bind_some] at present
      simp [memberOf, Room.commitSfu, Room.advanceUpgrade, present]
  | abortUpgrade requestId upgrading =>
      rename_i room upgrade
      refine ⟨earlier, spared present fun same => ?_, .inl⟩
      exact stays ⟨room, upgrade, rfl, upgrading, same⟩
  | expireUpgrade instanceId upgrading running =>
      rename_i room upgrade
      refine ⟨earlier, spared present fun same => ?_, .inl⟩
      exact stays (.inr ⟨room, upgrade, rfl, upgrading, running, same⟩)
  | refuseJoin requestId joining =>
      rename_i room join
      refine ⟨earlier, spared present fun same => ?_, .inl⟩
      exact stays ⟨room, join, rfl, joining, same⟩
  | completeLeave requestId deadline leaving armed =>
      exact ⟨earlier, memberOf_stored (spared present stays), .inl⟩
  | expireRoom instanceId settled =>
      rename_i room
      refine ⟨earlier, ?_, .inl⟩
      simp only [memberOf, Room.fail, Option.bind_some]
      cases joining : room.pendingJoin with
      | none => exact present
      | some join =>
          refine spared present fun same => ?_
          exact stays (.inl ⟨room, join, rfl, joining, same⟩)
  | downgrade forwarded small noJoin noLeave clients =>
      rename_i room initiatorClientId others
      refine ⟨{ earlier with
        isInitiator := decide (clientId = initiatorClientId)
        queuedMessages := [] }, ?_, .inl⟩
      simp only [memberOf, Option.bind_some] at present
      simp [memberOf, Room.commitP2p, present]
  | rearmGrace deadline found unregistered forwarded =>
      rename_i room otherId member
      simp only [memberOf, Room.modifyMember, Option.bind_some,
        ExtTreeMap.getElem?_modify] at present ⊢
      split
      · next same =>
          cases compare_eq_iff_eq.1 same
          rw [present]
          exact ⟨_, rfl, .inl⟩
      · exact ⟨earlier, present, .inl⟩

/-- A registered member stays registered in every move but those that end its
registration. -/
theorem RoomMoved.stays
    {roomId : RoomId}
    {move : Move}
    {before after : Option Room}
    {clientId : ClientId}
    {earlier : Member}
    (moved : RoomMoved roomId move before after)
    (wellFormed : ∀ room, before = some room -> room.WellFormed)
    (present : memberOf before clientId = some earlier)
    (registered : earlier.registered = true)
    (stays : ¬move.Departs before clientId) :
    ∃ later, memberOf after clientId = some later ∧
      later.registered = true := by
  have remains : ¬move.Evicts before clientId := by
    intro evicts
    cases move with
    | removeFailed | removeDirect | completeLeave | refuseJoin
    | abortUpgrade => exact stays evicts
    | expireRoom =>
        rcases evicts with joins | ⟨room, upgrade, rfl, upgrading, running, same⟩
        · exact stays joins
        · obtain ⟨other, flying, -, joining⟩ :=
            (wellFormed _ rfl).upgrading upgrading
          obtain rfl := Option.some.inj (running.symm.trans flying)
          subst same
          rw [joining earlier present] at registered
          cases registered
    | expireMembers =>
        obtain ⟨room, member, rfl, inside, waiting⟩ := evicts
        obtain rfl := Option.some.inj (present.symm.trans inside)
        exact waiting
          ((wellFormed _ rfl).waiting clientId earlier inside registered)
    | _ => exact evicts
  obtain ⟨later, kept, lasts⟩ := moved.remains present remains
  rcases lasts registered with holds | rfl | rfl
  · exact ⟨later, kept, holds⟩
  · exact absurd rfl stays
  · exact absurd rfl stays

/-- A join that is pending after a move has been so before, or the move asks for
it. -/
theorem RoomMoved.pendingJoin_kept
    {roomId : RoomId}
    {move : Move}
    {before : Option Room}
    {after : Room}
    {join : PendingJoin}
    (moved : RoomMoved roomId move before (some after))
    (waiting : after.pendingJoin = some join) :
    (∃ former, before = some former ∧ former.pendingJoin = some join) ∨
      ∃ authorityRequestId clientId,
        move = .beginJoin authorityRequestId roomId clientId := by
  generalize becomes : some after = result at moved
  cases moved with
  | kept =>
      cases becomes
      exact .inl ⟨after, rfl, waiting⟩
  | create | completeJoin | refuseJoin | expireRoom =>
      cases becomes
      cases waiting
  | beginJoin => exact .inr ⟨_, _, rfl⟩
  | register =>
      cases becomes
      exact .inl ⟨_, rfl, by simpa using waiting⟩
  | removeFailed | completeLeave =>
      obtain rfl := Room.eq_of_stored becomes.symm
      exact .inl ⟨_, rfl, waiting⟩
  | removeDirect | expireMembers =>
      obtain rfl := Room.eq_of_stored becomes.symm
      exact .inl ⟨_, rfl, by simpa using waiting⟩
  | _ =>
      cases becomes
      exact .inl ⟨_, rfl, waiting⟩

/-! ## Removals that a worker confirms -/

/-- The action reports that a worker has confirmed the removal of the client. -/
def Action.Removes
    (roomId : RoomId)
    (clientId : ClientId) : Action -> Prop
  | .removalCompleted _ subject leaver (.ok _) =>
      subject = roomId ∧ leaver = clientId
  | _ => False

theorem Action.Plain.removes
    {action : Action}
    {roomId : RoomId}
    {clientId : ClientId}
    (plain : action.Plain) :
    ¬action.Removes roomId clientId := by
  cases action with
  | removalCompleted => exact plain.elim
  | _ => exact id

/-- The action tells the authority that a worker has done what it asked for. -/
def Action.Grants : Action -> Prop
  | .admissionCompleted _ (.ok _) | .removalCompleted _ _ _ (.ok _) => True
  | _ => False

theorem Action.Removes.grants
    {action : Action}
    {roomId : RoomId}
    {clientId : ClientId}
    (removes : action.Removes roomId clientId) :
    action.Grants := by
  unfold Removes at removes
  split at removes
  · trivial
  · exact removes.elim

/-- Only an answer that a worker confirms grants anything. -/
theorem Emission.grants
    {table middle : RoomTable}
    {call : Call}
    {move : Move}
    {action : Action}
    (emission : Emission middle move action)
    (arises : Arises table call middle move)
    (grants : action.Grants) :
    ∃ instanceId requestId pending,
      call.Accepts table instanceId requestId pending := by
  cases emission with
  | plain plain =>
      cases action with
      | admissionCompleted | removalCompleted => exact plain.elim
      | _ => exact grants.elim
  | forwarded | joined | left =>
      obtain ⟨-, instanceId, pending, accepts⟩ := arises
      exact ⟨instanceId, _, pending, accepts⟩
  | _ => exact grants.elim

/-- Only the completion of a leave reports a removal, and of its own client. -/
theorem Emission.removes
    {table : RoomTable}
    {move : Move}
    {action : Action}
    {roomId : RoomId}
    {clientId : ClientId}
    (emission : Emission table move action)
    (removes : action.Removes roomId clientId) :
    ∃ requestId, move = .completeLeave requestId roomId clientId := by
  cases emission with
  | plain plain => exact absurd removes plain.removes
  | left =>
      obtain ⟨rfl, rfl⟩ := removes
      exact ⟨_, rfl⟩
  | _ => exact removes.elim

/-- A worker's answer, or the end of a worker, takes the member out of its room
without a request of the authority to remove it. -/
inductive Call.Expels
    (call : Call)
    (table : RoomTable)
    (roomId : RoomId)
    (clientId : ClientId) : Prop
  | join
      {room : Room} {join : PendingJoin}
      (found : table.rooms[roomId]? = some room)
      (joining : room.pendingJoin = some join)
      (same : join.clientId = clientId)
      (ends : (∃ instanceId requestId expected joiner lifecycleId
          assignmentEpoch,
          call.Refuses table instanceId requestId
            (.sfuJoin expected roomId joiner lifecycleId assignmentEpoch)) ∨
        ∃ now instanceId, call.operation = .handleTimeout now ∧
          table.Expires now instanceId ∧ table.Lists instanceId roomId)
  | upgrade
      {room : Room} {upgrade : Upgrade} {instanceId expected : InstanceId}
      {requestId lifecycleId assignmentEpoch : Nat} {joiner : ClientId}
      (found : table.rooms[roomId]? = some room)
      (upgrading : room.upgrade = some upgrade)
      (same : upgrade.joiningClientId = clientId)
      (refuses : call.Refuses table instanceId requestId
        (.upgradeJoin expected roomId joiner lifecycleId assignmentEpoch))
  | leave
      {room : Room} {leave : PendingLeave} {instanceId expected : InstanceId}
      {requestId lifecycleId assignmentEpoch : Nat}
      (found : table.rooms[roomId]? = some room)
      (leaving : room.pendingLeave = some leave)
      (unasked : leave.authorityRequestId = none)
      (accepts : call.Accepts table instanceId requestId
        (.sfuLeave expected roomId clientId lifecycleId assignmentEpoch))

/-- Only inputs of workers and the clock expel anybody. -/
theorem Call.Expels.inputs
    {call : Call}
    {table : RoomTable}
    {roomId : RoomId}
    {clientId : ClientId}
    (expels : call.Expels table roomId clientId) :
    (∃ input, call.operation = .handleSfuInput input) ∨
      ∃ now, call.operation = .handleTimeout now := by
  cases expels with
  | join _ _ _ ends =>
      obtain ⟨_, _, _, _, _, _, _, ⟨_, _, asked, -⟩, -⟩ | ⟨now, _, asked, -⟩ :=
        ends
      · exact .inl ⟨_, asked⟩
      · exact .inr ⟨now, asked⟩
  | upgrade _ _ _ refuses =>
      obtain ⟨_, ⟨_, _, asked, -⟩, -⟩ := refuses
      exact .inl ⟨_, asked⟩
  | leave _ _ _ accepts =>
      obtain ⟨_, ⟨_, _, asked, -⟩, -⟩ := accepts
      exact .inl ⟨_, asked⟩

/-! ## Calls -/

namespace RoomTable

variable
  {table : RoomTable}
  {roomId : RoomId}
  {clientId : ClientId}

/-- Whoever is registered after a call was so before, with the same token, or is
registered by it. -/
theorem Consistent.registered_before
    {call : Call}
    {member : Member}
    (consistent : table.Consistent)
    (present : (table.step call).member? roomId clientId = some member)
    (registered : member.registered = true) :
    (∃ former, table.member? roomId clientId = some former ∧
      former.registered = true ∧ member.token = former.token) ∨
      call.Registers table roomId clientId := by
  refine consistent.step_invariant
    (fun _ middle => ∀ member,
      middle.member? roomId clientId = some member ->
      member.registered = true ->
      (∃ former, table.member? roomId clientId = some former ∧
        former.registered = true ∧ member.token = former.token) ∨
        call.Registers table roomId clientId)
    (fun phase middle move phase' next taken arises shape earlier member
      present registered => ?_)
    (fun member present registered =>
      .inl ⟨member, present, registered, rfl⟩) member present registered
  rcases (taken.room shape.wellFormed roomId).continues present with
    ⟨former, before, same, since, -⟩ | ⟨-, unregistered, -⟩
  · rcases since registered with was | rfl
    · rw [same]
      exact earlier former before was
    · exact .inr arises.2
  · rw [unregistered] at registered
    cases registered

/-- The differences of two byte strings add up to nothing when the strings are
the same. -/
theorem foldl_difference_eq_zero
    (difference : UInt8)
    (pairs : List (UInt8 × UInt8)) :
    pairs.foldl (fun difference pair => difference ||| (pair.1 ^^^ pair.2))
        difference = 0 ↔
      difference = 0 ∧ ∀ pair ∈ pairs, pair.1 = pair.2 := by
  induction pairs generalizing difference with
  | nil => simp
  | cons pair pairs inductionHypothesis =>
      rw [List.foldl_cons, inductionHypothesis, List.forall_mem_cons,
        UInt8.or_eq_zero_iff, UInt8.xor_eq_zero_iff, and_assoc]

/-- The comparison without an early exit decides equality. -/
theorem constantTimeEq_iff
    (left right : List UInt8) :
    constantTimeEq left right = true ↔ left = right := by
  unfold constantTimeEq
  split
  · next differ =>
      simp only [Bool.false_eq_true, false_iff]
      rintro rfl
      exact differ rfl
  · next same =>
      rw [beq_iff_eq, foldl_difference_eq_zero]
      constructor
      · rintro ⟨-, agree⟩
        refine List.ext_getElem (not_not.1 same) fun index inLeft inRight => ?_
        exact agree (left[index], right[index])
          (List.mem_iff_getElem.2 ⟨index, by simp [inLeft, inRight], by simp⟩)
      · rintro rfl
        refine ⟨rfl, fun pair listed => ?_⟩
        obtain ⟨index, bound, rfl⟩ := List.mem_iff_getElem.1 listed
        simp

theorem tokenBytes_injective : Function.Injective tokenBytes := by
  intro left right same
  simp only [tokenBytes, String.toUTF8_eq_toByteArray] at same
  exact String.toByteArray_inj.1 (ByteArray.ext (Array.toList_inj.1 same))

/-- Whoever has been registered by a call is registered after it, and has the
token that was given. -/
theorem register_registered
    {order : VisitOrder}
    {token : String}
    {registration : Registration}
    {after : RoomTable}
    (registered : table.register order roomId clientId token =
      (.ok registration, after)) :
    ∃ member, after.member? roomId clientId = some member ∧
      member.registered = true ∧ member.token = token := by
  unfold register at registered
  split at registered
  · cases registered
  next room found =>
  split at registered
  · cases registered
  split at registered
  · cases registered
  next member present =>
  split at registered
  · cases registered
  next known =>
  split at registered
  · cases registered
  simp only [Prod.mk.injEq] at registered
  rw [← registered.2]
  refine ⟨{ member with registered := true, reconnectDeadline := none }, ?_,
    rfl, ?_⟩
  · simp [member?, Room.registerMember_members]
  · exact tokenBytes_injective ((constantTimeEq_iff _ _).1 (by simpa using known))

/-- Nobody is registered twice. -/
theorem register_unregistered
    {order : VisitOrder}
    {token : String}
    {registration : Registration}
    {after : RoomTable}
    (registered : table.register order roomId clientId token =
      (.ok registration, after)) :
    ¬table.Registered roomId clientId := by
  rintro ⟨member, present, already⟩
  unfold register at registered
  split at registered
  · cases registered
  next room found =>
  split at registered
  · cases registered
  split at registered
  · cases registered
  next other there =>
  simp only [member?, found, Option.bind_some, there, Option.some.injEq]
    at present
  subst present
  split at registered
  · cases registered
  · simp at registered

theorem issueSfuLeave_member?
    (table : RoomTable)
    (roomId otherId : RoomId)
    (clientId otherClientId : ClientId)
    (reason : Sfu.LeaveReason) :
    (table.issueSfuLeave roomId clientId reason).2.member? otherId
      otherClientId = table.member? otherId otherClientId := by
  rcases issueSfuLeave_cases table roomId clientId reason with kept |
    ⟨room, member, instanceId, connectionId, found, -, -, -, -, -, issued⟩
  · rw [kept]
  · rw [issued]
    simp only [member?, issueCommand_rooms, setRoom_rooms]
    grind

/-- A member that is registered loses that when it deregisters, and waits for
the grace unless its worker is asked at once to let it leave. -/
theorem deregister_member?
    {now : Instant}
    {member : Member}
    (present : (table.deregister now roomId clientId).member? roomId clientId =
      some member) :
    ∃ former, table.member? roomId clientId = some former ∧
      (former.registered = false ∧ member = former ∨
        former.registered = true ∧
          (member = { former with registered := false } ∨
            member = { former with
              registered := false
              reconnectDeadline := some (now + table.reconnectGrace) })) := by
  unfold deregister at present
  cases found : table.rooms[roomId]? with
  | none => simp [found, member?] at present
  | some room =>
  cases listed : room.members[clientId]? with
  | none => simp [found, listed, member?] at present
  | some former =>
  have there : table.member? roomId clientId = some former := by
    simp [member?, found, listed]
  refine ⟨former, there, ?_⟩
  simp only [found, listed] at present
  split at present
  · next unregistered =>
      rw [there] at present
      simp only [Bool.not_eq_true'] at unregistered
      exact .inl ⟨unregistered, (Option.some.inj present).symm⟩
  next registered =>
  simp only [Bool.not_eq_true', Bool.not_eq_false] at registered
  refine .inr ⟨registered, ?_⟩
  generalize middle : table.setRoom roomId (room.insertMember clientId
    { former with registered := false }) = dropped at present
  have base : dropped.member? roomId clientId =
      some { former with registered := false } := by
    simp [← middle, member?]
  have grace : dropped.reconnectGrace = table.reconnectGrace := by
    simp [← middle]
  have issued := issueSfuLeave_member? dropped roomId roomId clientId clientId
    .disconnected
  have steady : (dropped.issueSfuLeave roomId clientId
      .disconnected).2.reconnectGrace = dropped.reconnectGrace := by
    rcases issueSfuLeave_cases dropped roomId clientId .disconnected with kept |
      ⟨_, _, _, _, -, -, -, -, -, -, left⟩
    · rw [kept]
    · rw [left]
      rfl
  rcases outcome : (if decide (room.mode = .sfu) = true then
    dropped.issueSfuLeave roomId clientId .disconnected
    else (false, dropped)) with ⟨left, after⟩
  have same : after.member? roomId clientId =
      some { former with registered := false } ∧
      after.reconnectGrace = table.reconnectGrace := by
    split at outcome
    · rw [outcome] at issued steady
      exact ⟨issued.trans base, steady.trans grace⟩
    · cases outcome
      exact ⟨base, grace⟩
  rw [outcome] at present
  cases left with
  | true =>
      cases same.1.symm.trans present
      exact .inl rfl
  | false =>
      obtain ⟨kept, here, inside⟩ := Option.bind_eq_some_iff.1 same.1
      simp only [member?, ExtTreeMap.getElem?_modify_self, here,
        Option.map_some, Option.bind_some, Room.modifyMember, inside,
        Bool.false_eq_true, if_false, Option.some.injEq] at present
      rw [same.2] at present
      exact .inr present.symm

/-- Nobody is registered after its deregistration. -/
theorem deregister_unregistered (now : Instant) :
    ¬(table.deregister now roomId clientId).Registered roomId clientId := by
  rintro ⟨member, present, registered⟩
  obtain ⟨former, -, ⟨unregistered, rfl⟩ | ⟨-, rfl | rfl⟩⟩ :=
    deregister_member? present
  · simp [unregistered] at registered
  · cases registered
  · cases registered

/-- A member that is removed at once is gone. -/
theorem remove_absent
    {authorityRequestId : Nat}
    {token : String}
    {promotion : Option Promotion}
    {after : RoomTable}
    (removed : table.remove authorityRequestId roomId clientId token =
      (.ok (.complete promotion), after)) :
    after.member? roomId clientId = none := by
  have gone (room : Room) (erased : room.members[clientId]? = none) :
      (table.setOrDropRoom roomId room).member? roomId clientId = none := by
    rw [member?, setOrDropRoom_getElem?]
    split
    · rfl
    · exact erased
  unfold remove at removed
  split at removed
  · cases removed
  split at removed
  · cases removed
  split at removed
  · cases removed
  split at removed
  · cases removed
  split at removed
  · split at removed
    · cases removed
    · split at removed <;> cases removed
  · cases removed
    exact gone _ (by simp)
  · simp only [Prod.mk.injEq] at removed
    rw [← removed.2]
    refine gone _ ?_
    rw [← Option.not_isSome_iff_eq_none, Room.promoteSurvivor_isSome]
    simp

/-- A message that is handed over at once goes to another, registered member of
the same room. -/
theorem send_delivers
    {order : VisitOrder}
    {signalEpoch : Nat}
    {message : String}
    {delivery : Delivery}
    (sent : (table.send order roomId clientId signalEpoch message).1 =
      .ok (.p2p (some delivery))) :
    delivery.roomId = roomId ∧ delivery.message = message ∧
      delivery.clientId ≠ clientId ∧
      table.Registered roomId delivery.clientId := by
  unfold send at sent
  split at sent
  · cases sent
  next room found =>
  split at sent
  · cases sent
  split at sent
  · cases sent
  split at sent
  · split at sent
    · cases sent
    · split at sent <;> cases sent
  simp only at sent
  split at sent
  · next peerId chosen =>
      cases sent
      obtain ⟨peer, registered⟩ := Option.filter_eq_some_iff.1 chosen
      obtain ⟨member, present, holds⟩ := Option.any_eq_true _ _ |>.1 registered
      refine ⟨rfl, rfl, by simpa using List.find?_some peer, member, ?_, holds⟩
      simp [member?, found, present]
  · split at sent <;> cases sent

/-- Every action of a call is emitted by one of its moves. -/
theorem Consistent.emission
    {call : Call}
    {action : Action}
    (consistent : table.Consistent)
    (appends : call.operation ≠ .pollAction)
    (listed : action ∈ table.emitted call) :
    ∃ middle move, Arises table call middle move ∧
      Emission middle move action :=
  consistent.emitted_invariant
    (fun _ _ actions => ∀ action ∈ actions, ∃ middle move,
      Arises table call middle move ∧ Emission middle move action) appends
    (fun phase middle earlier move phase' next actions taken arises shape emits
      before action inside => by
      rcases List.mem_append.1 inside with old | new
      · exact before action old
      · exact ⟨middle, move, arises, emits.emission new⟩)
    (by simp) action listed

/-- A call that does not sweep emits by the one move that it makes. -/
theorem Consistent.emission_direct
    {call : Call}
    {action : Action}
    (consistent : table.Consistent)
    (appends : call.operation ≠ .pollAction)
    (single : ¬call.Sweeps)
    (listed : action ∈ table.emitted call) :
    ∃ move, Moved none table move none (table.step call) ∧
      Arises table call table move ∧ Emission table move action := by
  rcases step_direct table call single with same | ⟨move, taken, arises⟩
  · rw [emitted_of_append appends (by rw [same, List.append_nil])] at listed
    cases listed
  obtain ⟨actions, appended, emits⟩ := taken.emits consistent.wellFormed (by
    rintro rfl
    exact appends arises.2)
  rw [emitted_of_append appends appended] at listed
  exact ⟨move, taken, arises, emits.emission listed⟩

/-- A call that answers a recorded command does not sweep. -/
theorem answers_single
    {call : Call}
    {instanceId : InstanceId}
    {requestId : Nat}
    {pending : PendingCommand}
    (accepts : call.Accepts table instanceId requestId pending) :
    ¬call.Sweeps := by
  obtain ⟨_, ⟨_, _, asked, -⟩, -⟩ := accepts
  simp [Call.Sweeps, asked]

theorem Consistent.grants_single
    {call : Call}
    {action : Action}
    (consistent : table.Consistent)
    (appends : call.operation ≠ .pollAction)
    (listed : action ∈ table.emitted call)
    (grants : action.Grants) :
    ¬call.Sweeps := by
  obtain ⟨middle, move, arises, emission⟩ := consistent.emission appends listed
  obtain ⟨_, _, _, accepts⟩ := emission.grants arises grants
  exact answers_single accepts

/-- A removal is reported when a worker confirms the leave of the client, who is
no member any more then. -/
theorem Consistent.removes_absent
    {call : Call}
    {action : Action}
    (consistent : table.Consistent)
    (appends : call.operation ≠ .pollAction)
    (listed : action ∈ table.emitted call)
    (removes : action.Removes roomId clientId) :
    (table.step call).member? roomId clientId = none ∧
      ∃ instanceId requestId expected lifecycleId assignmentEpoch,
        call.Accepts table instanceId requestId
          (.sfuLeave expected roomId clientId lifecycleId
            assignmentEpoch) := by
  have single := consistent.grants_single appends listed removes.grants
  obtain ⟨move, taken, arises, emission⟩ :=
    consistent.emission_direct appends single listed
  obtain ⟨requestId, rfl⟩ := emission.removes removes
  obtain ⟨-, instanceId, pending, accepts⟩ := arises
  have moved := taken.room consistent.wellFormed roomId
  constructor
  · rw [← Option.not_isSome_iff_eq_none, Option.isSome_iff_exists]
    rintro ⟨member, present⟩
    have there : memberOf (table.step call).rooms[roomId]? clientId =
        some member := present
    generalize table.rooms[roomId]? = before at moved
    generalize (table.step call).rooms[roomId]? = after at moved there
    cases moved with
    | kept elsewhere =>
        obtain rfl := elsewhere.resolve_left (by simp [Move.room?])
        cases there
    | completeLeave =>
        have erased := memberOf_stored_le there
        simp [Room.afterLeave] at erased
  · generalize table.step call = after at taken
    cases taken with
    | completeLeave now outstanding =>
        obtain rfl := accepts.recorded outstanding
        exact ⟨_, _, _, _, _, accepts⟩

/-- A removal from a settled room that is not forwarded shows the member's token
and takes effect at once. -/
theorem removes_completes
    {call : Call}
    {room : Room}
    {member : Member}
    (removes : call.Removes table roomId clientId)
    (found : table.rooms[roomId]? = some room)
    (present : room.members[clientId]? = some member)
    (settled : room.mode ≠ .upgrading)
    (noJoin : room.pendingJoin = none)
    (noLeave : room.pendingLeave = none)
    (direct : room.mode ≠ .sfu) :
    ∃ authorityRequestId promotion,
      call.operation =
        .remove authorityRequestId roomId clientId member.token ∧
      (table.remove authorityRequestId roomId clientId member.token).1 =
        .ok (.complete promotion) := by
  obtain ⟨authorityRequestId, token, other, asked, there, authentic⟩ := removes
  simp only [member?, found, Option.bind_some, present,
    Option.some.injEq] at there
  subst there
  obtain rfl := tokenBytes_injective ((constantTimeEq_iff _ _).1 authentic)
  have outcome : ∃ promotion, (table.remove authorityRequestId roomId clientId
      member.token).1 = .ok (.complete promotion) := by
    unfold RoomTable.remove
    cases mode : room.mode with
    | upgrading => exact absurd mode settled
    | sfu => exact absurd mode direct
    | p2p | failed => simp [found, present, authentic, mode, noJoin, noLeave]
  obtain ⟨promotion, done⟩ := outcome
  exact ⟨authorityRequestId, promotion, asked, done⟩

/-- A removal of the client that takes effect at once. -/
def Ends (table : RoomTable) (call : Call) (roomId : RoomId)
    (clientId : ClientId) : Prop :=
  (∃ now, call.operation = .deregister now roomId clientId) ∨
  ∃ authorityRequestId token promotion,
    call.operation = .remove authorityRequestId roomId clientId token ∧
    (table.remove authorityRequestId roomId clientId token).1 =
      .ok (.complete promotion)

/-- A registered member stays registered through a call that neither ends its
registration nor expels it, or its removal is reported. -/
theorem Consistent.registered_after
    {call : Call}
    (consistent : table.Consistent)
    (appends : call.operation ≠ .pollAction)
    (registered : table.Registered roomId clientId)
    (lasts : ¬table.Ends call roomId clientId)
    (spared : ¬call.Expels table roomId clientId) :
    (table.step call).Registered roomId clientId ∨
      ∃ action ∈ table.emitted call, action.Removes roomId clientId := by
  have stays {phase phase' : Option InstanceId} {middle next : RoomTable}
      {move : Move} (taken : Moved phase middle move phase' next)
      (shape : middle.Consistent) (holds : middle.Registered roomId clientId)
      (kept : move.room? = some roomId ->
        ¬move.Departs middle.rooms[roomId]? clientId) :
      next.Registered roomId clientId := by
    obtain ⟨member, present, lives⟩ := holds
    have moved := taken.room shape.wellFormed roomId
    by_cases about : move.room? = some roomId
    · exact moved.stays (shape.wellFormed.rooms roomId) present lives
        (kept about)
    · refine ⟨member, ?_, lives⟩
      rw [member?, moved.elsewhere about]
      exact present
  by_cases sweeps : call.Sweeps
  · refine .inl (consistent.step_invariant (fun _ middle =>
      middle.Registered roomId clientId ∧
        ∀ room join, middle.rooms[roomId]? = some room ->
          room.pendingJoin = some join -> ∃ former,
            table.rooms[roomId]? = some former ∧
              former.pendingJoin = some join)
      (fun phase middle move phase' next taken arises shape before => ?_)
      ⟨registered, fun room join found joining =>
        ⟨room, found, joining⟩⟩).1
    refine ⟨stays taken shape before.1 fun about departs => ?_,
      fun room join found joining => ?_⟩
    · cases move with
      | expireRoom instanceId subject =>
          obtain rfl := Option.some.inj about
          obtain ⟨now, asked, expires, lists, -⟩ := arises
          obtain ⟨room, join, found, joining, same⟩ := departs
          obtain ⟨former, was, waiting⟩ := before.2 room join found joining
          exact spared (.join was waiting same
            (.inr ⟨now, instanceId, asked, expires, lists⟩))
      | dropWithLeave | dropWithGrace =>
          obtain ⟨-, now, asked⟩ := arises
          simp [Call.Sweeps, asked] at sweeps
      | removeFailed | removeDirect =>
          obtain ⟨-, _, _, _, asked, -⟩ := arises
          simp [Call.Sweeps, asked] at sweeps
      | completeLeave | refuseJoin | abortUpgrade =>
          obtain ⟨-, _, _, _, ⟨_, _, asked, -⟩, -⟩ := arises
          simp [Call.Sweeps, asked] at sweeps
      | _ => exact departs
    · have moved := taken.room shape.wellFormed roomId
      rw [found] at moved
      rcases moved.pendingJoin_kept joining with ⟨former, was, waiting⟩ |
        ⟨_, _, rfl⟩
      · exact before.2 former join was waiting
      · obtain ⟨-, now, token, asked⟩ := arises
        simp [Call.Sweeps, asked] at sweeps
  rcases step_direct table call sweeps with same | ⟨move, taken, arises⟩
  · rw [same]
    exact .inl registered
  by_cases departs : move.room? = some roomId ∧
      move.Departs table.rooms[roomId]? clientId
  swap
  · exact .inl (stays taken consistent registered fun about leaves =>
      departs ⟨about, leaves⟩)
  obtain ⟨about, departs⟩ := departs
  obtain ⟨actions, appended, emits⟩ := taken.emits consistent.wellFormed (by
    rintro rfl
    exact appends arises.2)
  generalize table.step call = after at taken
  cases taken with
  | dropWithLeave | dropWithGrace =>
      obtain rfl := Option.some.inj about
      obtain ⟨-, now, asked⟩ := arises
      cases departs
      exact absurd (.inl ⟨now, asked⟩) lasts
  | removeFailed found present noJoin noLeave failed =>
      obtain rfl := Option.some.inj about
      cases departs
      obtain ⟨authorityRequestId, promotion, asked, done⟩ :=
        removes_completes arises.2 found present (by simp [failed]) noJoin noLeave
          (by simp [failed])
      exact absurd (.inr ⟨authorityRequestId, _, promotion, asked, done⟩) lasts
  | removeDirect found present noJoin noLeave direct =>
      obtain rfl := Option.some.inj about
      cases departs
      obtain ⟨authorityRequestId, promotion, asked, done⟩ :=
        removes_completes arises.2 found present (by simp [direct]) noJoin noLeave
          (by simp [direct])
      exact absurd (.inr ⟨authorityRequestId, _, promotion, asked, done⟩) lasts
  | refuseJoin reason outstanding found joining =>
      obtain rfl := Option.some.inj about
      obtain ⟨-, instanceId, pending, refuses⟩ := arises
      obtain rfl := refuses.recorded outstanding
      obtain ⟨room, join, there, waiting, same⟩ := departs
      exact absurd (.join there waiting same
        (.inl ⟨_, _, _, _, _, _, refuses⟩)) spared
  | abortUpgrade reason outstanding found upgrading =>
      obtain rfl := Option.some.inj about
      obtain ⟨-, instanceId, pending, refuses⟩ := arises
      obtain rfl := refuses.recorded outstanding
      obtain ⟨room, upgrade, there, flying, same⟩ := departs
      exact absurd (.upgrade there flying same refuses) spared
  | completeLeave now outstanding found leaving =>
      obtain rfl := Option.some.inj about
      obtain ⟨-, instanceId, pending, accepts⟩ := arises
      obtain rfl := accepts.recorded outstanding
      cases departs
      rename_i requestId _ _ _ _ room leave
      cases asked : leave.authorityRequestId with
      | none => exact absurd (.leave found leaving asked accepts) spared
      | some authorityRequestId =>
          obtain ⟨other, pendingLeave, there, waits, rfl⟩ := emits
          obtain rfl := Option.some.inj (found.symm.trans there)
          obtain rfl := Option.some.inj (leaving.symm.trans waits)
          rw [emitted_of_append appends appended]
          rw [removalActions, asked]
          exact .inr ⟨_, List.mem_singleton_self _, rfl, rfl⟩
  | _ => exact departs.elim

end RoomTable

end V2
end Signaling
