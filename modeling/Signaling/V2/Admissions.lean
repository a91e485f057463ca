import Signaling.V2.Registrations

/-!
# Admissions are answered truly

While a worker has to confirm an admission, the room keeps the request and the
client that it is about. When the answer comes, it carries the token that was
asked for, and the mode and the epoch that the room has then.
-/

namespace Signaling
namespace V2

open Std (ExtTreeMap)
open RoomTable

/-- The room waits for a worker to confirm the admission of the client. -/
def Room.Awaits
    (room : Room)
    (authorityRequestId : Nat)
    (clientId : ClientId) : Prop :=
  room.pendingJoin = some ⟨authorityRequestId, clientId⟩ ∨
    ∃ upgrade, room.upgrade = some upgrade ∧
      upgrade.authorityRequestId = authorityRequestId ∧
      upgrade.joiningClientId = clientId

theorem Room.Awaits.congr
    {room after : Room}
    {authorityRequestId : Nat}
    {clientId : ClientId}
    (waits : after.Awaits authorityRequestId clientId)
    (pendingJoin : after.pendingJoin = room.pendingJoin)
    (upgrade : after.upgrade = room.upgrade) :
    room.Awaits authorityRequestId clientId := by
  unfold Awaits at *
  rwa [← pendingJoin, ← upgrade]

/-- A room that settles its join and its upgrade waits for nobody. -/
theorem Room.not_awaits
    {room : Room}
    {authorityRequestId : Nat}
    {clientId : ClientId}
    (noJoin : room.pendingJoin = none)
    (noUpgrade : room.upgrade = none) :
    ¬room.Awaits authorityRequestId clientId := by
  simp [Awaits, noJoin, noUpgrade]

/-- A room waits for an admission that it waited for before, of a client whose
token stays, or that the move begins. -/
theorem RoomMoved.awaits
    {roomId : RoomId}
    {move : Move}
    {before : Option Room}
    {after : Room}
    {authorityRequestId : Nat}
    {clientId : ClientId}
    (moved : RoomMoved roomId move before (some after))
    (wellFormed : ∀ former, before = some former -> former.WellFormed)
    (waits : after.Awaits authorityRequestId clientId) :
    (∃ former, before = some former ∧
      former.Awaits authorityRequestId clientId ∧
      ∀ member, after.members[clientId]? = some member ->
        ∃ earlier, former.members[clientId]? = some earlier ∧
          member.token = earlier.token) ∨
      move = .beginUpgrade authorityRequestId roomId clientId ∨
      move = .beginJoin authorityRequestId roomId clientId := by
  have waited (former : Room)
      (was : before = some former)
      (awaited : former.Awaits authorityRequestId clientId)
      (steady : ¬move.Adds roomId clientId) :
      (∃ former, before = some former ∧
        former.Awaits authorityRequestId clientId ∧
        ∀ member, after.members[clientId]? = some member ->
          ∃ earlier, former.members[clientId]? = some earlier ∧
            member.token = earlier.token) ∨
        move = .beginUpgrade authorityRequestId roomId clientId ∨
        move = .beginJoin authorityRequestId roomId clientId := by
    refine .inl ⟨former, was, awaited, fun member present => ?_⟩
    rcases moved.continues present with ⟨earlier, there, same, -⟩ |
      ⟨-, -, enrols⟩
    · rw [was] at there
      exact ⟨earlier, there, same⟩
    · exact absurd enrols steady
  generalize becomes : some after = result at moved
  cases moved with
  | kept =>
      cases becomes
      exact .inl ⟨after, rfl, waits, fun member present =>
        ⟨member, present, rfl⟩⟩
  | create =>
      cases becomes
      exact absurd waits (Room.not_awaits rfl rfl)
  | joinDirect now grace token lifecycleId fresh direct =>
      cases becomes
      obtain ⟨-, -, noUpgrade, noJoin, -⟩ := (wellFormed _ rfl).direct direct
      exact absurd waits (Room.not_awaits noJoin noUpgrade)
  | beginUpgrade now grace token lifecycleId lifecycle instanceId fresh direct =>
      cases becomes
      obtain ⟨-, -, -, noJoin, -⟩ := (wellFormed _ rfl).direct direct
      rcases waits with joining | ⟨upgrade, running, rfl, rfl⟩
      · exact absurd (noJoin.symm.trans joining) (by simp)
      · cases running
        exact .inr (.inl rfl)
  | beginJoin now grace token lifecycleId fresh forwarded =>
      cases becomes
      have noUpgrade := ((wellFormed _ rfl).forwarded forwarded).2
      rcases waits with joining | ⟨upgrade, running, -⟩
      · cases joining
        exact .inr (.inr rfl)
      · cases noUpgrade.symm.trans running
  | advanceUpgrade requestId upgrading =>
      cases becomes
      refine waited _ rfl ?_ id
      rcases waits with joining | ⟨upgrade, running, asked, joins⟩
      · exact .inl joining
      · cases running
        exact .inr ⟨_, upgrading, asked, joins⟩
  | commitUpgrade requestId upgrading finished =>
      cases becomes
      refine waited _ rfl (.inl ?_) id
      rcases waits with joining | ⟨upgrade, running, -⟩
      · exact joining
      · cases running
  | abortUpgrade | expireUpgrade =>
      cases becomes
      refine waited _ rfl (.inl ?_) id
      rcases waits with joining | ⟨upgrade, running, -⟩
      · exact joining
      · cases running
  | completeJoin | refuseJoin | expireRoom =>
      cases becomes
      refine waited _ rfl (.inr ?_) id
      rcases waits with joining | running
      · cases joining
      · exact running
  | register =>
      cases becomes
      exact waited _ rfl (waits.congr (by simp) (by simp)) id
  | removeFailed | completeLeave =>
      obtain rfl := Room.eq_of_stored becomes.symm
      exact waited _ rfl (waits.congr rfl rfl) id
  | removeDirect | expireMembers =>
      obtain rfl := Room.eq_of_stored becomes.symm
      exact waited _ rfl (waits.congr (by simp) (by simp)) id
  | _ =>
      cases becomes
      exact waited _ rfl (waits.congr rfl rfl) id

/-- A client that an admission adds has its token, and waits for the grace from
then on. -/
theorem RoomTable.admitClient_member
    {table : RoomTable}
    {authorityRequestId : Nat}
    {now : Instant}
    {roomId : RoomId}
    {clientId : ClientId}
    {token : String}
    {member : Member}
    (absent : table.member? roomId clientId = none)
    (present : (table.admitClient authorityRequestId now roomId clientId
      token).2.member? roomId clientId = some member) :
    ∃ isInitiator lifecycleId, member =
      newMember now table.reconnectGrace token isInitiator lifecycleId := by
  unfold admitClient at present
  split at present
  · simp [member?, Room.create] at present
    exact ⟨_, _, present.symm⟩
  next room found =>
  simp only [member?, found, Option.bind_some] at absent
  split at present
  · simp [member?, found, absent] at present
  next fresh =>
  simp only [Bool.not_eq_true] at fresh
  split at present
  · simp [member?, found, absent] at present
  · simp [member?, found, absent] at present
  · split at present
    · simp [member?, found, absent] at present
    unfold admitToSfu at present
    simp only [found] at present
    split at present
    · simp [member?, found, absent] at present
    split at present
    · simp [member?, found, absent] at present
    · simp [member?] at present
      exact ⟨_, _, present.symm⟩
  · split at present
    · simp [member?] at present
      exact ⟨_, _, present.symm⟩
    next full =>
    split at present
    · simp [member?, found, absent] at present
    next instanceId selected =>
    obtain ⟨lifecycle, counters, lifecycleId, first, joining, connectionId, -, -,
      -, begun⟩ := beginUpgrade_eq authorityRequestId now token roomId fresh full
        selected
    rw [begun] at present
    simp [member?, Room.startUpgrade, Room.relive] at present
    exact ⟨_, _, present.symm⟩

/-- What a room waits for has been asked for, and the client has the token of
the request for as long as it is a member. -/
def RoomTable.Traced
    (asked : Nat -> RoomId -> ClientId -> String -> Prop)
    (table : RoomTable) : Prop :=
  ∀ (roomId : RoomId) (room : Room) (authorityRequestId : Nat)
    (clientId : ClientId),
    table.rooms[roomId]? = some room ->
    room.Awaits authorityRequestId clientId ->
    ∃ token, asked authorityRequestId roomId clientId token ∧
      ∀ member, room.members[clientId]? = some member -> member.token = token

namespace RoomTable

variable
  {asked : Nat -> RoomId -> ClientId -> String -> Prop}
  {table : RoomTable}

theorem Traced.moved
    {phase phase' : Option InstanceId}
    {next : RoomTable}
    {move : Move}
    (traced : table.Traced asked)
    (taken : Moved phase table move phase' next)
    (wellFormed : table.WellFormed)
    (begun : ∀ authorityRequestId roomId clientId,
      move = .beginUpgrade authorityRequestId roomId clientId ∨
        move = .beginJoin authorityRequestId roomId clientId ->
      ∃ token, asked authorityRequestId roomId clientId token ∧
        ∀ member, next.member? roomId clientId = some member ->
          member.token = token) :
    next.Traced asked := by
  intro roomId room authorityRequestId clientId found waits
  have moved := taken.room wellFormed roomId
  rw [found] at moved
  rcases moved.awaits (fun former was => wellFormed.rooms roomId former was)
    waits with ⟨former, was, awaited, kept⟩ | begins
  · obtain ⟨token, requested, holds⟩ := traced roomId former _ _ was awaited
    refine ⟨token, requested, fun member present => ?_⟩
    obtain ⟨earlier, there, same⟩ := kept member present
    rw [same]
    exact holds earlier there
  · obtain ⟨token, requested, holds⟩ := begun _ _ _ begins
    exact ⟨token, requested, fun member present =>
      holds member (by simp [member?, found, present])⟩

/-- Every call keeps track of the requests that rooms wait for. -/
theorem Consistent.traced
    (consistent : table.Consistent)
    (traced : table.Traced asked)
    {call : Call}
    (requested : ∀ authorityRequestId now roomId clientId token,
      call.operation =
        .admitClient authorityRequestId now roomId clientId token ->
      asked authorityRequestId roomId clientId token) :
    (table.step call).Traced asked := by
  by_cases admits : ∃ authorityRequestId now roomId clientId token,
      call.operation =
        .admitClient authorityRequestId now roomId clientId token
  · obtain ⟨authorityRequestId, now, roomId, clientId, token, operation⟩ :=
      admits
    rcases step_direct table call (by simp [Call.Sweeps, operation]) with same |
      ⟨move, taken, arises⟩
    · rw [same]
      exact traced
    refine traced.moved taken consistent.wellFormed ?_
    intro otherRequestId otherId otherClientId begins
    have fresh : table.member? otherId otherClientId = none := by
      generalize table.step call = next at taken
      rcases begins with rfl | rfl
      · cases taken with
        | beginUpgrade authorityRequestId now token found fresh =>
            rw [member?, found]
            exact ExtTreeMap.getElem?_eq_none_of_contains_eq_false fresh
      · cases taken with
        | beginJoin authorityRequestId now token found fresh =>
            rw [member?, found]
            exact ExtTreeMap.getElem?_eq_none_of_contains_eq_false fresh
    have same : ∃ now token, call.operation =
        .admitClient otherRequestId now otherId otherClientId token := by
      rcases begins with rfl | rfl <;> exact arises.2
    obtain ⟨later, given, operation⟩ := same
    refine ⟨given, requested _ _ _ _ _ operation, fun member present => ?_⟩
    simp only [RoomTable.step, operation] at present
    obtain ⟨isInitiator, lifecycleId, rfl⟩ := admitClient_member fresh present
    rfl
  · refine consistent.step_invariant (fun _ table => table.Traced asked)
      (fun phase middle move phase' next taken arises shape before =>
        before.moved taken shape.wellFormed ?_) traced
    rintro authorityRequestId roomId clientId (rfl | rfl) <;>
    · obtain ⟨-, now, token, operation⟩ := arises
      exact absurd ⟨_, _, _, _, _, operation⟩ admits

end RoomTable

/-! ## Answers -/

/-- The client is a member of the room under the token that is announced, and
the room has the mode and the epoch that are. -/
def Admission.Holds
    (admission : Admission)
    (room : Option Room)
    (clientId : ClientId) : Prop :=
  ∃ kept member, room = some kept ∧
    kept.members[clientId]? = some member ∧
    admission.admissionToken = member.token ∧
    admission.mode = kept.mode ∧
    admission.signalEpoch = kept.signalEpoch ∧
    admission.isInitiator =
      if kept.mode = .p2p then some member.isInitiator else none

/-- A worker confirms a join into a room that is not forwarded, or that waits
for the join of somebody else. -/
def Call.JoinsAstray (call : Call) (table : RoomTable) : Prop :=
  ∃ (instanceId : InstanceId) (requestId : Nat) (expected : InstanceId)
    (roomId : RoomId) (clientId : ClientId) (lifecycleId assignmentEpoch : Nat)
    (room : Room) (join : PendingJoin),
    call.Accepts table instanceId requestId
      (.sfuJoin expected roomId clientId lifecycleId assignmentEpoch) ∧
    table.rooms[roomId]? = some room ∧ room.pendingJoin = some join ∧
    (join.clientId ≠ clientId ∨ room.mode ≠ .sfu)

theorem RoomMoved.committed
    {roomId : RoomId}
    {requestId : Nat}
    {room : Room}
    {after : Option Room}
    (moved : RoomMoved roomId (.commitUpgrade requestId roomId) (some room)
      after) :
    ∃ upgrade clientId,
      after = some (room.advanceUpgrade upgrade clientId).commitSfu := by
  cases moved with
  | kept elsewhere => simp [Move.room?] at elsewhere
  | commitUpgrade => exact ⟨_, _, rfl⟩

theorem RoomMoved.joined
    {roomId : RoomId}
    {instanceId : InstanceId}
    {requestId : Nat}
    {clientId : ClientId}
    {room : Room}
    {after : Option Room}
    (moved : RoomMoved roomId
      (.completeJoin instanceId requestId roomId clientId) (some room) after) :
    after = some { room with pendingJoin := none } := by
  cases moved with
  | kept elsewhere => simp [Move.room?] at elsewhere
  | completeJoin => rfl

namespace RoomTable

variable
  {table : RoomTable}
  {roomId : RoomId}
  {clientId : ClientId}

/-- An admission that is completed at once is true. -/
theorem admitClient_holds
    {authorityRequestId : Nat}
    {now : Instant}
    {token : String}
    {admission : Admission}
    {after : RoomTable}
    (admitted : table.admitClient authorityRequestId now roomId clientId token =
      (.ok (.complete admission), after)) :
    admission.admissionToken = token ∧
      admission.Holds after.rooms[roomId]? clientId := by
  unfold admitClient at admitted
  split at admitted
  · cases admitted
    exact ⟨rfl, _, _, ExtTreeMap.getElem?_insert_self,
      ExtTreeMap.getElem?_insert_self, rfl, rfl, rfl, rfl⟩
  next room found =>
  split at admitted
  · cases admitted
  split at admitted
  · cases admitted
  · cases admitted
  · split at admitted
    · cases admitted
    unfold admitToSfu at admitted
    simp only [found] at admitted
    split at admitted
    · cases admitted
    split at admitted <;> cases admitted
  · next direct =>
    split at admitted
    · cases admitted
      refine ⟨rfl, _, _, ExtTreeMap.getElem?_insert_self,
        ExtTreeMap.getElem?_insert_self, rfl, direct.symm, rfl, ?_⟩
      exact (if_pos direct).symm
    · split at admitted
      · cases admitted
      · simp only [beginUpgrade] at admitted
        split at admitted <;> cases admitted

/-- An admission that is completed by a worker is the one that the room waited
for, and is true. -/
theorem Consistent.admission_holds
    {call : Call}
    {authorityRequestId : Nat}
    {admission : Admission}
    (consistent : table.Consistent)
    (straight : ¬call.JoinsAstray table)
    (appends : call.operation ≠ .pollAction)
    (answered : .admissionCompleted authorityRequestId (.ok admission) ∈
      table.emitted call) :
    ∃ (roomId : RoomId) (room : Room) (clientId : ClientId),
      table.rooms[roomId]? = some room ∧
      room.Awaits authorityRequestId clientId ∧
      (∃ member, room.members[clientId]? = some member ∧
        member.token = admission.admissionToken) ∧
      admission.Holds (table.step call).rooms[roomId]? clientId := by
  have single := consistent.grants_single appends answered trivial
  obtain ⟨move, taken, arises, emission⟩ :=
    consistent.emission_direct appends single answered
  cases emission with
  | plain plain => exact plain.elim
  | forwarded found upgrading present =>
      rename_i requestId roomId room upgrade joining
      refine ⟨roomId, room, upgrade.joiningClientId, found,
        .inr ⟨upgrade, upgrading, rfl, rfl⟩, ⟨joining, present, rfl⟩, ?_⟩
      have moved := taken.room consistent.wellFormed roomId
      rw [found] at moved
      obtain ⟨_, _, committed⟩ := moved.committed
      refine ⟨_, { joining with queuedMessages := [], isInitiator := false },
        committed, ?_, rfl, rfl, rfl, rfl⟩
      simp [Room.commitSfu, Room.advanceUpgrade, present]
  | joined found joining present =>
      rename_i instanceId requestId roomId clientId room join member
      obtain ⟨-, answerer, pending, accepts⟩ := arises
      have moved := taken.room consistent.wellFormed roomId
      rw [found] at moved
      have after := moved.joined
      have settled : join.clientId = clientId ∧ room.mode = .sfu := by
        by_contra astray
        generalize table.step call = next at taken
        cases taken with
        | completeJoin outstanding =>
            obtain rfl := accepts.recorded outstanding
            refine straight ⟨_, _, _, _, _, _, _, _, _, accepts, found, joining,
              ?_⟩
            rwa [← not_and_or]
      obtain ⟨rfl, forwarded⟩ := settled
      exact ⟨roomId, room, join.clientId, found, .inl joining,
        ⟨member, present, rfl⟩, _, member, after, present, rfl, forwarded.symm,
        rfl, by simp [forwarded]⟩

end RoomTable

end V2
end Signaling
