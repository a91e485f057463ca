import Signaling.V2.Emissions

/-!
# SFU memberships

A lifecycle id names one membership of a client in a room. The ids of a client
are handed out in ascending order, each worker is asked once to join a
membership, and a membership that has ended is never taken up again.
-/

namespace Signaling
namespace V2

open Std (ExtTreeMap ExtTreeSet)
open RoomTable

namespace RoomTable

/-- The last lifecycle id that a member has been given; it counts the ids as
long as it has not reached the end of the range. -/
def allocated
    (table : RoomTable)
    (roomId : RoomId)
    (clientId : ClientId) : Nat :=
  table.lifecycleIds.getD (roomId, clientId) 0

/-- No client has run out of lifecycle ids. -/
def Unexhausted (table : RoomTable) : Prop :=
  ∀ roomId clientId, table.allocated roomId clientId < u64Max

section Allocation

variable
  (table : RoomTable)
  (roomId otherRoom : RoomId)
  (clientId otherId : ClientId)

theorem allocated_nextLifecycle :
    (table.nextLifecycle roomId clientId).2.allocated otherRoom otherId =
      if roomId = otherRoom ∧ clientId = otherId then
        (table.nextLifecycle roomId clientId).1
      else table.allocated otherRoom otherId := by
  have same : lexOrd.compare (roomId, clientId) (otherRoom, otherId) = .eq ↔
      roomId = otherRoom ∧ clientId = otherId := by
    rw [Std.LawfulEqCmp.compare_eq_iff_eq, Prod.mk.injEq]
  simp only [allocated, nextLifecycle, ExtTreeMap.getD_insert, same]

/-- A new lifecycle id is larger than all earlier ones. -/
theorem nextLifecycle_fresh
    (bounded : (table.nextLifecycle roomId clientId).1 < u64Max) :
    table.allocated roomId clientId <
      (table.nextLifecycle roomId clientId).1 := by
  simp only [nextLifecycle, saturatingAdd] at bounded ⊢
  unfold allocated
  omega

theorem allocated_le_nextLifecycle
    (bounded : (table.nextLifecycle roomId clientId).2.allocated otherRoom
      otherId < u64Max) :
    table.allocated otherRoom otherId ≤
      (table.nextLifecycle roomId clientId).2.allocated otherRoom otherId := by
  rw [allocated_nextLifecycle] at bounded ⊢
  split
  · rename_i same
    obtain ⟨rfl, rfl⟩ := same
    simp only [and_self, if_true] at bounded
    exact (table.nextLifecycle_fresh roomId clientId bounded).le
  · exact le_rfl

end Allocation

/-- Lifecycle ids given to a list of members: each listed member has its client's
last id, which is new, and every other one is as it was. -/
structure Relived
    (roomId : RoomId)
    (clients : List ClientId)
    (table after : RoomTable) : Prop where
  ascends : ∀ otherRoom otherId, after.allocated otherRoom otherId < u64Max ->
    table.allocated otherRoom otherId ≤ after.allocated otherRoom otherId
  listed : ∀ clientId ∈ clients, ∀ member,
    after.member? roomId clientId = some member ->
    after.allocated roomId clientId < u64Max ->
    member.lifecycleId = after.allocated roomId clientId ∧
      table.allocated roomId clientId < after.allocated roomId clientId
  others : ∀ clientId, clientId ∉ clients ->
    after.member? roomId clientId = table.member? roomId clientId ∧
      after.allocated roomId clientId = table.allocated roomId clientId

/-- The members of a room after one of them has been given a lifecycle id. -/
theorem member?_modifyLifecycle
    (table : RoomTable)
    (roomId : RoomId)
    (clientId otherId : ClientId)
    (lifecycleId : Nat) :
    ((table.rooms.modify roomId fun room => room.modifyMember clientId
      fun member => { member with lifecycleId := lifecycleId })[roomId]?.bind
        fun room => room.members[otherId]?) =
      if otherId = clientId then
        (table.member? roomId otherId).map fun member =>
          { member with lifecycleId := lifecycleId }
      else table.member? roomId otherId := by
  unfold member?
  cases found : table.rooms[roomId]? with
  | none => simp [found]
  | some room =>
      simp only [ExtTreeMap.getElem?_modify_self, found, Option.map_some,
        Option.bind_some, Room.modifyMember]
      grind

theorem freshLifecycles_relived
    (roomId : RoomId)
    (clients : List ClientId)
    (table : RoomTable) :
    Relived roomId clients table (freshLifecycles roomId clients table) := by
  induction clients generalizing table with
  | nil =>
      exact ⟨fun _ _ _ => le_rfl, by simp, fun _ _ => ⟨rfl, rfl⟩⟩
  | cons clientId clients inductionHypothesis =>
      simp only [freshLifecycles]
      have relived := inductionHypothesis
        { (table.nextLifecycle roomId clientId).2 with
          rooms := (table.nextLifecycle roomId clientId).2.rooms.modify roomId
            fun room => room.modifyMember clientId fun member =>
              { member with
                lifecycleId := (table.nextLifecycle roomId clientId).1 } }
      have counted := fun otherRoom =>
        table.allocated_nextLifecycle roomId otherRoom clientId
      have stored (otherId : ClientId) := member?_modifyLifecycle table roomId
        clientId otherId (table.nextLifecycle roomId clientId).1
      have ascends (otherRoom : RoomId) (otherId : ClientId) :=
        table.allocated_le_nextLifecycle roomId otherRoom clientId otherId
      generalize freshLifecycles roomId clients _ = after at relived ⊢
      refine ⟨fun otherRoom otherId bounded => ?_,
        fun otherId present member found bounded => ?_, fun otherId absent => ?_⟩
      · have later := relived.ascends otherRoom otherId bounded
        exact (ascends otherRoom otherId (later.trans_lt bounded)).trans later
      · by_cases later : otherId ∈ clients
        · obtain ⟨same, fresh⟩ := relived.listed otherId later member found bounded
          exact ⟨same, (ascends roomId otherId (fresh.trans bounded)).trans_lt
            fresh⟩
        · obtain ⟨unchanged, count⟩ := relived.others otherId later
          obtain rfl : otherId = clientId := by
            rcases List.mem_cons.1 present with same | listed
            · exact same
            · exact absurd listed later
          have same := stored otherId
          rw [if_pos rfl] at same
          rw [unchanged, member?, nextLifecycle_rooms, same] at found
          have last : after.allocated roomId otherId =
              (table.nextLifecycle roomId otherId).1 := by
            rw [count]
            exact (counted roomId otherId).trans (if_pos ⟨rfl, rfl⟩)
          rw [last] at bounded ⊢
          refine ⟨?_, table.nextLifecycle_fresh roomId otherId bounded⟩
          obtain ⟨former, -, rfl⟩ := Option.map_eq_some_iff.1 found
          rfl
      · simp only [List.mem_cons, not_or] at absent
        obtain ⟨unchanged, count⟩ := relived.others otherId absent.2
        have same := stored otherId
        rw [if_neg absent.1] at same
        refine ⟨?_, ?_⟩
        · rw [unchanged, member?, nextLifecycle_rooms, same]
        · rw [count]
          exact (counted roomId otherId).trans
            (if_neg fun both => absent.1 both.2.symm)

/-- Asking for the next join changes neither rooms nor lifecycle ids. -/
theorem issueNextUpgradeJoin_kept
    (table : RoomTable)
    (roomId : RoomId) :
    (table.issueNextUpgradeJoin roomId).2.rooms = table.rooms ∧
      (table.issueNextUpgradeJoin roomId).2.lifecycleIds =
        table.lifecycleIds := by
  rcases issueNextUpgradeJoin_cases table roomId with ⟨error, same⟩ |
    ⟨_, _, _, _, _, _, -, -, -, -, -, -, issued⟩
  · rw [same]
    exact ⟨rfl, rfl⟩
  · rw [issued]
    exact ⟨rfl, rfl⟩

/-- An upgrade gives every member of its room a new lifecycle id. -/
theorem beginUpgrade_relived
    {table : RoomTable}
    {room : Room}
    (authorityRequestId : Nat)
    (now : Instant)
    (roomId : RoomId)
    (clientId : ClientId)
    (token : String)
    (instanceId : InstanceId) :
    let after := (table.beginUpgrade authorityRequestId now roomId room clientId
      token instanceId).2
    (∀ otherRoom otherId, after.allocated otherRoom otherId < u64Max ->
      table.allocated otherRoom otherId ≤ after.allocated otherRoom otherId) ∧
    ∀ otherId member, after.member? roomId otherId = some member ->
      after.allocated roomId otherId < u64Max ->
      member.lifecycleId = after.allocated roomId otherId ∧
        table.allocated roomId otherId < after.allocated roomId otherId := by
  let member := newMember now table.reconnectGrace token false
    (table.nextLifecycle roomId clientId).1
  let joined := room.insertMember clientId member
  let others := (upgradeOrder joined clientId).filter fun candidate =>
    decide (candidate ≠ clientId)
  let start := (table.nextLifecycle roomId clientId).2.setRoom roomId
    { joined with
      mode := .upgrading
      assignmentEpoch := saturatingAdd room.assignmentEpoch 1
      assignedInstance := some instanceId }
  have relived := freshLifecycles_relived roomId others start
  intro after
  have kept : after.lifecycleIds =
        (freshLifecycles roomId others start).lifecycleIds ∧
      ∀ otherId, after.member? roomId otherId =
        (freshLifecycles roomId others start).member? roomId otherId := by
    obtain ⟨upgrade, update, asked⟩ : ∃ upgrade update, after =
        (RoomTable.issueNextUpgradeJoin (RoomTable.modifyWorker
          { freshLifecycles roomId others start with
            rooms := (freshLifecycles roomId others start).rooms.modify roomId
              fun room => { room with upgrade := some upgrade } }
          instanceId update) roomId).2 := by
      refine ⟨?_, ?_, ?_⟩
      rotate_left 2
      · simp only [after, RoomTable.beginUpgrade]
        split
        · next error later refused => exact (congrArg Prod.snd refused).symm
        · next later issued => exact (congrArg Prod.snd issued).symm
    generalize freshLifecycles roomId others start = lived at asked ⊢
    obtain ⟨rooms, counters⟩ := issueNextUpgradeJoin_kept (RoomTable.modifyWorker
      { lived with
        rooms := lived.rooms.modify roomId fun room =>
          { room with upgrade := some upgrade } } instanceId update) roomId
    rw [← asked] at rooms counters
    refine ⟨counters, fun otherId => ?_⟩
    unfold member?
    rw [rooms, modifyWorker_rooms, ExtTreeMap.getElem?_modify_self]
    cases lived.rooms[roomId]? <;> rfl
  have counts (otherRoom : RoomId) (otherId : ClientId) :
      after.allocated otherRoom otherId =
        (freshLifecycles roomId others start).allocated otherRoom otherId := by
    simp only [allocated, kept.1]
  simp only [counts, kept.2]
  generalize freshLifecycles roomId others start = lived at relived
  have begun (otherRoom : RoomId) (otherId : ClientId) :=
    table.allocated_le_nextLifecycle roomId otherRoom clientId otherId
  refine ⟨fun otherRoom otherId bounded => ?_,
    fun otherId present found bounded => ?_⟩
  · have later := relived.ascends otherRoom otherId bounded
    exact (begun otherRoom otherId (later.trans_lt bounded)).trans later
  · by_cases listed : otherId ∈ others
    · obtain ⟨same, fresh⟩ := relived.listed otherId listed present found bounded
      exact ⟨same, (begun roomId otherId (fresh.trans bounded)).trans_lt fresh⟩
    · obtain ⟨unchanged, count⟩ := relived.others otherId listed
      rw [unchanged] at found
      simp only [member?, start, setRoom_rooms,
        ExtTreeMap.getElem?_insert_self, Option.bind_some] at found
      have inside : otherId ∈ upgradeOrder joined clientId := by
        refine (Room.mem_upgradeOrder joined clientId otherId).2 (Or.inl ?_)
        exact ExtTreeMap.mem_iff_isSome_getElem?.2 (by simp [found])
      obtain rfl : otherId = clientId := by
        by_contra other
        exact listed (List.mem_filter.2 ⟨inside, by simpa using other⟩)
      have last : lived.allocated roomId otherId =
          (table.nextLifecycle roomId otherId).1 := by
        rw [count]
        exact (table.allocated_nextLifecycle roomId roomId otherId
          otherId).trans (if_pos ⟨rfl, rfl⟩)
      rw [last] at bounded ⊢
      refine ⟨?_, table.nextLifecycle_fresh roomId otherId bounded⟩
      simp only [joined, Room.insertMember, ExtTreeMap.getElem?_insert_self,
        Option.some.injEq] at found
      rw [← found]
      rfl

end RoomTable

/-- A move that gives out lifecycle ids. -/
def Move.Enrols : Move -> Prop
  | .create _ _ | .joinDirect _ _ | .beginUpgrade _ _ _ | .beginJoin _ _ _ =>
      True
  | _ => False

/-- Every other move leaves the lifecycle ids alone. -/
theorem Moved.lifecycleIds_kept
    {phase phase' : Option InstanceId}
    {table table' : RoomTable}
    {move : Move}
    (taken : Moved phase table move phase' table')
    (wellFormed : table.WellFormed)
    (settled : ¬move.Enrols) :
    table'.lifecycleIds = table.lifecycleIds := by
  have failed {before : RoomTable} {order : VisitOrder} {roomId : RoomId}
      {reason : String} :
      (before.failRoom order roomId reason).lifecycleIds =
        before.lifecycleIds := by
    unfold RoomTable.failRoom
    split <;> rfl
  cases taken with
  | create | joinDirect | beginUpgrade | beginJoin => exact absurd trivial settled
  | register | dropWithGrace | queueMessage | disconnectWorker | clearDeadline
  | rearmGrace | setDwell | beginExpiry | dropWithLeave | forwardSignal
  | requestLeave | push | retryLeave | refuseJoin => rfl
  | removeFailed | removeDirect | expireMembers =>
      unfold RoomTable.setOrDropRoom
      split <;> rfl
  | connectWorker | noteEvent | answer | expireRoom | endExpiry =>
      simp [RoomTable.connectWorker, failExpired, releaseWorker]
  | syncRoom order found listed connected =>
      simp only [syncAssignedRoom, found]
      rfl
  | reportFailure => exact failed
  | refuseSync => exact failed
  | advanceUpgrade => exact (issueNextUpgradeJoin_kept _ _).2
  | commitUpgrade order outstanding connected found upgrading finished =>
      rename_i requestId instanceId roomId clientId lifecycleId
        assignmentEpoch room upgrade connectionId
      rw [commitUpgrade_eq order (room.advanceUpgrade upgrade clientId)
        (by simp) rfl]
      split <;> simp
  | abortUpgrade reason outstanding found upgrading =>
      rename_i requestId instanceId roomId clientId lifecycleId
        assignmentEpoch room upgrade
      obtain ⟨carrier, carried⟩ := Option.isSome_iff_exists.1
        ((wellFormed.rooms roomId room found).upgrade upgrade upgrading).2.2.1
      obtain ⟨leavers, answers, release, -⟩ := abortUpgrade_released
        (table.retireCommand requestId) reason found upgrading carried
      exact release.lifecycleIds
  | completeJoin outstanding found joining =>
      rw [completeJoin_eq]
      split <;> rfl
  | completeLeave now outstanding found leaving =>
      rename_i requestId instanceId roomId clientId lifecycleId
        assignmentEpoch room pendingLeave
      obtain ⟨deadline, -, complete⟩ := completeLeave_eq
        (table.retireCommand requestId) instanceId roomId room clientId
          pendingLeave now
      rw [complete]
      split <;> simp
  | refuseLeave =>
      rw [removalAnswer_eq]
      simp
  | expireUpgrade waits listed found upgrading =>
      rename_i instanceId roomId room
      obtain ⟨upgrade, running, -⟩ :=
        (wellFormed.rooms roomId room found).upgrading upgrading
      obtain ⟨carrier, carried⟩ := Option.isSome_iff_exists.1
        ((wellFormed.rooms roomId room found).upgrade upgrade running).2.2.1
      obtain ⟨leavers, answers, release, -⟩ :=
        abortUpgrade_released table "WORKER_UNAVAILABLE" found running carried
      exact release.lifecycleIds
  | downgrade order eligible =>
      obtain ⟨room, instanceId, initiatorClientId, others, found, forwarded,
        small, noJoin, noLeave, carried, clients⟩ :=
          wellFormed.eligible eligible
      exact (commitDowngrade_released order found carried clients).lifecycleIds
  | pollAction =>
      unfold RoomTable.pollAction
      split <;> rfl

/-- A room continues a former one: every membership is an old one, no SFU mode
and no upgrade begins, and an upgrade in flight only moves on. -/
structure Room.LivesOn (former room : Room) : Prop where
  members : ∀ (clientId : ClientId) (member : Member),
    room.members[clientId]? = some member -> ∃ earlier : Member,
      former.members[clientId]? = some earlier ∧
        earlier.lifecycleId = member.lifecycleId
  settled : former.mode ≠ .sfu -> former.upgrade = none ->
    room.mode ≠ .sfu ∧ room.upgrade = none
  upgrade : ∀ upgrade, room.upgrade = some upgrade -> ∃ earlier,
    former.upgrade = some earlier ∧
      upgrade.orderedClients = earlier.orderedClients ∧
      earlier.nextClient ≤ upgrade.nextClient

namespace Room.LivesOn

variable {former room : Room}

/-- A room whose upgrade is that of the former one, or none. -/
theorem of_upgrade
    (members : ∀ (clientId : ClientId) (member : Member),
      room.members[clientId]? = some member -> ∃ earlier : Member,
        former.members[clientId]? = some earlier ∧
          earlier.lifecycleId = member.lifecycleId)
    (settled : former.mode ≠ .sfu -> former.upgrade = none ->
      room.mode ≠ .sfu)
    (upgrade : room.upgrade = former.upgrade ∨ room.upgrade = none) :
    former.LivesOn room where
  members := members
  settled direct idle :=
    ⟨settled direct idle, upgrade.elim (·.trans idle) id⟩
  upgrade running flying := by
    rcases upgrade with same | ended
    · exact ⟨running, same ▸ flying, rfl, le_rfl⟩
    · simp [ended] at flying

theorem refl (room : Room) : room.LivesOn room :=
  of_upgrade (fun _ member found => ⟨member, found, rfl⟩) (fun direct _ => direct)
    (Or.inl rfl)

end Room.LivesOn

/-- Every move but those that give out lifecycle ids continues the room. -/
theorem RoomMoved.livesOn
    {roomId : RoomId}
    {move : Move}
    {room after : Option Room}
    (moved : RoomMoved roomId move room after)
    (settled : ¬move.Enrols)
    {stored : Room}
    (present : after = some stored) :
    ∃ former, room = some former ∧ former.LivesOn stored := by
  cases moved with
  | kept => exact ⟨stored, present, .refl stored⟩
  | create | joinDirect | beginUpgrade | beginJoin => exact absurd trivial settled
  | register unready found unregistered =>
      rename_i room clientId member
      cases present
      refine ⟨room, rfl, .of_upgrade (fun otherId other listed => ?_)
        (fun direct _ => by simpa using direct) (by simp)⟩
      rw [Room.registerMember_members] at listed
      grind
  | dropWithLeave found | dropWithGrace deadline found | queueMessage found =>
      cases present
      refine ⟨_, rfl, .of_upgrade (fun otherId other listed => ?_)
        (fun direct _ => direct) (Or.inl rfl)⟩
      simp only [Room.insertMember] at listed
      grind
  | requestLeave | retryLeave | completeJoin | clearDeadline | refuseLeave =>
      cases present
      exact ⟨_, rfl, .of_upgrade (fun _ member found => ⟨member, found, rfl⟩)
        (fun direct _ => direct) (Or.inl rfl)⟩
  | removeFailed found noJoin noLeave failed =>
      obtain rfl := Room.eq_of_stored present
      refine ⟨_, rfl, .of_upgrade (fun otherId other listed => ?_)
        (fun direct _ => direct) (Or.inl rfl)⟩
      simp only [Room.eraseMember] at listed
      grind
  | removeDirect found noJoin noLeave direct =>
      obtain rfl := Room.eq_of_stored present
      refine ⟨_, rfl, .of_upgrade (fun otherId other listed => ?_)
        (fun settled _ => by simpa using settled) (by simp)⟩
      obtain ⟨former, before, same⟩ := Room.promoteSurvivor_members _ _ listed
      simp only [Room.eraseMember] at before
      grind
  | expireMembers now direct =>
      obtain rfl := Room.eq_of_stored present
      refine ⟨_, rfl, .of_upgrade (fun otherId other listed => ?_)
        (fun settled _ => by simpa using settled) (by simp)⟩
      obtain ⟨former, before, -, same⟩ := Room.expireMembers_members _ _ listed
      grind
  | reportFailure | refuseSync =>
      cases present
      exact ⟨_, rfl, .of_upgrade (fun _ member found => ⟨member, found, rfl⟩)
        (by simp) (Or.inl rfl)⟩
  | advanceUpgrade requestId upgrading unfinished =>
      rename_i room upgrade clientId
      cases present
      refine ⟨room, rfl, fun _ member found => ⟨member, found, rfl⟩,
        fun _ idle => ?_, fun later flying => ?_⟩
      · simp [upgrading] at idle
      · cases flying
        exact ⟨upgrade, upgrading, rfl, Nat.le_succ _⟩
  | commitUpgrade requestId upgrading finished =>
      rename_i room upgrade clientId
      cases present
      refine ⟨room, rfl, .of_upgrade (fun otherId other listed => ?_)
        (fun _ idle => ?_) (Or.inr rfl)⟩
      · simp only [Room.commitSfu, Room.advanceUpgrade, ExtTreeMap.getElem?_map,
          Option.map_eq_some_iff] at listed
        grind
      · simp [upgrading] at idle
  | abortUpgrade | expireUpgrade =>
      cases present
      refine ⟨_, rfl, .of_upgrade (fun otherId other listed => ?_)
        (by simp [Room.release, Room.rollBack]) (Or.inr rfl)⟩
      simp only [Room.release, Room.rollBack, Room.eraseMember] at listed
      grind
  | refuseJoin requestId joining =>
      cases present
      refine ⟨_, rfl, .of_upgrade (fun otherId other listed => ?_)
        (fun direct _ => direct) (Or.inl rfl)⟩
      simp only [Room.eraseMember] at listed
      grind
  | completeLeave requestId deadline leaving armed =>
      obtain rfl := Room.eq_of_stored present
      refine ⟨_, rfl, .of_upgrade (fun otherId other listed => ?_)
        (fun direct _ => direct) (Or.inl rfl)⟩
      simp only [Room.afterLeave, Room.eraseMember] at listed
      grind
  | expireRoom instanceId unready =>
      rename_i room
      cases present
      refine ⟨_, rfl, .of_upgrade (fun otherId other listed => ?_)
        (by simp [Room.fail]) (Or.inl rfl)⟩
      simp only [Room.fail] at listed
      split at listed
      · exact ⟨other, listed, rfl⟩
      · grind
  | downgrade forwarded small noJoin noLeave clients =>
      cases present
      refine ⟨_, rfl, .of_upgrade (fun otherId other listed => ?_)
        (by simp [Room.commitP2p]) (Or.inl rfl)⟩
      simp only [Room.commitP2p, ExtTreeMap.getElem?_map] at listed
      grind
  | rearmGrace deadline found unregistered forwarded =>
      cases present
      refine ⟨_, rfl, .of_upgrade (fun otherId other listed => ?_)
        (fun direct _ => direct) (Or.inl rfl)⟩
      simp only [Room.modifyMember] at listed
      grind

/-- A member's lifecycle id is one that has just been given out. -/
def Member.Enrolled
    (member : Member)
    (table after : RoomTable)
    (roomId : RoomId)
    (clientId : ClientId) : Prop :=
  table.allocated roomId clientId < member.lifecycleId ∧
    member.lifecycleId = after.allocated roomId clientId

/-- What a move makes of a room's memberships: it continues them, gives all of
them new lifecycle ids, or adds one member. -/
inductive Enrolment
    (table after : RoomTable)
    (roomId : RoomId)
    (room : Room) : Prop
  | livesOn
      (former : Room)
      (found : table.rooms[roomId]? = some former)
      (continued : former.LivesOn room)
  | relived
      (members : ∀ (clientId : ClientId) (member : Member),
        room.members[clientId]? = some member ->
          member.Enrolled table after roomId clientId)
  | added
      (former : Room)
      (joined : ClientId)
      (found : table.rooms[roomId]? = some former)
      (mode : room.mode = former.mode)
      (upgrade : room.upgrade = former.upgrade)
      (members : ∀ (clientId : ClientId) (member : Member),
        room.members[clientId]? = some member ->
          clientId = joined ∧ member.Enrolled table after roomId clientId ∨
            former.members[clientId]? = some member)

/-- Lifecycle ids ascend along every move, and each room's memberships are
continued or enrolled. -/
theorem Moved.enrolment
    {phase phase' : Option InstanceId}
    {table table' : RoomTable}
    {move : Move}
    (taken : Moved phase table move phase' table')
    (wellFormed : table.WellFormed)
    (unexhausted : table'.Unexhausted) :
    (∀ roomId clientId,
      table.allocated roomId clientId ≤ table'.allocated roomId clientId) ∧
    ∀ roomId room, table'.rooms[roomId]? = some room ->
      Enrolment table table' roomId room := by
  have elsewhere {roomId otherId : RoomId} {room : Room}
      (about : move.room? = some roomId)
      (other : otherId ≠ roomId)
      (stored : table'.rooms[otherId]? = some room) :
      Enrolment table table' otherId room := by
    have same := (taken.room wellFormed otherId).elsewhere
      (by simpa [about] using Ne.symm other)
    exact .livesOn room (by rw [← same, stored]) (.refl room)
  -- The one id that an enrolment other than an upgrade gives out is new.
  have allocates {roomId : RoomId} {clientId : ClientId}
      (counters : table'.lifecycleIds =
        (table.nextLifecycle roomId clientId).2.lifecycleIds) :
      (∀ otherRoom otherId, table.allocated otherRoom otherId ≤
        table'.allocated otherRoom otherId) ∧
      table.allocated roomId clientId <
        (table.nextLifecycle roomId clientId).1 ∧
      (table.nextLifecycle roomId clientId).1 =
        table'.allocated roomId clientId := by
    have same (otherRoom : RoomId) (otherId : ClientId) :
        (table.nextLifecycle roomId clientId).2.allocated otherRoom otherId =
          table'.allocated otherRoom otherId := by
      simp only [allocated, counters]
    have value : (table.nextLifecycle roomId clientId).1 =
        table'.allocated roomId clientId := by
      rw [← same, allocated_nextLifecycle, if_pos ⟨rfl, rfl⟩]
    refine ⟨fun otherRoom otherId => ?_, ?_, value⟩
    · have ascends := table.allocated_le_nextLifecycle roomId otherRoom clientId
        otherId
      rw [same] at ascends
      exact ascends (unexhausted otherRoom otherId)
    · exact table.nextLifecycle_fresh roomId clientId
        (value ▸ unexhausted roomId clientId)
  by_cases settled : move.Enrols
  · cases taken with
    | create clientId now token absent =>
        rename_i roomId
        obtain ⟨ascends, fresh, last⟩ := @allocates roomId clientId rfl
        refine ⟨ascends, fun otherRoom room stored => ?_⟩
        by_cases same : otherRoom = roomId
        · subst same
          simp only [setRoom_rooms, ExtTreeMap.getElem?_insert_self,
            Option.some.injEq] at stored
          refine .relived fun otherId member found => ?_
          simp only [← stored, Room.create] at found
          obtain rfl : otherId = clientId := by grind
          simp only [ExtTreeMap.getElem?_insert_self, Option.some.injEq] at found
          subst found
          exact ⟨fresh, last⟩
        · exact elsewhere rfl same stored
    | joinDirect now token found vacant direct space =>
        rename_i roomId former clientId
        obtain ⟨ascends, fresh, last⟩ := @allocates roomId clientId rfl
        refine ⟨ascends, fun otherRoom room stored => ?_⟩
        by_cases same : otherRoom = roomId
        · subst same
          simp only [setRoom_rooms, ExtTreeMap.getElem?_insert_self,
            Option.some.injEq] at stored
          subst stored
          refine .added former clientId found rfl rfl
            fun otherId member listed => ?_
          simp only [Room.insertMember] at listed
          by_cases joined : otherId = clientId
          · subst joined
            simp only [ExtTreeMap.getElem?_insert_self, Option.some.injEq]
              at listed
            subst listed
            exact Or.inl ⟨rfl, fresh, last⟩
          · exact Or.inr (by grind)
        · exact elsewhere rfl same stored
    | beginUpgrade authorityRequestId now token found vacant direct full
        selected =>
        rename_i roomId former clientId instanceId
        obtain ⟨ascends, relived⟩ := @beginUpgrade_relived table
          former authorityRequestId now roomId clientId token instanceId
        refine ⟨fun otherRoom otherId =>
          ascends otherRoom otherId (unexhausted otherRoom otherId),
          fun otherRoom room stored => ?_⟩
        by_cases same : otherRoom = roomId
        · subst same
          refine .relived fun otherId member listed => ?_
          obtain ⟨last, fresh⟩ := relived otherId member
            (by simp [member?, stored, listed]) (unexhausted otherRoom otherId)
          exact ⟨last ▸ fresh, last⟩
        · exact elsewhere rfl same stored
    | beginJoin authorityRequestId now token found vacant forwarded noJoin noLeave
        assigned connected =>
        rename_i roomId former clientId instanceId connectionId
        obtain ⟨ascends, fresh, last⟩ := @allocates roomId clientId rfl
        refine ⟨ascends, fun otherRoom room stored => ?_⟩
        by_cases same : otherRoom = roomId
        · subst same
          simp only [issueCommand_rooms, setRoom_rooms,
            ExtTreeMap.getElem?_insert_self, Option.some.injEq] at stored
          subst stored
          refine .added former clientId found rfl rfl
            fun otherId member listed => ?_
          simp only [Room.insertMember] at listed
          by_cases joined : otherId = clientId
          · subst joined
            simp only [ExtTreeMap.getElem?_insert_self, Option.some.injEq]
              at listed
            subst listed
            exact Or.inl ⟨rfl, fresh, last⟩
          · exact Or.inr (by grind)
        · exact elsewhere rfl same stored
    | _ => cases settled
  · have kept := taken.lifecycleIds_kept wellFormed settled
    refine ⟨fun _ _ => by simp [allocated, kept], fun roomId room stored => ?_⟩
    obtain ⟨former, found, continued⟩ :=
      (taken.room wellFormed roomId).livesOn settled stored
    exact .livesOn former found continued

/-- A membership of a client in an SFU room. -/
structure Membership where
  roomId : RoomId
  clientId : ClientId
  lifecycleId : Nat
  deriving DecidableEq

/-- The membership that a worker is asked to join. -/
def Action.join? : Action -> Option Membership
  | .sfu (.command _ ⟨_, .join join⟩) =>
      some ⟨join.roomId, join.clientId, join.lifecycleId⟩
  | _ => none

/-- The memberships that actions ask workers to join. -/
def joins (actions : List Action) : List Membership :=
  actions.filterMap Action.join?

@[simp] theorem joins_append (earlier later : List Action) :
    joins (earlier ++ later) = joins earlier ++ joins later :=
  List.filterMap_append

theorem joins_of_none
    {actions : List Action}
    (silent : ∀ action ∈ actions, action.join? = none) :
    joins actions = [] :=
  List.filterMap_eq_nil_iff.2 silent

theorem Action.Notice.join?
    {action : Action}
    (notice : action.Notice) :
    action.join? = none := by
  unfold Action.join?
  split
  · exact notice.elim
  · rfl

/-- The membership that a move asks for: a member who has just been enrolled in
an SFU room, or the next one of an upgrade. -/
inductive Asks
    (table after : RoomTable)
    (membership : Membership)
    (room : Room)
    (member : Member) : Prop
  | joining
      (idle : room.upgrade = none)
      (enrolled : member.Enrolled table after membership.roomId
        membership.clientId)
  | begun
      (upgrade : Upgrade)
      (upgrading : room.upgrade = some upgrade)
      (next : upgrade.orderedClients[upgrade.nextClient]? =
        some membership.clientId)
      (enrolled : member.Enrolled table after membership.roomId
        membership.clientId)
  | advanced
      (former : Room)
      (earlier upgrade : Upgrade)
      (found : table.rooms[membership.roomId]? = some former)
      (before : former.upgrade = some earlier)
      (upgrading : room.upgrade = some upgrade)
      (next : upgrade.orderedClients[upgrade.nextClient]? =
        some membership.clientId)
      (ordered : upgrade.orderedClients = earlier.orderedClients)
      (later : earlier.nextClient < upgrade.nextClient)
      (members : room.members = former.members)

/-- What a move appends to the queue asks for at most one join. -/
def AsksOnce
    (table after : RoomTable)
    (actions : List Action) : Prop :=
  joins actions = [] ∨ ∃ membership room member,
    joins actions = [membership] ∧
    after.rooms[membership.roomId]? = some room ∧
    room.members[membership.clientId]? = some member ∧
    member.lifecycleId = membership.lifecycleId ∧
    Asks table after membership room member

theorem joins_removalActions
    (leave : PendingLeave)
    (roomId : RoomId)
    (clientId : ClientId)
    (result : Except String Unit) :
    joins (removalActions leave roomId clientId result) = [] := by
  unfold removalActions
  split <;> rfl

theorem joins_expiryActions
    (order : VisitOrder)
    (roomId : RoomId)
    (room : Room) :
    joins (expiryActions order roomId room) = [] := by
  unfold expiryActions
  rw [joins_append, joins_append]
  simp only [List.append_eq_nil_iff]
  refine ⟨⟨?_, ?_⟩, rfl⟩
  · split <;> rfl
  · split
    · rfl
    · exact joins_removalActions ..

/-- A failing room is announced, and nobody joins. -/
theorem joins_failRoom
    (table : RoomTable)
    (order : VisitOrder)
    (roomId : RoomId)
    (reason : String) :
    ∃ new, (table.failRoom order roomId reason).actions =
      table.actions ++ new ∧ joins new = [] := by
  unfold RoomTable.failRoom
  split
  · exact ⟨[], by simp, rfl⟩
  · exact ⟨[_], rfl, rfl⟩

/-- The release of a room asks for leaves only. -/
theorem RoomTable.Released.joins
    {table after : RoomTable}
    {roomId : RoomId}
    {instanceId : InstanceId}
    {assignmentEpoch count : Nat}
    {room : Room}
    {leavers : List ClientId}
    {answers actions : List Action}
    (release : table.Released roomId instanceId assignmentEpoch count room
      leavers answers after)
    (silent : V2.joins answers = [])
    (appended : after.actions = table.actions ++ actions) :
    V2.joins actions = [] := by
  obtain ⟨leaves, queued, commands, -⟩ := release.actions
  rw [queued, List.append_assoc] at appended
  rw [← List.append_cancel_left appended, joins_append, silent, List.append_nil]
  refine joins_of_none fun action present => ?_
  obtain ⟨_, _, _, -, rfl⟩ := commands action present
  rfl

namespace AsksOnce

variable
  {table : RoomTable}
  {actions : List Action}
  {roomId : RoomId}
  {room : Room}
  {clientId : ClientId}
  {instanceId : InstanceId}

/-- An upgrade asks for the join of its first client. -/
theorem beginUpgrade
    {authorityRequestId : Nat}
    {now : Instant}
    {token : String}
    (unexhausted : (table.beginUpgrade authorityRequestId now roomId room clientId
      token instanceId).2.Unexhausted)
    (vacant : room.members.contains clientId = false)
    (full : ¬room.members.size < maxP2pMembers)
    (selected : table.selectWorker 3 = some instanceId)
    (appended : (table.beginUpgrade authorityRequestId now roomId room clientId
      token instanceId).2.actions = table.actions ++ actions) :
    AsksOnce table (table.beginUpgrade authorityRequestId now roomId room clientId
      token instanceId).2 actions := by
  obtain ⟨-, relived⟩ := @beginUpgrade_relived table room authorityRequestId
    now roomId clientId token instanceId
  obtain ⟨lifecycle, counters, lifecycleId, first, joining, connectionId,
    head, present, connected, begun⟩ := beginUpgrade_eq authorityRequestId
      now token roomId vacant full selected
  refine Or.inr ⟨⟨roomId, first, joining.lifecycleId⟩, _, joining, ?_,
    by rw [begun]; exact ExtTreeMap.getElem?_insert_self, present, rfl,
    .begun _ rfl head ?_⟩
  · rw [begun, issueCommand_actions] at appended
    rw [← List.append_cancel_left appended]
    rfl
  · obtain ⟨last, fresh⟩ := relived first joining
      (by rw [begun]; simp [member?, present]) (unexhausted roomId first)
    exact ⟨last ▸ fresh, last⟩

/-- A confirmed join of an upgrade asks for the next one, or for none. -/
theorem advanceUpgrade
    {requestId : Nat}
    {upgrade : Upgrade}
    (found : table.rooms[roomId]? = some room)
    (upgrading : room.upgrade = some upgrade)
    (appended : (((table.retireCommand requestId).setRoom roomId
      (room.advanceUpgrade upgrade clientId)).issueNextUpgradeJoin
        roomId).2.actions = table.actions ++ actions) :
    AsksOnce table (((table.retireCommand requestId).setRoom roomId
      (room.advanceUpgrade upgrade clientId)).issueNextUpgradeJoin roomId).2
      actions := by
  rcases issueNextUpgradeJoin_cases
    ((table.retireCommand requestId).setRoom roomId
      (room.advanceUpgrade upgrade clientId)) roomId with ⟨error, same⟩ |
    ⟨stored, advanced, nextId, member, carrier, connection, present, running,
      next, listed, -, -, issued⟩
  · rw [same] at appended
    exact Or.inl (by rw [List.self_eq_append_right.1 appended]; rfl)
  · simp only [setRoom_rooms, ExtTreeMap.getElem?_insert_self,
      Option.some.injEq] at present
    subst present
    refine Or.inr ⟨⟨roomId, nextId, member.lifecycleId⟩,
      room.advanceUpgrade upgrade clientId, member, ?_, ?_, listed, rfl,
      .advanced room upgrade advanced found upgrading running next ?_ ?_ rfl⟩
    · rw [issued, issueCommand_actions] at appended
      rw [← List.append_cancel_left appended]
      rfl
    · rw [issued]
      exact ExtTreeMap.getElem?_insert_self
    · cases running
      rfl
    · cases running
      exact Nat.lt_succ_self _

end AsksOnce

/-- A move asks for at most one join, apart from replays. -/
theorem Moved.joins
    {phase phase' : Option InstanceId}
    {table table' : RoomTable}
    {move : Move}
    {actions : List Action}
    (taken : Moved phase table move phase' table')
    (wellFormed : table.WellFormed)
    (unexhausted : table'.Unexhausted)
    (original : ∀ requestId pending, move = .answer requestId ->
      table.pendingCommands[requestId]? = some pending ->
      pending.isSync = false)
    (appended : table'.actions = table.actions ++ actions) :
    AsksOnce table table' actions := by
  have only (new : List Action)
      (same : table'.actions = table.actions ++ new) : actions = new :=
    List.append_cancel_left (appended.symm.trans same)
  have nothing (same : table'.actions = table.actions) :
      V2.joins actions = [] := by
    rw [only [] (by simp [same])]
    rfl
  cases taken with
  | create | joinDirect | register | dropWithGrace | queueMessage
  | disconnectWorker | clearDeadline | rearmGrace | setDwell | beginExpiry =>
      exact Or.inl (nothing rfl)
  | removeFailed | removeDirect | expireMembers =>
      refine Or.inl (nothing ?_)
      unfold RoomTable.setOrDropRoom
      split <;> rfl
  | beginUpgrade authorityRequestId now token found vacant direct full selected =>
      exact .beginUpgrade unexhausted vacant full selected appended
  | beginJoin authorityRequestId now token found vacant forwarded noJoin noLeave
      assigned connected =>
      rename_i roomId room clientId instanceId connectionId
      have idle : room.upgrade = none :=
        ((wellFormed.rooms roomId room found).forwarded forwarded).2
      refine Or.inr ⟨⟨roomId, clientId, (table.nextLifecycle roomId clientId).1⟩,
        _, _, ?_, ExtTreeMap.getElem?_insert_self,
        ExtTreeMap.getElem?_insert_self, rfl, .joining idle ⟨?_, ?_⟩⟩
      · rw [only _ (issueCommand_actions ..)]
        rfl
      · have counted := table.allocated_nextLifecycle roomId roomId clientId
          clientId
        rw [if_pos ⟨rfl, rfl⟩] at counted
        exact table.nextLifecycle_fresh roomId clientId
          (counted ▸ unexhausted roomId clientId)
      · have counted := table.allocated_nextLifecycle roomId roomId clientId
          clientId
        rw [if_pos ⟨rfl, rfl⟩] at counted
        exact counted.symm
  | dropWithLeave | forwardSignal | requestLeave | retryLeave =>
      refine Or.inl ?_
      rw [only _ (issueCommand_actions ..)]
      rfl
  | connectWorker connectionId capacity new notices =>
      refine Or.inl ?_
      rw [only new (by simp [RoomTable.connectWorker])]
      exact joins_of_none fun action present => (notices action present).join?
  | syncRoom order found listed connected =>
      refine Or.inl ?_
      rw [only _ (by
        simp only [syncAssignedRoom, found]
        exact issueCommand_actions ..)]
      rfl
  | noteEvent update new keepsConnection keepsDeadline keepsRooms keepsClients
      notices =>
      refine Or.inl ?_
      rw [only new (by simp)]
      exact joins_of_none fun action present => (notices action present).join?
  | reportFailure requestId order reason ack known notice =>
      rename_i instanceId worker roomId
      obtain ⟨new, announced, silent⟩ := joins_failRoom
        (table.modifyWorker instanceId (Worker.remember · requestId)) order roomId
          reason
      refine Or.inl ?_
      rw [only (new ++ [ack]) (by
        simp only [pushAction_actions, announced, modifyWorker_actions,
          List.append_assoc]), joins_append, silent]
      simp [V2.joins, notice.join?]
  | push action notice =>
      refine Or.inl ?_
      rw [only _ (pushAction_actions ..)]
      simp [V2.joins, notice.join?]
  | answer new outstanding idle replays =>
      refine Or.inl ?_
      rcases replays with rfl | ⟨_, _, _, _, _, rfl, -, -⟩
      · exact nothing (by simp)
      · have wrong := original _ _ rfl outstanding
        simp [PendingCommand.isSync] at wrong
  | refuseSync order outstanding =>
      rename_i requestId instanceId roomId assignmentEpoch replay
      obtain ⟨new, announced, silent⟩ := joins_failRoom
        (table.retireCommand requestId) order roomId "WORKER_UNAVAILABLE"
      refine Or.inl ?_
      rw [only new announced]
      exact silent
  | advanceUpgrade outstanding connected found upgrading unfinished =>
      exact .advanceUpgrade found upgrading appended
  | commitUpgrade order outstanding connected found upgrading finished =>
      rename_i requestId instanceId roomId clientId lifecycleId
        assignmentEpoch room upgrade connectionId
      have commit := commitUpgrade_eq order (room.advanceUpgrade upgrade clientId)
        (show ((table.retireCommand requestId).setRoom roomId
          (room.advanceUpgrade upgrade clientId)).rooms[roomId]? = _ by simp) rfl
      refine Or.inl ?_
      split at commit
      · exact nothing (by rw [commit]; rfl)
      · rw [only _ (by rw [commit]; exact pushActions_actions ..)]
        rfl
  | abortUpgrade reason outstanding found upgrading =>
      rename_i requestId instanceId roomId clientId lifecycleId
        assignmentEpoch room upgrade
      obtain ⟨carrier, carried⟩ := Option.isSome_iff_exists.1
        ((wellFormed.rooms roomId room found).upgrade upgrade upgrading).2.2.1
      obtain ⟨leavers, answers, release, answered, -⟩ := abortUpgrade_released
        (table.retireCommand requestId) reason found upgrading carried
      refine Or.inl (release.joins ?_ appended)
      rcases answered with rfl | rfl <;> rfl
  | completeJoin outstanding found joining =>
      rename_i requestId instanceId roomId clientId lifecycleId
        assignmentEpoch room pendingJoin
      have complete := completeJoin_eq (table.retireCommand requestId) instanceId
        roomId room clientId pendingJoin
      refine Or.inl ?_
      split at complete
      · exact nothing (by rw [complete]; rfl)
      · rw [only _ (by rw [complete]; exact pushAction_actions ..)]
        rfl
  | refuseJoin =>
      refine Or.inl ?_
      rw [only _ (pushAction_actions ..)]
      rfl
  | completeLeave now outstanding found leaving =>
      rename_i requestId instanceId roomId clientId lifecycleId
        assignmentEpoch room pendingLeave
      obtain ⟨deadline, -, complete⟩ := completeLeave_eq
        (table.retireCommand requestId) instanceId roomId room clientId
          pendingLeave now
      refine Or.inl ?_
      rw [only (removalActions pendingLeave roomId clientId (.ok ())) (by
        rw [complete]
        split <;> simp)]
      exact joins_removalActions ..
  | refuseLeave reason outstanding found leaving =>
      rename_i requestId instanceId roomId clientId lifecycleId
        assignmentEpoch room pendingLeave
      refine Or.inl ?_
      rw [only (removalActions pendingLeave roomId clientId (.error reason))
        (by
          rw [removalAnswer_eq]
          simp)]
      exact joins_removalActions ..
  | expireUpgrade waits listed found upgrading =>
      rename_i instanceId roomId room
      obtain ⟨upgrade, running, -⟩ :=
        (wellFormed.rooms roomId room found).upgrading upgrading
      obtain ⟨carrier, carried⟩ := Option.isSome_iff_exists.1
        ((wellFormed.rooms roomId room found).upgrade upgrade running).2.2.1
      obtain ⟨leavers, answers, release, answered, -⟩ :=
        abortUpgrade_released table "WORKER_UNAVAILABLE" found running carried
      refine Or.inl (release.joins ?_ appended)
      rcases answered with rfl | rfl <;> rfl
  | expireRoom order waits listed found settled =>
      rename_i instanceId roomId room
      refine Or.inl ?_
      rw [only (expiryActions order roomId room) (pushActions_actions ..)]
      exact joins_expiryActions ..
  | endExpiry waits settled => exact Or.inl (nothing (by simp [releaseWorker]))
  | downgrade order eligible =>
      obtain ⟨room, instanceId, initiatorClientId, others, found, forwarded,
        small, noJoin, noLeave, carried, clients⟩ :=
          wellFormed.eligible eligible
      exact Or.inl ((commitDowngrade_released order found carried
        clients).joins rfl appended)
  | pollAction =>
      refine Or.inl (nothing ?_)
      unfold RoomTable.pollAction at appended ⊢
      split at appended
      · simp_all
      · rename_i queued
        have lengths := congrArg List.length appended
        simp only [queued, List.length_append, List.length_cons] at lengths
        omega

/-- The memberships that workers have been asked to join so far: their lifecycle
ids have been given out, no membership is asked for twice, and those that an
upgrade has yet to ask for are new. -/
structure JoinsOnce
    (asked : List Membership)
    (table : RoomTable) : Prop where
  counted : ∀ membership ∈ asked, membership.lifecycleId ≤
    table.allocated membership.roomId membership.clientId
  enrolled : ∀ roomId clientId member,
    table.member? roomId clientId = some member ->
    member.lifecycleId ≤ table.allocated roomId clientId
  distinct : asked.Nodup
  awaited : ∀ (roomId : RoomId) (room : Room) (upgrade : Upgrade) (index : Nat)
    (clientId : ClientId) (member : Member),
    table.rooms[roomId]? = some room -> room.upgrade = some upgrade ->
    upgrade.nextClient < index ->
    upgrade.orderedClients[index]? = some clientId ->
    room.members[clientId]? = some member ->
    ⟨roomId, clientId, member.lifecycleId⟩ ∉ asked

namespace JoinsOnce

variable
  {asked : List Membership}
  {table table' : RoomTable}

/-- The rules of the memberships carry over a move that asks for nothing. -/
theorem moved
    {phase phase' : Option InstanceId}
    {move : Move}
    (once : JoinsOnce asked table)
    (taken : Moved phase table move phase' table')
    (wellFormed : table.WellFormed)
    (unexhausted : table'.Unexhausted) :
    JoinsOnce asked table' := by
  obtain ⟨ascends, enrolment⟩ := taken.enrolment wellFormed unexhausted
  have fresh {roomId : RoomId} {clientId : ClientId} {member : Member}
      (new : member.Enrolled table table' roomId clientId) :
      ⟨roomId, clientId, member.lifecycleId⟩ ∉ asked := fun listed =>
    absurd (once.counted _ listed) (Nat.not_le.2 new.1)
  refine
    { counted := fun membership listed =>
        (once.counted membership listed).trans (ascends _ _)
      enrolled := fun roomId clientId member found => ?_
      distinct := once.distinct
      awaited := fun roomId room upgrade index clientId member stored upgrading
        later next listed => ?_ }
  · obtain ⟨room, stored, listed⟩ := Option.bind_eq_some_iff.1 found
    have old {former : Room} {earlier : Member}
        (before : table.rooms[roomId]? = some former)
        (present : former.members[clientId]? = some earlier) :
        earlier.lifecycleId ≤ table'.allocated roomId clientId :=
      (once.enrolled roomId clientId earlier
        (by simp [member?, before, present])).trans (ascends _ _)
    rcases enrolment roomId room stored with ⟨former, before, continued⟩ |
      ⟨members⟩ | ⟨former, joined, before, -, -, members⟩
    · obtain ⟨earlier, present, same⟩ := continued.members clientId member listed
      exact same ▸ old before present
    · exact (members clientId member listed).2.le
    · rcases members clientId member listed with ⟨-, new⟩ | present
      · exact new.2.le
      · exact old before present
  · rcases enrolment roomId room stored with ⟨former, before, continued⟩ |
      ⟨members⟩ | ⟨former, joined, before, -, same, members⟩
    · obtain ⟨earlier, present, lifecycle⟩ :=
        continued.members clientId member listed
      obtain ⟨running, flying, ordered, reached⟩ :=
        continued.upgrade upgrade upgrading
      rw [← lifecycle]
      exact once.awaited roomId former running index clientId earlier before
        flying (reached.trans_lt later) (by rw [← ordered, next]) present
    · exact fresh (members clientId member listed)
    · rcases members clientId member listed with ⟨-, new⟩ | present
      · exact fresh new
      · exact once.awaited roomId former upgrade index clientId member before
          (by rw [← same, upgrading]) later next present

/-- A join that a move asks for is none of the earlier ones. -/
theorem asks
    {phase phase' : Option InstanceId}
    {move : Move}
    {membership : Membership}
    {room : Room}
    {member : Member}
    (once : JoinsOnce asked table)
    (taken : Moved phase table move phase' table')
    (wellFormed : table.WellFormed)
    (unexhausted : table'.Unexhausted)
    (stored : table'.rooms[membership.roomId]? = some room)
    (listed : room.members[membership.clientId]? = some member)
    (lifecycle : member.lifecycleId = membership.lifecycleId)
    (asks : Asks table table' membership room member) :
    JoinsOnce (asked ++ [membership]) table' := by
  have kept := once.moved taken wellFormed unexhausted
  have new : membership ∉ asked := by
    have enrolled (new : member.Enrolled table table' membership.roomId
        membership.clientId) : membership ∉ asked := fun present =>
      absurd (once.counted _ present) (Nat.not_le.2 (lifecycle ▸ new.1))
    cases asks with
    | joining idle new => exact enrolled new
    | begun upgrade upgrading next new => exact enrolled new
    | advanced former earlier upgrade found before upgrading next ordered later
        members =>
        have waits := once.awaited membership.roomId former earlier
          upgrade.nextClient membership.clientId member found before later
          (by rw [← ordered, next]) (by rw [← members, listed])
        rwa [lifecycle] at waits
  refine
    { counted := fun other present => ?_
      enrolled := kept.enrolled
      distinct := ?_
      awaited := fun roomId other upgrade index clientId otherMember found
        upgrading later next present => ?_ }
  · rcases List.mem_append.1 present with earlier | last
    · exact kept.counted other earlier
    · rw [List.mem_singleton.1 last, ← lifecycle]
      exact kept.enrolled _ _ member (by simp [member?, stored, listed])
  · exact List.nodup_append.2 ⟨once.distinct, by simp, by
      rintro _ earlier _ last rfl
      exact new (List.mem_singleton.1 last ▸ earlier)⟩
  · have waits := kept.awaited roomId other upgrade index clientId otherMember
      found upgrading later next present
    -- The join asked for now is the one before every awaited one.
    have different : (⟨roomId, clientId, otherMember.lifecycleId⟩ : Membership) ≠
        membership := by
      rintro rfl
      rw [stored] at found
      cases found
      have distinct := (((WellFormed.moved taken wellFormed).rooms roomId room
        stored).upgrade upgrade upgrading).1.distinct
      have twice (same : upgrade.orderedClients[upgrade.nextClient]? =
          some clientId) : False := by
        have equal := (List.getElem?_inj (by grind) distinct).1
          (next.trans same.symm)
        omega
      cases asks with
      | joining idle => simp [idle] at upgrading
      | begun running flying here =>
          rw [flying] at upgrading
          cases upgrading
          exact twice here
      | advanced former earlier running found before flying here =>
          rw [flying] at upgrading
          cases upgrading
          exact twice here
    simp [waits, different]

end JoinsOnce

/-- The memberships that a call newly asks workers to join. The answer to a
synchronization only repeats earlier commands. -/
def RoomTable.newJoins
    (table : RoomTable)
    (call : Call) : List Membership :=
  if (call.answered? table).any PendingCommand.isSync then []
  else joins (table.emitted call)

/-- The memberships that the calls of a history have asked workers to join,
oldest first. -/
def asked : History -> List Membership
  | [] => []
  | (table, call) :: older => asked older ++ table.newJoins call

namespace RoomTable.Consistent

variable
  {table : RoomTable}
  {call : Call}
  {earlier : List Membership}

/-- Lifecycle ids ascend along every call. -/
theorem ascends
    (consistent : table.Consistent)
    (unexhausted : (table.step call).Unexhausted)
    (roomId : RoomId)
    (clientId : ClientId) :
    table.allocated roomId clientId ≤
      (table.step call).allocated roomId clientId := by
  refine consistent.step_invariant (fun _ middle => middle.Unexhausted ->
    table.allocated roomId clientId ≤ middle.allocated roomId clientId)
    (fun phase middle move phase' next taken _ sound kept unexhausted => ?_)
    (fun _ => le_rfl) unexhausted
  obtain ⟨ascends, -⟩ := taken.enrolment sound.wellFormed unexhausted
  exact (kept fun someRoom someId =>
    (ascends someRoom someId).trans_lt (unexhausted someRoom someId)).trans
      (ascends roomId clientId)

theorem unexhausted_of_step
    (consistent : table.Consistent)
    (unexhausted : (table.step call).Unexhausted) :
    table.Unexhausted := fun roomId clientId =>
  (consistent.ascends unexhausted roomId clientId).trans_lt
    (unexhausted roomId clientId)

/-- A call keeps the rules for the memberships asked for before it. -/
theorem joinsOnce_kept
    (consistent : table.Consistent)
    (once : JoinsOnce earlier table)
    (unexhausted : (table.step call).Unexhausted) :
    JoinsOnce earlier (table.step call) := by
  refine consistent.step_invariant (fun _ middle => middle.Unexhausted ->
    JoinsOnce earlier middle)
    (fun phase middle move phase' next taken _ sound kept unexhausted => ?_)
    (fun _ => once) unexhausted
  obtain ⟨ascends, -⟩ := taken.enrolment sound.wellFormed unexhausted
  exact (kept fun someRoom someId => (ascends someRoom someId).trans_lt
    (unexhausted someRoom someId)).moved taken sound.wellFormed unexhausted

/-- The joins of a call that answers no synchronization are new. -/
theorem joinsOnce_emitted
    (consistent : table.Consistent)
    (once : JoinsOnce earlier table)
    (unexhausted : (table.step call).Unexhausted)
    (original : (call.answered? table).any PendingCommand.isSync = false)
    (appends : call.operation ≠ .pollAction) :
    JoinsOnce (earlier ++ joins (table.emitted call)) (table.step call) := by
  obtain ⟨new, appended, kept⟩ := @step_invariant table call
    (fun _ middle => ∃ new : List Action,
      middle.actions = table.actions ++ new ∧
        (middle.Unexhausted -> JoinsOnce (earlier ++ joins new) middle))
    consistent (fun phase middle move phase' next taken arises sound before => by
      obtain ⟨new, appended, kept⟩ := before
      obtain ⟨actions, emitted, -⟩ := taken.emits sound.wellFormed
        (by
          rintro rfl
          exact appends arises.2)
      refine ⟨new ++ actions,
        by rw [emitted, appended, List.append_assoc], fun unexhausted => ?_⟩
      obtain ⟨ascends, -⟩ := taken.enrolment sound.wellFormed unexhausted
      have once := kept fun someRoom someId =>
        (ascends someRoom someId).trans_lt (unexhausted someRoom someId)
      have first (requestId : Nat) (pending : PendingCommand)
          (same : move = .answer requestId)
          (outstanding : middle.pendingCommands[requestId]? = some pending) :
          pending.isSync = false := by
        subst same
        obtain ⟨rfl, instanceId, recorded, result, answers⟩ := arises
        obtain rfl := answers.recorded outstanding
        simpa [answers.answered?] using original
      rw [joins_append, ← List.append_assoc]
      rcases taken.joins sound.wellFormed unexhausted first emitted with silent |
          ⟨membership, room, member, asks, stored, listed, lifecycle, asked⟩
      · rw [silent, List.append_nil]
        exact once.moved taken sound.wellFormed unexhausted
      · rw [asks]
        exact once.asks taken sound.wellFormed unexhausted stored listed lifecycle
          asked)
    ⟨[], by simp, fun _ => by simpa [joins] using once⟩
  have emitted : table.emitted call = new := by
    unfold RoomTable.emitted
    split
    · contradiction
    · rw [appended, List.drop_left]
  exact emitted ▸ kept unexhausted

/-- A call asks for no membership twice. -/
theorem joinsOnce
    (consistent : table.Consistent)
    (once : JoinsOnce earlier table)
    (unexhausted : (table.step call).Unexhausted) :
    JoinsOnce (earlier ++ table.newJoins call) (table.step call) := by
  unfold RoomTable.newJoins
  split
  · rw [List.append_nil]
    exact consistent.joinsOnce_kept once unexhausted
  · rename_i original
    by_cases appends : call.operation = .pollAction
    · have silent : table.emitted call = [] := by
        simp [RoomTable.emitted, appends]
      rw [silent, joins, List.filterMap_nil, List.append_nil]
      exact consistent.joinsOnce_kept once unexhausted
    · exact consistent.joinsOnce_emitted once unexhausted
        (by simpa using original) appends

end RoomTable.Consistent

/-- Along every run in which no client runs out of lifecycle ids, no membership
is asked for twice. -/
theorem joinsOnce_of_run
    {reconnectGrace : Duration}
    {history : History}
    {table : RoomTable}
    (run : (RoomTable.machine reconnectGrace).Run history table)
    (unexhausted : table.Unexhausted) :
    JoinsOnce (asked history) table := by
  have free : Machine.Guarded (fun _ _ => True) history := fun _ _ => trivial
  refine run.history_invariant (fun history table => table.Unexhausted ->
    JoinsOnce (asked history) table) (fun table starts _ => ?_)
    (fun earlier before call ran _ kept unexhausted => ?_) free unexhausted
  · obtain rfl : table = RoomTable.new reconnectGrace := starts
    exact
      { counted := by simp [asked]
        enrolled := by simp [member?]
        distinct := List.nodup_nil
        awaited := by simp }
  · have consistent := RoomTable.consistent_of_run ran
    exact consistent.joinsOnce (kept (consistent.unexhausted_of_step unexhausted))
      unexhausted

/-- The SFU membership has ended: the client has left the room, the room is gone,
or it is neither in SFU mode nor on the way there. -/
def Membership.Ended
    (membership : Membership)
    (table : RoomTable) : Prop :=
  ∀ (room : Room) (member : Member),
    table.rooms[membership.roomId]? = some room ->
    room.members[membership.clientId]? = some member ->
    member.lifecycleId = membership.lifecycleId ->
    room.mode ≠ .sfu ∧ room.upgrade = none

/-- A worker's signal that names the membership is turned into a delivery. -/
def Call.Delivers
    (call : Call)
    (table : RoomTable)
    (membership : Membership) : Prop :=
  ∃ connectionId instanceId requestId signal delivery,
    call.operation = .handleSfuInput (.event connectionId instanceId
      ⟨requestId, .signal signal⟩) ∧
    signal.roomId = membership.roomId ∧
    signal.clientId = membership.clientId ∧
    signal.lifecycleId = membership.lifecycleId ∧
    .deliver delivery ∈ table.emitted call

/-- A membership that has ended is not taken up again. -/
theorem Moved.ended
    {phase phase' : Option InstanceId}
    {table table' : RoomTable}
    {move : Move}
    {membership : Membership}
    (taken : Moved phase table move phase' table')
    (wellFormed : table.WellFormed)
    (unexhausted : table'.Unexhausted)
    (counted : membership.lifecycleId ≤
      table.allocated membership.roomId membership.clientId)
    (ended : membership.Ended table) :
    membership.Ended table' := by
  intro room member stored listed same
  obtain ⟨-, enrolment⟩ := taken.enrolment wellFormed unexhausted
  have old (new : member.Enrolled table table' membership.roomId
      membership.clientId) : False :=
    absurd counted (Nat.not_le.2 (same ▸ new.1))
  rcases enrolment _ room stored with ⟨former, before, continued⟩ | ⟨members⟩ |
    ⟨former, joined, before, mode, upgrade, members⟩
  · obtain ⟨earlier, present, lifecycle⟩ := continued.members _ member listed
    obtain ⟨settled, idle⟩ := ended former earlier before present
      (lifecycle.trans same)
    exact continued.settled settled idle
  · exact (old (members _ member listed)).elim
  · rcases members _ member listed with ⟨-, new⟩ | present
    · exact (old new).elim
    · obtain ⟨settled, idle⟩ := ended former member before present same
      exact ⟨by rwa [mode], by rwa [upgrade]⟩

/-- No signal of an ended membership is delivered. -/
theorem Membership.Ended.silent
    {membership : Membership}
    {table : RoomTable}
    (ended : membership.Ended table)
    (call : Call) :
    ¬call.Delivers table membership := by
  rintro ⟨connectionId, instanceId, requestId, signal, delivery, asked, room,
    client, lifecycle, delivered⟩
  simp only [RoomTable.emitted, asked, RoomTable.step, RoomTable.handleSfuInput,
    RoomTable.handleWorkerEvent] at delivered
  split at delivered
  · simp at delivered
  split at delivered
  · simp at delivered
  split at delivered
  · simp at delivered
  split at delivered
  · simp at delivered
  split at delivered
  · simp at delivered
  split at delivered
  · simp at delivered
  rename_i stored found _ member listed current
  simp only [Bool.or_eq_true, decide_eq_true_eq, not_or, ne_eq, not_not]
    at current
  rw [modifyWorker_rooms, room] at found
  rw [client] at listed
  exact (ended stored member found listed
    (current.2.trans lifecycle)).1 current.1.1.1

/-- A membership that has ended stays so along a call. -/
theorem RoomTable.Consistent.ended
    {table : RoomTable}
    {call : Call}
    {membership : Membership}
    (consistent : table.Consistent)
    (unexhausted : (table.step call).Unexhausted)
    (counted : membership.lifecycleId ≤
      table.allocated membership.roomId membership.clientId)
    (ended : membership.Ended table) :
    membership.lifecycleId ≤
      (table.step call).allocated membership.roomId membership.clientId ∧
      membership.Ended (table.step call) := by
  refine consistent.step_invariant (fun _ middle => middle.Unexhausted ->
    membership.lifecycleId ≤
      middle.allocated membership.roomId membership.clientId ∧
      membership.Ended middle)
    (fun phase middle move phase' next taken _ sound kept unexhausted => ?_)
    (fun _ => ⟨counted, ended⟩) unexhausted
  obtain ⟨ascends, -⟩ := taken.enrolment sound.wellFormed unexhausted
  obtain ⟨counted, ended⟩ := kept fun someRoom someId =>
    (ascends someRoom someId).trans_lt (unexhausted someRoom someId)
  exact ⟨counted.trans (ascends _ _),
    taken.ended sound.wellFormed unexhausted counted ended⟩

/-- Along every run in which no client runs out of lifecycle ids, every join that
a worker is newly asked for is for another membership, and once a membership has
ended no signal for it is delivered any more. -/
theorem ended_memberships_silent
    {reconnectGrace : Duration}
    {history : History}
    {table : RoomTable}
    (run : (RoomTable.machine reconnectGrace).Run history table)
    (unexhausted : table.Unexhausted) :
    (asked history).Nodup ∧
    ∀ (newer older : History) (ended : RoomTable) (next : Call)
      (membership : Membership),
      history = newer ++ (ended, next) :: older ->
      membership ∈ asked older -> membership.Ended ended ->
      ∀ event ∈ newer ++ [(ended, next)],
        ¬event.2.Delivers event.1 membership := by
  refine ⟨(joinsOnce_of_run run unexhausted).distinct, ?_⟩
  rintro newer older ended next membership rfl joined gone
  suffices both : (membership.lifecycleId ≤
      table.allocated membership.roomId membership.clientId ∧
        membership.Ended table) ∧
      ∀ event ∈ newer ++ [(ended, next)],
        ¬event.2.Delivers event.1 membership from both.2
  induction newer generalizing table with
  | nil =>
      cases run with
      | next _ ran =>
          have consistent := RoomTable.consistent_of_run ran
          have once := joinsOnce_of_run ran
            (consistent.unexhausted_of_step unexhausted)
          refine ⟨consistent.ended unexhausted (once.counted membership joined)
            gone, fun event present => ?_⟩
          obtain rfl := List.mem_singleton.1 present
          exact gone.silent next
  | cons event newer inductionHypothesis =>
      cases run with
      | next call ran =>
          have consistent := RoomTable.consistent_of_run ran
          obtain ⟨⟨counted, stays⟩, silent⟩ := inductionHypothesis
            (consistent.unexhausted_of_step unexhausted) ran
          refine ⟨consistent.ended unexhausted counted stays,
            fun other present => ?_⟩
          rcases List.mem_cons.1 present with rfl | earlier
          · exact stays.silent call
          · exact silent other earlier

theorem unexhausted_of_counts
    {table : RoomTable}
    (counts : table.lifecycleIds.toList.all (fun entry => entry.2 < u64Max) =
      true) :
    table.Unexhausted := by
  intro roomId clientId
  unfold RoomTable.allocated
  rw [ExtTreeMap.getD_eq_getD_getElem?]
  cases given : table.lifecycleIds[(roomId, clientId)]? with
  | none => decide
  | some value =>
      have small := List.all_eq_true.1 counts _
        (ExtTreeMap.mem_toList_iff_getElem?_eq_some.2 given)
      simpa using small

/-- The worker's signal for a client. -/
def signaled (requestId clientId lifecycleId : Nat) : Operation :=
  .handleSfuInput (.event 1 "sfu" ⟨requestId,
    .signal ⟨exampleRoomId, clientId, lifecycleId, 1, "candidate", none⟩⟩)

theorem ended_memberships_silent_left :
    ⟨exampleRoomId, 1, 2⟩ ∈ asked (RoomTable.played 0 shrunkOperations).1 ∧
      ¬Call.Delivers ⟨signaled 2 1 2, .sorted⟩
        (RoomTable.played 0 shrunkOperations).2 ⟨exampleRoomId, 1, 2⟩ := by
  have joined : ⟨exampleRoomId, 1, 2⟩ ∈
      asked (RoomTable.played 0 shrunkOperations).1 := by
    decide +kernel
  have run := (RoomTable.played_run 0 shrunkOperations).next
    ⟨signaled 2 1 2, .sorted⟩
  have counts : (RoomTable.step (RoomTable.played 0 shrunkOperations).2
      ⟨signaled 2 1 2, .sorted⟩).lifecycleIds.toList.all
        (fun entry => entry.2 < u64Max) = true := by
    decide +kernel
  refine ⟨joined, (ended_memberships_silent run (unexhausted_of_counts counts)).2 []
    _ _ _ ⟨exampleRoomId, 1, 2⟩ rfl joined (fun room member found listed => ?_) _
      List.mem_cons_self⟩
  have absent : (RoomTable.played 0 shrunkOperations).2.member? exampleRoomId
      1 = none := by
    decide +kernel
  simp [member?, found, listed] at absent

end V2
end Signaling
