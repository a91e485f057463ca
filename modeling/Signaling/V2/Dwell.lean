import Signaling.V2.Sweep

/-!
# The dwell of a small SFU room

A stable SFU room with one or two members has a deadline for its return to
P2P. Only the end of a leave sets the deadline, so that an answer which leaves a
small room stable in another way may leave it without one.
-/

namespace Signaling
namespace V2

open Std (ExtTreeMap ExtTreeSet)
open RoomTable

/-- The downgrade deadline of the room is of the given kind when the room is
eligible. -/
def Room.Dwells
    (kind : Option Instant -> Prop)
    (room : Room) : Prop :=
  room.eligible = true -> kind room.downgradeDeadline

/-- One or two members. -/
def Small (members : ExtTreeMap ClientId Member) : Prop :=
  members.isEmpty = false ∧ members.size ≤ 2

/-- The answer to the recorded command leaves the room stable and small without
the end of a leave. -/
def PendingCommand.SettlesSmall
    (pending : PendingCommand)
    (confirmed : Prop)
    (roomId : RoomId)
    (room : Room) : Prop :=
  match pending with
  | .upgradeJoin _ upgradedId _ _ _ =>
      upgradedId = roomId ∧ confirmed ∧ Small room.members ∧ ∃ upgrade,
        room.upgrade = some upgrade ∧
          upgrade.nextClient + 1 = upgrade.orderedClients.length
  | .sfuJoin _ joinedId _ _ _ =>
      joinedId = roomId ∧ room.mode = .sfu ∧ room.pendingLeave = none ∧
        ∃ join, room.pendingJoin = some join ∧
          (confirmed ∧ Small room.members ∨
            ¬confirmed ∧ Small (room.members.erase join.clientId))
  | .sfuLeave _ leftId _ _ _ =>
      leftId = roomId ∧ ¬confirmed ∧ room.mode = .sfu ∧
        room.pendingJoin = none ∧ room.pendingLeave.isSome = true ∧
          Small room.members
  | _ => False

/-- The call answers a command and leaves a small SFU room without a
deadline. -/
def Call.Unschedules
    (call : Call)
    (table : RoomTable) : Prop :=
  ∃ instanceId requestId pending result roomId room,
    call.Answers table instanceId requestId pending result ∧
    table.rooms[roomId]? = some room ∧
    room.downgradeDeadline = none ∧
    pending.SettlesSmall (pending.Confirms instanceId result) roomId room

/-- The move leaves no eligible room with a deadline of another kind. -/
def KeepsDwell
    (kind : Option Instant -> Prop)
    (roomId : RoomId)
    (room : Option Room)
    (move : Move) : Prop :=
  match move with
  | .commitUpgrade _ upgradedId => upgradedId = roomId ->
      ∀ (stored : Room) (upgrade : Upgrade),
        room = some stored -> stored.upgrade = some upgrade ->
        upgrade.nextClient + 1 = upgrade.orderedClients.length ->
        Small stored.members -> kind stored.downgradeDeadline
  | .completeJoin _ _ joinedId _ => joinedId = roomId ->
      ∀ (stored : Room) (join : PendingJoin),
        room = some stored -> stored.pendingJoin = some join ->
        stored.mode = .sfu -> stored.pendingLeave = none ->
        Small stored.members -> kind stored.downgradeDeadline
  | .refuseJoin _ joinedId => joinedId = roomId ->
      ∀ (stored : Room) (join : PendingJoin),
        room = some stored -> stored.pendingJoin = some join ->
        stored.mode = .sfu -> stored.pendingLeave = none ->
        Small (stored.members.erase join.clientId) ->
        kind stored.downgradeDeadline
  | .completeLeave _ leftId _ => leftId = roomId ->
      ∀ (stored : Room) (leave : PendingLeave) (deadline : Option Instant),
        room = some stored -> stored.pendingLeave = some leave ->
        deadline.isSome = true -> kind deadline
  | .refuseLeave _ leftId => leftId = roomId ->
      ∀ (stored : Room) (leave : PendingLeave),
        room = some stored -> stored.pendingLeave = some leave ->
        stored.mode = .sfu -> stored.pendingJoin = none ->
        Small stored.members -> kind stored.downgradeDeadline
  | _ => True

namespace Room.Dwells

variable
  {kind : Option Instant -> Prop}
  {room after : Room}

theorem of_ineligible
    (ineligible : room.eligible = false) :
    room.Dwells kind := by
  intro eligible
  rw [ineligible] at eligible
  cases eligible

theorem of_mode
    (settled : room.mode ≠ .sfu) :
    room.Dwells kind :=
  .of_ineligible (by simp [eligible, settled])

/-- An SFU room keeps its deadline when it keeps its number of members and its
records. -/
theorem of_same
    (dwells : room.Dwells kind)
    (mode : after.mode = room.mode)
    (size : after.members.size = room.members.size)
    (upgrade : after.upgrade = room.upgrade)
    (join : after.pendingJoin = room.pendingJoin)
    (leave : after.pendingLeave = room.pendingLeave)
    (deadline : after.downgradeDeadline = room.downgradeDeadline) :
    after.Dwells kind := by
  have same : after.eligible = room.eligible := by
    simp [eligible, mode, size, upgrade, join, leave,
      ExtTreeMap.isEmpty_eq_size_beq_zero]
  intro eligible
  rw [deadline]
  exact dwells (by rwa [← same])

end Room.Dwells

/-- Putting a member that is present back does not change the number. -/
theorem size_insert_present
    {members : ExtTreeMap ClientId Member}
    {clientId : ClientId}
    {member : Member}
    (replaced : Member)
    (present : members[clientId]? = some member) :
    (members.insert clientId replaced).size = members.size := by
  rw [ExtTreeMap.size_insert, if_pos]
  rw [ExtTreeMap.contains_eq_isSome_getElem?, present]
  rfl

theorem size_modifyMember
    (room : Room)
    (clientId : ClientId)
    (update : Member -> Member) :
    (room.modifyMember clientId update).members.size = room.members.size :=
  ExtTreeMap.size_modify

namespace RoomMoved

variable
  {roomId : RoomId}
  {move : Move}
  {room after : Option Room}
  {kind : Option Instant -> Prop}

/-- Every move that keeps the kind of deadline keeps the dwell of a room. -/
theorem dwells
    (moved : RoomMoved roomId move room after)
    (keeps : KeepsDwell kind roomId room move)
    (dwells : ∀ stored, room = some stored -> stored.Dwells kind)
    (stored : Room)
    (present : after = some stored) :
    stored.Dwells kind := by
  cases moved with
  | kept => exact dwells stored present
  | create =>
      cases present
      exact .of_ineligible rfl
  | joinDirect now grace token lifecycleId fresh direct space =>
      cases present
      exact .of_mode (by simp [direct])
  | beginUpgrade =>
      cases present
      exact .of_ineligible rfl
  | beginJoin =>
      cases present
      exact .of_ineligible (by simp [Room.eligible])
  | register settled found unregistered =>
      rename_i room clientId member
      cases present
      by_cases direct : room.mode = .p2p
      · exact .of_mode (by simp [direct])
      · refine (dwells _ rfl).of_same (by simp) ?_ (by simp) (by simp)
          (by simp) (by simp)
        simpa [Room.registerMember, direct] using
          size_insert_present _ found
  | dropWithLeave | requestLeave | retryLeave =>
      cases present
      exact .of_ineligible (by simp [Room.eligible])
  | dropWithGrace deadline found registered =>
      cases present
      exact (dwells _ rfl).of_same rfl (size_insert_present _ found) rfl rfl
        rfl rfl
  | queueMessage found settled direct =>
      cases present
      exact (dwells _ rfl).of_same rfl (size_insert_present _ found) rfl rfl
        rfl rfl
  | removeFailed found noJoin noLeave failed =>
      obtain rfl := Room.eq_of_stored present
      exact .of_mode (by simp [failed])
  | removeDirect found noJoin noLeave direct =>
      obtain rfl := Room.eq_of_stored present
      exact .of_mode (by simp [direct])
  | expireMembers now direct =>
      obtain rfl := Room.eq_of_stored present
      exact .of_mode (by simp [direct])
  | reportFailure | refuseSync | expireRoom | abortUpgrade | expireUpgrade
  | downgrade =>
      cases present
      exact .of_ineligible rfl
  | advanceUpgrade =>
      cases present
      exact .of_ineligible (by simp [Room.eligible, Room.advanceUpgrade])
  | commitUpgrade requestId upgrading finished =>
      rename_i room upgrade clientId
      cases present
      intro eligible
      rw [Room.eligible_iff] at eligible
      obtain ⟨-, occupied, small, -⟩ := eligible
      simp only [Room.commitSfu, Room.advanceUpgrade, ExtTreeMap.size_map,
        ExtTreeMap.isEmpty_eq_size_beq_zero] at occupied small
      refine keeps rfl room upgrade rfl upgrading finished ⟨?_, small⟩
      rw [ExtTreeMap.isEmpty_eq_size_beq_zero, occupied]
  | completeJoin instanceId requestId joining =>
      rename_i room join clientId
      cases present
      intro eligible
      rw [Room.eligible_iff] at eligible
      obtain ⟨forwarded, occupied, small, -, -, noLeave⟩ := eligible
      exact keeps rfl room join rfl joining forwarded noLeave ⟨occupied, small⟩
  | refuseJoin requestId joining =>
      rename_i room join
      cases present
      intro eligible
      rw [Room.eligible_iff] at eligible
      obtain ⟨forwarded, occupied, small, -, -, noLeave⟩ := eligible
      exact keeps rfl room join rfl joining forwarded noLeave ⟨occupied, small⟩
  | completeLeave requestId deadline leaving armed =>
      obtain rfl := Room.eq_of_stored present
      exact fun eligible => keeps rfl _ _ deadline rfl leaving (armed.1 eligible)
  | refuseLeave requestId leaving =>
      rename_i room leave
      cases present
      intro eligible
      rw [Room.eligible_iff] at eligible
      obtain ⟨forwarded, occupied, small, -, noJoin, -⟩ := eligible
      exact keeps rfl room leave rfl leaving forwarded noJoin ⟨occupied, small⟩
  | clearDeadline ineligible =>
      cases present
      exact .of_ineligible ineligible
  | rearmGrace deadline found unregistered forwarded =>
      rename_i room clientId member
      cases present
      refine (dwells _ rfl).of_same rfl ?_ rfl rfl rfl rfl
      exact size_modifyMember room clientId _

end RoomMoved

/-- A due deadline of an eligible room returns the room to P2P, unless its worker
expires at the same time. -/
theorem handleTimeout_downgrades
    (order : VisitOrder)
    {table : RoomTable}
    {now deadline : Instant}
    {roomId : RoomId}
    {room : Room}
    (wellFormed : table.WellFormed)
    (found : table.rooms[roomId]? = some room)
    (eligible : room.eligible = true)
    (armed : room.downgradeDeadline = some deadline)
    (due : deadline ≤ now)
    (served : ∀ instanceId, table.Expires now instanceId ->
      ¬table.Lists instanceId roomId) :
    (table.handleTimeout order now).2.mode? roomId = some .p2p := by
  obtain ⟨promotions, arrived, arrives, same⟩ :=
    handleTimeout_visits order now roomId wellFormed
  have here : arrived.rooms[roomId]? = some room := by
    rcases arrives.touched with kept | ⟨instanceId, expires, listed⟩
    · rw [kept, found]
    · exact absurd listed (served instanceId expires)
  have asked : arrived.isDowngradeEligible roomId = true := by
    rw [isDowngradeEligible_eq roomId arrived here, eligible]
  obtain ⟨other, instanceId, initiatorClientId, others, present, -, -, -, -,
    assigned, clients⟩ := arrives.wellFormed.eligible asked
  rw [here] at present
  cases present
  have released := commitDowngrade_released order here assigned clients
  have swept : (RoomTable.sweepRoom order now (promotions, arrived) roomId).2 =
      (arrived.commitDowngrade order roomId).2 := by
    simp [RoomTable.sweepRoom, here, asked, isDue, armed, due]
  simp [RoomTable.mode?, same, swept, released.rooms, Room.commitP2p]

/-- A room that stays eligible through a call keeps its deadline. -/
theorem RoomTable.Consistent.deadline_stays
    {table : RoomTable}
    {roomId : RoomId}
    {room after : Room}
    (consistent : table.Consistent)
    (call : Call)
    (found : table.rooms[roomId]? = some room)
    (eligible : room.eligible = true)
    (stored : (table.step call).rooms[roomId]? = some after)
    (stays : after.eligible = true) :
    after.downgradeDeadline = room.downgradeDeadline := by
  refine consistent.step_invariant (fun _ middle => ∀ later : Room,
      middle.rooms[roomId]? = some later ->
        later.Dwells (· = room.downgradeDeadline))
    (fun phase middle move phase' next taken arises sound kept => ?_)
    (fun later here _ => ?_) after stored stays
  · refine (taken.room sound.wellFormed roomId).dwells ?_ kept
    rw [Room.eligible_iff] at eligible
    obtain ⟨-, -, -, noUpgrade, noJoin, noLeave⟩ := eligible
    -- A transition that ends was recorded when the call was made.
    cases move <;> simp only [KeepsDwell]
    case commitUpgrade =>
      obtain ⟨rfl, -⟩ := arises
      rintro rfl other upgrade present upgrading
      rw [found] at present
      cases present
      simp [noUpgrade] at upgrading
    case completeJoin | refuseJoin =>
      obtain ⟨rfl, -⟩ := arises
      rintro rfl other join present joining
      rw [found] at present
      cases present
      simp [noJoin] at joining
    case completeLeave =>
      obtain ⟨rfl, -⟩ := arises
      rintro rfl other leave deadline present leaving
      rw [found] at present
      cases present
      simp [noLeave] at leaving
    case refuseLeave =>
      obtain ⟨rfl, -⟩ := arises
      rintro rfl other leave present leaving
      rw [found] at present
      cases present
      simp [noLeave] at leaving
  · rw [found] at here
    cases here
    rfl

/-- In every run in which no answer settles a small SFU room without a deadline,
an eligible room has a deadline, keeps it while it stays eligible, and returns
to P2P once it is due. -/
theorem small_rooms_scheduled
    {reconnectGrace : Duration}
    {history : History}
    {table : RoomTable}
    (run : (RoomTable.machine reconnectGrace).Run history table)
    (guarded : Machine.Guarded (fun table call => ¬call.Unschedules table)
      history)
    {roomId : RoomId}
    (eligible : table.isDowngradeEligible roomId = true) :
    ∃ (room : Room) (deadline : Instant),
      table.rooms[roomId]? = some room ∧
      room.downgradeDeadline = some deadline ∧
      (∀ call : Call, (table.step call).isDowngradeEligible roomId = true ->
        (table.step call).rooms[roomId]?.map (·.downgradeDeadline) =
          some (some deadline)) ∧
      ∀ (order : VisitOrder) (now : Instant), deadline ≤ now ->
        (∀ instanceId, table.Expires now instanceId ->
          ¬table.Lists instanceId roomId) ->
        (table.handleTimeout order now).2.mode? roomId = some .p2p := by
  have consistent := RoomTable.consistent_of_run run
  obtain ⟨room, -, -, -, found, -⟩ := consistent.wellFormed.eligible eligible
  rw [isDowngradeEligible_eq roomId table found] at eligible
  have scheduled := RoomTable.rooms_invariant (Room.Dwells (·.isSome = true))
    (KeepsDwell (·.isSome = true))
    (fun roomId move room after moved keeps _ => moved.dwells keeps)
    (fun before call phase table move phase' table' guard taken arises
      consistent roomId => ?_) run guarded roomId room found eligible
  · obtain ⟨deadline, armed⟩ := Option.isSome_iff_exists.1 scheduled
    refine ⟨room, deadline, found, armed, fun call stays => ?_,
      fun order now due served => handleTimeout_downgrades order
        consistent.wellFormed found eligible armed due served⟩
    cases stored : (table.step call).rooms[roomId]? with
    | none => simp [RoomTable.isDowngradeEligible, stored] at stays
    | some after =>
        rw [isDowngradeEligible_eq roomId _ stored] at stays
        rw [Option.map_some, consistent.deadline_stays call found eligible
          stored stays, armed]
  · -- Each answer that settles a small room is excluded by the guard.
    cases move <;> simp only [KeepsDwell]
    case commitUpgrade requestId upgradedId =>
      rintro rfl stored upgrade present upgrading finished small
      obtain ⟨rfl, instanceId, pending, result, answers, confirms⟩ := arises
      cases taken with
      | commitUpgrade order outstanding =>
          obtain rfl := answers.recorded outstanding
          by_contra unarmed
          exact guard ⟨_, _, _, _, _, _, answers, present, by simpa using unarmed,
            rfl, confirms, small, upgrade, upgrading, finished⟩
    case completeJoin instanceId requestId joinedId clientId =>
      rintro rfl stored join present joining forwarded noLeave small
      obtain ⟨rfl, carrier, pending, result, answers, confirms⟩ := arises
      cases taken with
      | completeJoin outstanding =>
          obtain rfl := answers.recorded outstanding
          by_contra unarmed
          exact guard ⟨_, _, _, _, _, _, answers, present, by simpa using unarmed,
            rfl, forwarded, noLeave, join, joining, Or.inl ⟨confirms, small⟩⟩
    case refuseJoin requestId joinedId =>
      rintro rfl stored join present joining forwarded noLeave small
      obtain ⟨rfl, carrier, pending, result, answers, refuses⟩ := arises
      cases taken with
      | refuseJoin reason outstanding =>
          obtain rfl := answers.recorded outstanding
          by_contra unarmed
          exact guard ⟨_, _, _, _, _, _, answers, present, by simpa using unarmed,
            rfl, forwarded, noLeave, join, joining, Or.inr ⟨refuses, small⟩⟩
    case completeLeave => exact fun _ _ _ _ _ _ armed => armed
    case refuseLeave requestId leftId =>
      rintro rfl stored leave present leaving forwarded noJoin small
      obtain ⟨rfl, carrier, pending, result, answers, refuses⟩ := arises
      cases taken with
      | refuseLeave reason outstanding =>
          obtain rfl := answers.recorded outstanding
          by_contra unarmed
          exact guard ⟨_, _, _, _, _, _, answers, present, by simpa using unarmed,
            rfl, refuses, forwarded, noJoin, by simp [leaving], small⟩

theorem small_rooms_scheduled_shrunk :
    ∃ (room : Room) (deadline : Instant),
      (RoomTable.played 0 shrunkOperations).2.rooms[exampleRoomId]? =
        some room ∧
      room.downgradeDeadline = some deadline := by
  have guarded : Machine.Guarded (fun table call => ¬call.Unschedules table)
      (RoomTable.played 0 shrunkOperations).1 := by
    intro event taken unschedules
    -- Every answer of the run comes in a room of three.
    have three : (RoomTable.played 0 shrunkOperations).1.all (fun event =>
        (event.2.answered? event.1).all fun pending =>
          pending.transition?.any (fun transition =>
            transition.1 ≠ .join && transition.2 = exampleRoomId) &&
          event.1.rooms[exampleRoomId]?.all fun room =>
            2 < room.members.size) = true := by
      decide +kernel
    have checked := List.all_eq_true.1 three event taken
    obtain ⟨instanceId, requestId, pending, result, roomId, room, answers, found,
      -, settles⟩ := unschedules
    rw [answers.answered?] at checked
    cases pending with
    | upgradeJoin expected upgradedId =>
        obtain ⟨rfl, -, ⟨-, small⟩, -⟩ := settles
        simp only [Option.all_some, PendingCommand.transition?, Option.any_some,
          Bool.and_eq_true, decide_eq_true_eq] at checked
        obtain ⟨⟨-, rfl⟩, large⟩ := checked
        simp only [found, Option.all_some, decide_eq_true_eq] at large
        omega
    | sfuJoin => simp [PendingCommand.transition?] at checked
    | sfuLeave expected leftId =>
        obtain ⟨rfl, -, -, -, -, -, small⟩ := settles
        simp only [Option.all_some, PendingCommand.transition?, Option.any_some,
          Bool.and_eq_true, decide_eq_true_eq] at checked
        obtain ⟨⟨-, rfl⟩, large⟩ := checked
        simp only [found, Option.all_some, decide_eq_true_eq] at large
        omega
    | _ => exact settles
  obtain ⟨room, deadline, found, armed, -⟩ := small_rooms_scheduled
    (RoomTable.played_run 0 shrunkOperations) guarded
    (show (RoomTable.played 0 shrunkOperations).2.isDowngradeEligible
      exampleRoomId = true by decide +kernel)
  exact ⟨room, deadline, found, armed⟩

/-- The worker refuses a further join into a room of two. -/
theorem refused_join_unscheduled :
    ¬∀ (history : History) (table : RoomTable) (roomId : RoomId),
      (RoomTable.machine 0).Run history table ->
      table.isDowngradeEligible roomId = true ->
      ∃ (room : Room) (deadline : Instant),
        table.rooms[roomId]? = some room ∧
        room.downgradeDeadline = some deadline := by
  intro scheduled
  let operations := shrunkOperations ++
    [.admitClient 5 0 exampleRoomId 4 "fourth", refused 5]
  obtain ⟨room, deadline, found, armed⟩ := scheduled _ _ exampleRoomId
    (RoomTable.played_run 0 operations) (by decide +kernel)
  have unarmed : (RoomTable.played 0 operations).2.rooms[exampleRoomId]?.map
      (·.downgradeDeadline) = some none := by
    decide +kernel
  simp [found, armed] at unarmed

end V2
end Signaling
