import Signaling.V2.Dwell

/-!
# A downgrade waits out the dwell

A room returns from SFU to P2P only after it has been in SFU mode with one or
two members, and without an admission, for the whole dwell that its deadline
was set with.
-/

namespace Signaling
namespace V2

open Std (ExtTreeMap)
open RoomTable

/-- The caller's clock as a call shows it. -/
def Call.now? (call : Call) : Option Instant :=
  match call.operation with
  | .admitClient _ now _ _ _ | .deregister now _ _ | .handleTimeout now
  | .handleSfuInput (.commandResult _ _ _ now)
  | .handleSfuInput (.disconnected _ _ now) => some now
  | _ => none

/-- An SFU room with one or two members. -/
def RoomTable.Idles
    (table : RoomTable)
    (roomId : RoomId) : Prop :=
  ∃ room : Room, table.rooms[roomId]? = some room ∧ room.mode = .sfu ∧
    Small room.members

/-- A call brings the room no new member. -/
def Call.AdmitsNobody
    (call : Call)
    (table : RoomTable)
    (roomId : RoomId) : Prop :=
  ∀ clientId, ((table.step call).member? roomId clientId).isSome ->
    (table.member? roomId clientId).isSome

/-- The deadline of the room was set by a call of the history, as long before
the deadline as the dwell was at the time; since then the room has been idle and
nobody was admitted. -/
def Dwelt
    (history : History)
    (table : RoomTable)
    (roomId : RoomId)
    (deadline : Instant) : Prop :=
  ∃ newer state call older since,
    history = newer ++ (state, call) :: older ∧
    call.now? = some since ∧
    since + state.downgradeDwell = deadline ∧
    (∀ later ∈ table :: newer.map Prod.fst, later.Idles roomId) ∧
    ∀ event ∈ newer, event.2.AdmitsNobody event.1 roomId

/-- A room with a deadline has neither an upgrade nor a join in flight, and is
small while it is forwarded. -/
def Room.Scheduled (room : Room) : Prop :=
  ∀ deadline, room.downgradeDeadline = some deadline ->
    room.upgrade = none ∧ room.pendingJoin = none ∧
      (room.mode = .sfu ∧ Small room.members ∨ room.mode = .failed)

/-- The deadline of the room has just been set, or the room had it before, and
has no new members. -/
structure Room.Since
    (former : Option Room)
    (armed : Instant -> Prop)
    (room : Room) : Prop where
  scheduled : room.Scheduled
  origin : ∀ deadline, room.downgradeDeadline = some deadline ->
    armed deadline ∨ ∃ stored : Room, former = some stored ∧
      stored.downgradeDeadline = some deadline ∧
      (room.mode = .sfu -> stored.mode = .sfu) ∧
      ∀ clientId ∈ room.members, clientId ∈ stored.members

/-- The end of a leave sets no deadline but an armed one. -/
def KeepsSchedule
    (armed : Instant -> Prop)
    (roomId : RoomId)
    (room after : Option Room)
    (move : Move) : Prop :=
  match move with
  | .completeLeave _ leftId _ => leftId = roomId ->
      ∀ (stored later : Room) (deadline : Instant),
        room = some stored -> after = some later ->
        later.downgradeDeadline = some deadline ->
        armed deadline ∨ stored.downgradeDeadline = some deadline
  | _ => True

namespace Room.Since

variable
  {former : Option Room}
  {armed : Instant -> Prop}
  {room after : Room}

theorem refl
    (scheduled : room.Scheduled) :
    Room.Since (some room) armed room where
  scheduled := scheduled
  origin := fun _ set => Or.inr ⟨room, rfl, set, id, fun _ => id⟩

/-- A room without a deadline owes nothing. -/
theorem of_unset
    (unset : room.downgradeDeadline = none) :
    Room.Since former armed room where
  scheduled := by simp [Room.Scheduled, unset]
  origin := by simp [unset]

/-- A change that keeps the mode, the records and the deadline, and brings no new
member. -/
theorem of_kept
    (since : Room.Since former armed room)
    (mode : after.mode = room.mode)
    (upgrade : after.upgrade = room.upgrade)
    (join : after.pendingJoin = room.pendingJoin)
    (deadline : after.downgradeDeadline = room.downgradeDeadline)
    (members : ∀ clientId, clientId ∈ after.members ↔ clientId ∈ room.members)
    (size : after.members.size = room.members.size) :
    Room.Since former armed after where
  scheduled := by
    intro due set
    rw [mode, upgrade, join, Small, size, ExtTreeMap.isEmpty_eq_size_beq_zero,
      size, ← ExtTreeMap.isEmpty_eq_size_beq_zero]
    exact since.scheduled due (deadline ▸ set)
  origin := by
    intro due set
    refine (since.origin due (deadline ▸ set)).imp_right ?_
    rintro ⟨stored, found, same, forwarded, older⟩
    exact ⟨stored, found, same, mode ▸ forwarded, fun clientId joined =>
      older clientId ((members clientId).1 joined)⟩

/-- A room that fails keeps its deadline. -/
theorem of_failed
    (since : Room.Since former armed room)
    (mode : after.mode = .failed)
    (upgrade : after.upgrade = room.upgrade)
    (join : after.pendingJoin = room.pendingJoin ∨ after.pendingJoin = none)
    (deadline : after.downgradeDeadline = room.downgradeDeadline)
    (members : ∀ clientId ∈ after.members, clientId ∈ room.members) :
    Room.Since former armed after where
  scheduled := by
    intro due set
    obtain ⟨idle, noJoin, -⟩ := since.scheduled due (deadline ▸ set)
    exact ⟨upgrade.trans idle, join.elim (·.trans noJoin) id, Or.inr mode⟩
  origin := by
    intro due set
    refine (since.origin due (deadline ▸ set)).imp_right ?_
    rintro ⟨stored, found, same, -, older⟩
    exact ⟨stored, found, same, by simp [mode], fun clientId joined =>
      older clientId (members clientId joined)⟩

/-- A room with an upgrade, a join, or another mode has no deadline. -/
theorem unset
    (since : Room.Since former armed room)
    (busy : room.upgrade ≠ none ∨ room.pendingJoin ≠ none ∨
      room.mode = .p2p ∨ room.mode = .upgrading) :
    room.downgradeDeadline = none := by
  by_contra set
  obtain ⟨deadline, set⟩ := Option.ne_none_iff_exists'.1 set
  obtain ⟨idle, noJoin, mode⟩ := since.scheduled deadline set
  rcases busy with running | joining | direct | upgrading
  · exact running idle
  · exact joining noJoin
  · rcases mode with ⟨mode, -⟩ | mode <;> simp [direct] at mode
  · rcases mode with ⟨mode, -⟩ | mode <;> simp [upgrading] at mode

end Room.Since

/-- The clients of a room with a member replaced are the same. -/
theorem mem_insert_present
    {members : ExtTreeMap ClientId Member}
    {clientId otherId : ClientId}
    {member : Member}
    (replaced : Member)
    (present : members[clientId]? = some member) :
    otherId ∈ members.insert clientId replaced ↔ otherId ∈ members := by
  have joined : clientId ∈ members :=
    ExtTreeMap.mem_iff_isSome_getElem?.2 (by simp [present])
  rw [ExtTreeMap.mem_insert]
  constructor
  · rintro (same | other)
    · rwa [← compare_eq_iff_eq.1 same]
    · exact other
  · exact Or.inr

/-- Binding a member changes neither the clients nor their number. -/
theorem Room.registerMember_clients
    {room : Room}
    {clientId : ClientId}
    {member : Member}
    (present : room.members[clientId]? = some member) :
    (∀ otherId, otherId ∈ (room.registerMember clientId member).members ↔
        otherId ∈ room.members) ∧
      (room.registerMember clientId member).members.size =
        room.members.size := by
  unfold Room.registerMember
  dsimp only
  split
  · refine ⟨fun otherId => ?_, ?_⟩
    · simp only [Room.drainOthers, Room.insertMember, ExtTreeMap.mem_map]
      exact mem_insert_present _ present
    · simp only [Room.drainOthers, Room.insertMember, ExtTreeMap.size_map]
      exact size_insert_present _ present
  · exact ⟨fun otherId => mem_insert_present _ present,
      size_insert_present _ present⟩

namespace RoomMoved

variable
  {roomId : RoomId}
  {move : Move}
  {room after former : Option Room}
  {armed : Instant -> Prop}

/-- Every move that sets no deadline but an armed one carries on where the
deadline comes from. -/
theorem since
    (moved : RoomMoved roomId move room after)
    (keeps : KeepsSchedule armed roomId room after move)
    (since : ∀ stored, room = some stored -> Room.Since former armed stored)
    (stored : Room)
    (present : after = some stored) :
    Room.Since former armed stored := by
  cases moved with
  | kept => exact since stored present
  | create | beginJoin | downgrade | clearDeadline =>
      cases present
      exact .of_unset rfl
  | joinDirect now grace token lifecycleId fresh direct =>
      cases present
      exact .of_unset ((since _ rfl).unset (by simp [direct]))
  | beginUpgrade now grace token lifecycleId lifecycle instanceId fresh
      direct =>
      cases present
      exact .of_unset ((since _ rfl).unset (by simp [direct]))
  | register settled found unregistered =>
      cases present
      obtain ⟨members, size⟩ := Room.registerMember_clients found
      exact (since _ rfl).of_kept (by simp) (by simp) (by simp) (by simp)
        members size
  | dropWithLeave found | dropWithGrace deadline found | queueMessage found =>
      cases present
      exact (since _ rfl).of_kept rfl rfl rfl rfl
        (fun _ => mem_insert_present _ found) (size_insert_present _ found)
  | requestLeave | retryLeave | refuseLeave =>
      cases present
      exact (since _ rfl).of_kept rfl rfl rfl rfl (fun _ => Iff.rfl) rfl
  | removeFailed found noJoin noLeave failed =>
      obtain rfl := Room.eq_of_stored present
      exact (since _ rfl).of_failed failed rfl (Or.inl rfl) rfl
        fun otherId joined => ExtTreeMap.mem_of_mem_erase joined
  | removeDirect found noJoin noLeave direct =>
      obtain rfl := Room.eq_of_stored present
      refine .of_unset ?_
      rw [Room.promoteSurvivor_downgradeDeadline]
      exact (since _ rfl).unset (by simp [direct])
  | expireMembers now direct =>
      obtain rfl := Room.eq_of_stored present
      refine .of_unset ?_
      rw [Room.expireMembers_downgradeDeadline]
      exact (since _ rfl).unset (by simp [direct])
  | reportFailure | refuseSync =>
      cases present
      exact (since _ rfl).of_failed rfl rfl (Or.inl rfl) rfl fun _ => id
  | advanceUpgrade requestId running | commitUpgrade requestId running
  | abortUpgrade requestId running | expireUpgrade _ _ running =>
      cases present
      exact .of_unset ((since _ rfl).unset (by simp [running]))
  | completeJoin instanceId requestId joining
  | refuseJoin requestId joining =>
      cases present
      exact .of_unset ((since _ rfl).unset (by simp [joining]))
  | completeLeave requestId deadline leaving complete =>
      rename_i room leave clientId
      obtain rfl := Room.eq_of_stored present
      refine ⟨fun due set => ?_, fun due set => ?_⟩
      · have eligible := complete.2 (by
          simp only [Room.afterLeave] at set
          simp [set])
        obtain ⟨forwarded, filled, small, idle, noJoin, -⟩ :=
          (Room.eligible_iff _).1 eligible
        exact ⟨idle, noJoin, Or.inl ⟨forwarded, filled, small⟩⟩
      · rcases keeps rfl room _ due rfl present set with now | older
        · exact Or.inl now
        · refine ((since room rfl).origin due older).imp_right ?_
          rintro ⟨stored, found, same, forwarded, members⟩
          exact ⟨stored, found, same, forwarded, fun otherId joined =>
            members otherId (ExtTreeMap.mem_of_mem_erase joined)⟩
  | expireRoom instanceId settled =>
      rename_i room
      cases present
      refine (since _ rfl).of_failed rfl rfl (Or.inr rfl) rfl
        fun otherId joined => ?_
      simp only [Room.fail] at joined
      split at joined
      · exact joined
      · exact ExtTreeMap.mem_of_mem_erase joined
  | rearmGrace deadline found unregistered forwarded =>
      cases present
      exact (since _ rfl).of_kept rfl rfl rfl rfl
        (fun _ => ExtTreeMap.mem_modify) (size_modifyMember _ _ _)

end RoomMoved

/-- The end of a leave keeps the deadline of the room, drops it, or sets it to
the time of the answer and the dwell. -/
theorem completeLeave_deadline
    {table : RoomTable}
    {instanceId : InstanceId}
    {roomId : RoomId}
    {room after : Room}
    {clientId : ClientId}
    {pendingLeave : PendingLeave}
    {now deadline : Instant}
    (stored : (table.completeLeave instanceId roomId room clientId pendingLeave
      now).rooms[roomId]? = some after)
    (set : after.downgradeDeadline = some deadline) :
    room.downgradeDeadline = some deadline ∨
      now + table.downgradeDwell = deadline := by
  unfold completeLeave at stored
  simp only [removalAnswer_eq] at stored
  split at stored
  · simp at stored
  · unfold armDowngrade at stored
    simp only [pushActions_rooms, modifyWorker_rooms, setRoom_rooms,
      ExtTreeMap.getElem?_insert_self] at stored
    split at stored
    · split at stored
      · simp only [setRoom_rooms, ExtTreeMap.getElem?_insert_self,
          Option.some.injEq] at stored
        subst stored
        exact Or.inr (by simpa [pushActions_eq] using set)
      · simp only [pushActions_rooms, modifyWorker_rooms, setRoom_rooms,
          ExtTreeMap.getElem?_insert_self, Option.some.injEq] at stored
        subst stored
        exact Or.inl set
    · simp only [setRoom_rooms, ExtTreeMap.getElem?_insert_self,
        Option.some.injEq] at stored
      subst stored
      cases set

/-- The confirming answer to a leave that its room waits for completes it at the
time of the answer. -/
theorem step_left
    {table : RoomTable}
    {call : Call}
    {instanceId expected : InstanceId}
    {requestId lifecycleId assignmentEpoch : Nat}
    {roomId : RoomId}
    {clientId : ClientId}
    {room : Room}
    {leave : PendingLeave}
    (accepts : call.Accepts table instanceId requestId
      (.sfuLeave expected roomId clientId lifecycleId assignmentEpoch))
    (found : table.rooms[roomId]? = some room)
    (leaving : room.pendingLeave = some leave) :
    ∃ now, call.now? = some now ∧
      table.step call = (table.retireCommand requestId).completeLeave instanceId
        roomId room clientId leave now := by
  obtain ⟨result, ⟨connectionId, now, asked, connected, outstanding⟩, same,
    confirms⟩ := accepts
  obtain ⟨worker, known, session⟩ := Option.bind_eq_some_iff.1 connected
  refine ⟨now, by simp [Call.now?, asked], ?_⟩
  simp [RoomTable.step, asked, handleSfuInput, handleCommandResult, known,
    session, outstanding, sfuLeaveResult, found, leaving, same, confirms]

/-- Across one call, the deadline of a room has just been set or stays. -/
theorem RoomTable.Consistent.since
    {table : RoomTable}
    {roomId : RoomId}
    {after : Room}
    (consistent : table.Consistent)
    (call : Call)
    (scheduled : ∀ room, table.rooms[roomId]? = some room -> room.Scheduled)
    (stored : (table.step call).rooms[roomId]? = some after) :
    Room.Since table.rooms[roomId]? (fun deadline => ∃ now,
      call.now? = some now ∧ now + table.downgradeDwell = deadline) after := by
  have initial : ∀ room, table.rooms[roomId]? = some room ->
      Room.Since table.rooms[roomId]? (fun deadline => ∃ now,
        call.now? = some now ∧ now + table.downgradeDwell = deadline) room := by
    intro room found
    rw [found]
    exact .refl (scheduled room found)
  by_cases sweeps : call.Sweeps
  · refine @step_invariant table call (fun _ middle => ∀ room,
        middle.rooms[roomId]? = some room -> Room.Since table.rooms[roomId]? _
          room) consistent
      (fun phase middle move phase' next taken arises sound kept room found =>
        ?_) initial after stored
    refine (taken.room sound.wellFormed roomId).since ?_ kept room found
    cases move <;> simp only [KeepsSchedule]
    case completeLeave =>
      obtain ⟨-, _, _, _, ⟨_, _, asked, -⟩, -⟩ := arises
      unfold Call.Sweeps at sweeps
      simp [asked] at sweeps
  · rcases step_direct table call sweeps with same | ⟨move, taken, arises⟩
    · rw [same] at stored
      exact initial after stored
    · refine (taken.room consistent.wellFormed roomId).since ?_ initial after
        stored
      cases move <;> simp only [KeepsSchedule]
      case completeLeave requestId leftId clientId =>
        rintro rfl room later deadline found present set
        obtain ⟨-, instanceId, pending, accepts⟩ := arises
        generalize reached : table.step call = result at taken present
        cases taken with
        | completeLeave now outstanding there leaving =>
            obtain rfl := accepts.recorded outstanding
            rw [there] at found
            cases found
            obtain ⟨since, asked, step⟩ := step_left accepts there leaving
            rw [← reached, step] at present
            rcases completeLeave_deadline present set with older | now
            · exact Or.inr older
            · exact Or.inl ⟨since, asked, now⟩

/-- A timeout returns an SFU room to P2P only when it is eligible and its
deadline has passed. -/
theorem RoomTable.Consistent.due_of_downgraded
    {table : RoomTable}
    {call : Call}
    {now : Instant}
    {roomId : RoomId}
    {room after : Room}
    (consistent : table.Consistent)
    (asked : call.operation = .handleTimeout now)
    (found : table.rooms[roomId]? = some room)
    (forwarded : room.mode = .sfu)
    (stored : (table.step call).rooms[roomId]? = some after)
    (direct : after.mode = .p2p) :
    room.eligible = true ∧ isDue room.downgradeDeadline now = true := by
  refine (@step_invariant table call (fun _ middle => ∀ stored,
      middle.rooms[roomId]? = some stored -> stored.mode ≠ .upgrading ∧
        (stored.mode = .p2p -> room.eligible = true ∧
          isDue room.downgradeDeadline now = true)) consistent
    (fun phase middle move phase' next taken arises sound kept stored here => ?_)
    (fun stored here => ?_) after stored).2 direct
  · have expiring := arises.expiring asked
    have moved := taken.room sound.wellFormed roomId
    generalize was : middle.rooms[roomId]? = before at moved kept
    generalize next.rooms[roomId]? = result at moved here
    cases moved with
    | kept => exact kept stored here
    | retryLeave | clearDeadline | rearmGrace =>
        have same := kept _ rfl
        cases here
        exact same
    | expireMembers =>
        obtain rfl := Room.eq_of_stored here
        simpa using kept _ rfl
    | expireUpgrade instanceId upgrading =>
        exact absurd upgrading (kept _ rfl).1
    | expireRoom =>
        cases here
        exact ⟨nofun, nofun⟩
    | downgrade =>
        cases here
        refine ⟨nofun, fun _ => ?_⟩
        obtain ⟨moment, other, timed, present, still, due, -⟩ := arises
        rw [asked] at timed
        cases timed
        rw [found] at present
        cases present
        cases taken with
        | downgrade order eligible =>
            rw [isDowngradeEligible_eq roomId middle still] at eligible
            exact ⟨eligible, due⟩
    | _ => cases expiring
  · rw [found] at here
    cases here
    simp [forwarded]

/-- Along every run, the deadline of an SFU room was set as long before it as
the dwell was, and the room has been idle since. -/
theorem dwelt_of_run
    {reconnectGrace : Duration}
    {history : History}
    {table : RoomTable}
    (run : (RoomTable.machine reconnectGrace).Run history table)
    (roomId : RoomId)
    (room : Room)
    (found : table.rooms[roomId]? = some room) :
    room.Scheduled ∧ ∀ deadline, room.downgradeDeadline = some deadline ->
      room.mode = .sfu -> Dwelt history table roomId deadline := by
  induction run generalizing room with
  | start starts =>
      obtain rfl : _ = RoomTable.new reconnectGrace := starts
      simp at found
  | next call run inductionHypothesis =>
      rename_i history before
      have since := (consistent_of_run run).since call
        (fun room found => (inductionHypothesis room found).1) found
      refine ⟨since.scheduled, fun deadline set forwarded => ?_⟩
      have idles : (before.step call).Idles roomId := by
        obtain ⟨-, -, ⟨-, small⟩ | failed⟩ := since.scheduled deadline set
        · exact ⟨room, found, forwarded, small⟩
        · simp [forwarded] at failed
      rcases since.origin deadline set with ⟨now, asked, same⟩ |
        ⟨stored, present, older, was, members⟩
      · refine ⟨[], before, call, history, now, rfl, asked, same,
          fun later listed => ?_, by simp⟩
        rw [List.mem_singleton.1 listed]
        exact idles
      · obtain ⟨newer, state, earlier, older, moment, split, asked, same, idle,
          quiet⟩ := (inductionHypothesis stored present).2 deadline older
            (was forwarded)
        refine ⟨(before, call) :: newer, state, earlier, older, moment,
          by rw [split]; rfl, asked, same, ?_, ?_⟩
        · intro later listed
          rcases List.mem_cons.1 listed with rfl | listed
          · exact idles
          · exact idle later (by simpa using listed)
        · intro event listed
          rcases List.mem_cons.1 listed with rfl | listed
          · intro clientId joined
            have found' : (before.step call).rooms[roomId]? = some room := found
            simp only [RoomTable.member?, found', present, Option.bind_some,
              ← ExtTreeMap.mem_iff_isSome_getElem?] at joined ⊢
            exact members clientId joined
          · exact quiet event listed

/-- A timeout returns an SFU room to P2P only when no transition is in flight,
and when the room has been idle in SFU mode for the dwell. -/
theorem downgrade_waits
    {reconnectGrace : Duration}
    {history : History}
    {table : RoomTable}
    (run : (RoomTable.machine reconnectGrace).Run history table)
    {order : VisitOrder}
    {now : Instant}
    {roomId : RoomId}
    {room : Room}
    (found : table.rooms[roomId]? = some room)
    (forwarded : room.mode = .sfu)
    (direct : (table.handleTimeout order now).2.mode? roomId = some .p2p) :
    room.upgrade = none ∧ room.pendingJoin = none ∧ room.pendingLeave = none ∧
      ∃ deadline ≤ now, Dwelt history table roomId deadline := by
  obtain ⟨after, stored, mode⟩ := Option.map_eq_some_iff.1 direct
  obtain ⟨eligible, due⟩ := (consistent_of_run run).due_of_downgraded
    (show (Call.mk (.handleTimeout now) order).operation = .handleTimeout now
      from rfl) found forwarded stored mode
  obtain ⟨-, -, -, idle, noJoin, noLeave⟩ := (Room.eligible_iff room).1 eligible
  obtain ⟨deadline, set, passed⟩ := (Option.any_eq_true _ _).1 due
  exact ⟨idle, noJoin, noLeave, deadline, by simpa using passed,
    (dwelt_of_run run roomId room found).2 deadline set forwarded⟩

theorem downgrade_waits_shrunk :
    ∃ deadline ≤ defaultDowngradeDwell,
      Dwelt (RoomTable.played 0 shrunkOperations).1
        (RoomTable.played 0 shrunkOperations).2 exampleRoomId deadline := by
  have forwarded : (RoomTable.played 0 shrunkOperations).2.mode?
      exampleRoomId = some .sfu := by
    decide +kernel
  have direct : ((RoomTable.played 0 shrunkOperations).2.handleTimeout .sorted
      defaultDowngradeDwell).2.mode? exampleRoomId = some .p2p := by
    decide +kernel
  obtain ⟨room, found, mode⟩ := Option.map_eq_some_iff.1 forwarded
  exact (downgrade_waits (RoomTable.played_run 0 shrunkOperations) found mode
    direct).2.2.2

end V2
end Signaling
