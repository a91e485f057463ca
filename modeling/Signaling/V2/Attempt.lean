import Signaling.V2.Exchange

/-!
# An upgrade attempt that fails

While a room is upgrading its members' messages are dropped. When the upgrade
is rolled back, the two members find their room as it was: with the same signal
epoch and the same queues.
-/

namespace Signaling
namespace V2

open Std (ExtTreeMap)

/-- An attempt: a P2P room with two registered members starts an upgrade, is
upgrading in every state of a stretch, and is P2P after the last call. -/
structure Attempt
    (start : RoomTable)
    (admission : Call)
    (during : History)
    (last : RoomTable)
    (abort : Call)
    (roomId : RoomId)
    (firstId secondId : ClientId) : Prop where
  different : firstId ≠ secondId
  paired : ∃ room, start.rooms[roomId]? = some room ∧ room.mode = .p2p ∧
    room.Hears firstId ∧ room.Hears secondId
  admits : ∃ authorityRequestId now clientId token, admission.operation =
    .admitClient authorityRequestId now roomId clientId token
  upgrading : ∀ state ∈ last :: during.map Prod.fst,
    state.mode? roomId = some .upgrading
  aborted : (last.step abort).mode? roomId = some .p2p

/-- The signal epoch of a stored room. -/
def RoomTable.signalEpoch?
    (table : RoomTable)
    (roomId : RoomId) : Option Nat :=
  table.rooms[roomId]?.map (·.signalEpoch)

namespace Room

/-- The upgrading room still has the epoch, the members and the queues of the
room that the upgrade began with; the only other member is the joining client.
-/
structure Upholds (former room : Room) : Prop where
  epoch : room.signalEpoch = former.signalEpoch
  queue : ∀ clientId ∈ former.members,
    room.queue clientId = former.queue clientId
  members : ∀ clientId ∈ former.members, clientId ∈ room.members
  joining : ∀ upgrade, room.upgrade = some upgrade ->
    upgrade.joiningClientId ∉ former.members ∧
      ∀ clientId ∈ room.members, clientId = upgrade.joiningClientId ∨
        clientId ∈ former.members

/-- The room has the epoch of the room that the upgrade began with, no further
members, and its queues if it has all its members. -/
structure Restores (former room : Room) : Prop where
  epoch : room.signalEpoch = former.signalEpoch
  others : ∀ clientId ∈ room.members, clientId ∈ former.members
  queue : (∀ clientId ∈ former.members, clientId ∈ room.members) ->
    ∀ clientId ∈ former.members, room.queue clientId = former.queue clientId

/-- What a timeout makes of an upgrading room. -/
inductive Attempted (former room : Room) : Prop
  | upgrading
      (mode : room.mode = .upgrading)
      (upholds : former.Upholds room)
  | direct
      (mode : room.mode = .p2p)
      (restores : former.Restores room)
  | failed (mode : room.mode = .failed)

variable {former room : Room}

theorem Upholds.of_members
    {after : Room}
    (upholds : former.Upholds room)
    (epoch : after.signalEpoch = room.signalEpoch)
    (members : after.members = room.members)
    (joining : ∀ upgrade, after.upgrade = some upgrade -> ∃ running,
      room.upgrade = some running ∧
        running.joiningClientId = upgrade.joiningClientId) :
    former.Upholds after where
  epoch := epoch.trans upholds.epoch
  queue := by
    simp only [Room.queue, members]
    exact upholds.queue
  members := by
    rw [members]
    exact upholds.members
  joining := by
    intro upgrade running
    obtain ⟨before, stored, same⟩ := joining upgrade running
    rw [← same, members]
    exact upholds.joining before stored

/-- A member is replaced by one with the same queue. -/
theorem Upholds.replaceMember
    (upholds : former.Upholds room)
    {clientId : ClientId}
    {present : Member}
    (member : Member)
    (found : room.members[clientId]? = some present)
    (same : member.queuedMessages = present.queuedMessages) :
    former.Upholds (room.insertMember clientId member) := by
  have joined (otherId : ClientId) :
      otherId ∈ (room.insertMember clientId member).members ↔
        otherId ∈ room.members := by
    simp only [insertMember_members]
    grind
  refine ⟨upholds.epoch, fun otherId listed => ?_, fun otherId listed =>
    (joined otherId).2 (upholds.members otherId listed), ?_⟩
  · rw [← upholds.queue otherId listed]
    simp only [Room.queue, insertMember_members]
    grind
  · intro upgrade running
    obtain ⟨fresh, others⟩ := upholds.joining upgrade running
    exact ⟨fresh, fun otherId present => others otherId ((joined _).1 present)⟩

/-- The room that is taken back to P2P. -/
theorem Upholds.release
    (upholds : former.Upholds room)
    {upgrade : Upgrade}
    (running : room.upgrade = some upgrade) :
    former.Restores (room.release upgrade.joiningClientId) ∧
      ∀ clientId ∈ former.members,
        clientId ∈ (room.release upgrade.joiningClientId).members := by
  obtain ⟨fresh, others⟩ := upholds.joining upgrade running
  have apart (clientId : ClientId) (joined : clientId ∈ former.members) :
      upgrade.joiningClientId ≠ clientId := by
    rintro rfl
    exact fresh joined
  refine ⟨⟨upholds.epoch, fun clientId joined => ?_,
    fun _ clientId joined => ?_⟩, fun clientId joined => ?_⟩
  · simp only [Room.release, rollBack, eraseMember_members,
      ExtTreeMap.mem_erase] at joined
    exact (others clientId joined.2).resolve_left
      fun same => joined.1 (by simp [same])
  · rw [← upholds.queue clientId joined]
    simp [Room.queue, Room.release, rollBack, ExtTreeMap.getElem?_erase,
      apart clientId joined]
  · have present := upholds.members clientId joined
    simpa [Room.release, rollBack, apart clientId joined] using present

end Room

section Moves

variable
  {former stored : Room}
  {roomId : RoomId}
  {move : Move}
  {room : Option Room}

/-- One move from the upgrading room leaves it upgrading, or takes it back. -/
theorem RoomMoved.attempts
    {before : Room}
    (moved : RoomMoved roomId move (some before) (some stored))
    (wellFormed : before.WellFormed)
    (mode : before.mode = .upgrading)
    (upholds : former.Upholds before) :
    (stored.mode = .upgrading -> former.Upholds stored) ∧
      (stored.mode = .p2p -> former.Restores stored ∧
        ∀ clientId ∈ former.members, clientId ∈ stored.members) := by
  obtain ⟨upgrade, running, -⟩ := wellFormed.upgrading mode
  obtain ⟨-, -, -, noJoin, noLeave, -⟩ := wellFormed.upgrade upgrade running
  generalize was : some before = room at moved
  generalize becomes : some stored = after at moved
  cases moved with
  | kept =>
      cases was
      cases becomes
      exact ⟨fun _ => upholds, fun direct => by simp [mode] at direct⟩
  | dropWithGrace deadline present registered =>
      cases was
      cases becomes
      exact ⟨fun _ => upholds.replaceMember _ present rfl,
        fun direct => by simp [mode] at direct⟩
  | advanceUpgrade requestId advancing =>
      cases was
      cases becomes
      refine ⟨fun _ => upholds.of_members rfl rfl fun other running => ?_,
        fun direct => by simp [Room.advanceUpgrade, mode] at direct⟩
      cases running
      exact ⟨_, advancing, rfl⟩
  | clearDeadline =>
      cases was
      cases becomes
      exact ⟨fun _ => upholds.of_members rfl rfl fun other running =>
        ⟨other, running, rfl⟩, fun direct => by simp [mode] at direct⟩
  | abortUpgrade requestId aborting =>
      cases was
      cases becomes
      refine ⟨fun still => ?_, fun _ => upholds.release aborting⟩
      cases still
  | expireUpgrade instanceId _ aborting =>
      cases was
      cases becomes
      refine ⟨fun still => ?_, fun _ => upholds.release aborting⟩
      cases still
  | create => cases was
  | reportFailure | refuseSync | commitUpgrade | expireRoom =>
      cases was
      cases becomes
      constructor <;> (intro mode; cases mode)
  | joinDirect _ _ _ _ _ direct | beginUpgrade _ _ _ _ _ _ _ direct
  | removeDirect _ _ _ direct | expireMembers _ direct =>
      cases was
      simp [mode] at direct
  | beginJoin _ _ _ _ _ forwarded | dropWithLeave _ _ forwarded
  | requestLeave _ forwarded | downgrade forwarded | retryLeave _ _ forwarded
  | rearmGrace _ _ _ forwarded =>
      cases was
      simp [mode] at forwarded
  | register settled | queueMessage _ settled =>
      cases was
      exact absurd mode settled
  | removeFailed _ _ _ failed =>
      cases was
      simp [mode] at failed
  | completeJoin instanceId requestId joining | refuseJoin requestId joining =>
      cases was
      simp [noJoin] at joining
  | completeLeave requestId deadline leaving | refuseLeave requestId leaving =>
      cases was
      simp [noLeave] at leaving

/-- Every move of a timeout carries on what it makes of an upgrading room. -/
theorem RoomMoved.attempted
    (moved : RoomMoved roomId move room (some stored))
    (expiring : move.Expiring)
    (attempted : ∀ middle, room = some middle -> former.Attempted middle) :
    former.Attempted stored := by
  generalize becomes : some stored = result at moved
  cases moved with
  | kept => exact attempted stored becomes.symm
  | clearDeadline =>
      cases becomes
      cases attempted _ rfl with
      | upgrading mode upholds =>
          exact .upgrading mode (upholds.of_members rfl rfl
            fun upgrade running => ⟨upgrade, running, rfl⟩)
      | direct mode restores =>
          exact .direct mode ⟨restores.epoch, restores.others, restores.queue⟩
      | failed mode => exact .failed mode
  | expireMembers now direct =>
      rename_i middle
      obtain rfl := Room.eq_of_stored becomes.symm
      have mode : (middle.expireMembers roomId now).2.mode = .p2p := by
        simp [direct]
      cases attempted _ rfl with
      | upgrading mode | failed mode => simp [direct] at mode
      | direct _ restores =>
          refine .direct mode ⟨by simpa using restores.epoch,
            fun clientId joined =>
              restores.others clientId (Room.of_mem_expireMembers joined).1,
            fun present => ?_⟩
          have nobody : middle.expiredClients now = [] := by
            rw [List.eq_nil_iff_forall_not_mem]
            intro clientId expired
            have joined : clientId ∈ middle.members :=
              ExtTreeMap.mem_keys.1 (List.mem_filter.1 expired).1
            exact (Room.of_mem_expireMembers
              (present clientId (restores.others clientId joined))).2 expired
          have same : (middle.expireMembers roomId now).2.members =
              middle.members := Room.expireMembers_of_nobody nobody
          rw [same] at present
          simp only [Room.queue, same]
          exact restores.queue present
  | expireRoom =>
      cases becomes
      exact .failed rfl
  | expireUpgrade instanceId upgrading running =>
      cases becomes
      cases attempted _ rfl with
      | upgrading _ upholds => exact .direct rfl (upholds.release running).1
      | direct mode | failed mode => simp [upgrading] at mode
  | retryLeave _ _ forwarded | rearmGrace _ _ _ forwarded
  | downgrade forwarded =>
      cases attempted _ rfl with
      | upgrading mode | direct mode | failed mode => simp [forwarded] at mode
  | _ => cases expiring

/-- The upgrade begins with the epoch, the members and the queues of the room.
-/
theorem RoomMoved.begins
    (moved : RoomMoved roomId move (some former) (some stored))
    (wellFormed : former.WellFormed)
    (direct : former.mode = .p2p)
    (mode : stored.mode = .upgrading) :
    former.Upholds stored := by
  obtain ⟨-, -, idle, noJoin, noLeave⟩ := wellFormed.direct direct
  generalize was : some former = room at moved
  generalize becomes : some stored = after at moved
  cases moved with
  | beginUpgrade now grace token lifecycleId lifecycle instanceId fresh _ _ =>
      cases was
      cases becomes
      rename_i clientId authorityRequestId _ _
      have absent : clientId ∉ former.members := by
        rw [← ExtTreeMap.contains_iff_mem, fresh]
        exact Bool.false_ne_true
      have found (otherId : ClientId) (joined : otherId ∈ former.members) :
          clientId ≠ otherId := by
        rintro rfl
        exact absent joined
      refine ⟨rfl, fun otherId joined => ?_, fun otherId joined => ?_, ?_⟩
      · simp only [Room.queue, Room.startUpgrade, Room.relive,
          Room.insertMember, ExtTreeMap.getElem?_map,
          ExtTreeMap.getElem?_insert, Std.compare_eq_iff_eq,
          if_neg (found otherId joined), Option.map_map]
        rfl
      · simpa [Room.startUpgrade, Room.relive, Room.insertMember] using
          Or.inr joined
      · rintro upgrade running
        obtain rfl : _ = upgrade := Option.some.inj running
        refine ⟨absent, fun otherId joined => ?_⟩
        simp only [Room.startUpgrade, Room.relive, Room.insertMember,
          ExtTreeMap.mem_map, ExtTreeMap.mem_insert,
          Std.compare_eq_iff_eq] at joined
        exact joined.imp Eq.symm id
  | create => cases was
  | kept =>
      cases was
      cases becomes
      simp [direct] at mode
  | joinDirect | register | dropWithGrace | queueMessage | reportFailure
  | refuseSync | expireRoom | clearDeadline =>
      cases was
      cases becomes
      simp [direct, Room.fail] at mode
  | removeDirect | expireMembers =>
      cases was
      obtain rfl := Room.eq_of_stored becomes.symm
      simp [direct] at mode
  | beginJoin _ _ _ _ _ forwarded | dropWithLeave _ _ forwarded
  | requestLeave _ forwarded | downgrade forwarded | retryLeave _ _ forwarded
  | rearmGrace _ _ _ forwarded =>
      cases was
      simp [direct] at forwarded
  | removeFailed _ _ _ failed =>
      cases was
      simp [direct] at failed
  | expireUpgrade instanceId upgrading =>
      cases was
      simp [direct] at upgrading
  | advanceUpgrade requestId running | commitUpgrade requestId running
  | abortUpgrade requestId running =>
      cases was
      simp [idle] at running
  | completeJoin instanceId requestId joining | refuseJoin requestId joining =>
      cases was
      simp [noJoin] at joining
  | completeLeave requestId deadline leaving | refuseLeave requestId leaving =>
      cases was
      simp [noLeave] at leaving

end Moves

/-- A room that is upgrading is upgrading still after a call, or it is taken
back; only a timeout then takes members out of it. -/
theorem RoomTable.Consistent.attempts
    {table : RoomTable}
    {call : Call}
    {roomId : RoomId}
    {former room stored : Room}
    (consistent : table.Consistent)
    (found : table.rooms[roomId]? = some room)
    (becomes : (table.step call).rooms[roomId]? = some stored)
    (mode : room.mode = .upgrading)
    (upholds : former.Upholds room) :
    (stored.mode = .upgrading -> former.Upholds stored) ∧
      (stored.mode = .p2p -> former.Restores stored ∧
        ((∀ now, call.operation ≠ .handleTimeout now) ->
          ∀ clientId ∈ former.members, clientId ∈ stored.members)) := by
  by_cases sweeps : call.Sweeps
  · unfold Call.Sweeps at sweeps
    split at sweeps
    · rename_i now asked
      have attempted := @step_invariant table call
        (fun _ middle => ∀ stored, middle.rooms[roomId]? = some stored ->
          former.Attempted stored)
        consistent
        (fun phase middle move phase' next taken arises sound kept stored here =>
          RoomMoved.attempted (here ▸ taken.room sound.wellFormed roomId)
            (arises.expiring asked) kept)
        (fun stored here => by
          rw [found] at here
          cases here
          exact .upgrading mode upholds)
      cases attempted stored becomes with
      | upgrading mode upholds =>
          exact ⟨fun _ => upholds, fun direct => by simp [mode] at direct⟩
      | direct mode restores =>
          exact ⟨fun upgrading => by simp [mode] at upgrading,
            fun _ => ⟨restores, fun other => absurd asked (other now)⟩⟩
      | failed mode =>
          exact ⟨fun other => by simp [mode] at other,
            fun other => by simp [mode] at other⟩
    · rename_i connectionId instanceId requestId capacity asked
      have same := @step_invariant table call
        (fun _ middle => middle.rooms[roomId]? = table.rooms[roomId]?)
        consistent (fun phase middle move phase' next taken arises sound kept => by
          rw [← kept]
          refine (taken.room sound.wellFormed roomId).elsewhere ?_
          rw [arises.registering asked]
          nofun)
        rfl
      rw [same, found] at becomes
      cases becomes
      exact ⟨fun _ => upholds, fun direct => by simp [mode] at direct⟩
    · cases sweeps
  · rcases step_direct table call sweeps with same | ⟨move, taken, arises⟩
    · rw [same, found] at becomes
      cases becomes
      exact ⟨fun _ => upholds, fun direct => by simp [mode] at direct⟩
    · have moved := taken.room consistent.wellFormed roomId
      rw [found, becomes] at moved
      obtain ⟨still, back⟩ := moved.attempts
        (consistent.wellFormed.rooms roomId room found) mode upholds
      exact ⟨still, fun direct => (back direct).imp_right fun kept _ => kept⟩

/-- While a room is upgrading every message into it is dropped. -/
theorem RoomTable.send_of_upgrading
    {table : RoomTable}
    {roomId : RoomId}
    (upgrading : table.mode? roomId = some .upgrading)
    (order : VisitOrder)
    (clientId : ClientId)
    (signalEpoch : Nat)
    (message : String) :
    table.send order roomId clientId signalEpoch message =
      (.ok .dropped, table) := by
  obtain ⟨room, found, mode⟩ := Option.map_eq_some_iff.1 upgrading
  simp [send, found, mode]

theorem Room.mem_of_hears
    {room : Room}
    {clientId : ClientId}
    (hears : room.Hears clientId) :
    clientId ∈ room.members := by
  obtain ⟨member, present, -⟩ := hears
  exact ExtTreeMap.mem_iff_isSome_getElem?.2 (by simp [present])

/-- In every state of an attempt the upgrading room is as the upgrade began. -/
theorem Attempt.upholds
    {reconnectGrace : Duration}
    {start last : RoomTable}
    {admission abort : Call}
    {during older : History}
    {roomId : RoomId}
    {firstId secondId : ClientId}
    (attempt : Attempt start admission during last abort roomId firstId secondId)
    (run : (RoomTable.machine reconnectGrace).Run
      (during ++ (start, admission) :: older) last)
    {former : Room}
    (paired : start.rooms[roomId]? = some former)
    (direct : former.mode = .p2p) :
    ∀ state ∈ last :: during.map Prod.fst, ∃ room,
      state.rooms[roomId]? = some room ∧ room.mode = .upgrading ∧
        former.Upholds room := by
  have upgrading := attempt.upgrading
  obtain ⟨authorityRequestId, now, clientId, token, asked⟩ := attempt.admits
  clear attempt
  induction during generalizing last with
  | nil =>
      cases run with
      | next call ran =>
          intro state listed
          obtain rfl := List.mem_singleton.1 listed
          have consistent := RoomTable.consistent_of_run ran
          obtain ⟨room, found, mode⟩ := Option.map_eq_some_iff.1
            (upgrading _ List.mem_cons_self)
          refine ⟨room, found, mode, ?_⟩
          have single : ¬admission.Sweeps := by simp [Call.Sweeps, asked]
          rcases step_direct start admission single with same |
            ⟨move, taken, -⟩
          · have stays : (start.step admission).rooms[roomId]? = some room :=
              found
            rw [same, paired] at stays
            cases stays
            simp [direct] at mode
          · have moved := taken.room consistent.wellFormed roomId
            rw [paired, show (start.step admission).rooms[roomId]? = some room
              from found] at moved
            exact moved.begins
              (consistent.wellFormed.rooms roomId former paired) direct mode
  | cons event during inductionHypothesis =>
      cases run with
      | next call ran =>
          rename_i before
          have earlier := inductionHypothesis ran
            fun state listed => upgrading state (List.mem_cons_of_mem _ listed)
          intro state listed
          rcases List.mem_cons.1 listed with rfl | listed
          · obtain ⟨room, found, mode, upholds⟩ :=
              earlier before List.mem_cons_self
            obtain ⟨stored, becomes, still⟩ := Option.map_eq_some_iff.1
              (upgrading _ List.mem_cons_self)
            exact ⟨stored, becomes, still,
              ((RoomTable.consistent_of_run ran).attempts found becomes mode
                upholds).1 still⟩
          · exact earlier state listed

/-- A failed attempt drops what is sent during it, and nothing else: no message
is accepted, the signal epoch stays, the two members keep their seats and what
was queued in every state of the attempt, and unless the attempt ends with a
timeout that removes one of them they find their room as it was. -/
theorem attempt_drops_only
    {reconnectGrace : Duration}
    {start last : RoomTable}
    {admission abort : Call}
    {during older : History}
    {roomId : RoomId}
    {firstId secondId : ClientId}
    (run : (RoomTable.machine reconnectGrace).Run
      (during ++ (start, admission) :: older) last)
    (attempt : Attempt start admission during last abort roomId firstId
      secondId) :
    (∀ event ∈ during, ∀ clientId signalEpoch message,
      event.2.operation = .send roomId clientId signalEpoch message ->
      (event.1.send event.2.order roomId clientId signalEpoch message).1 =
          .ok .dropped ∧
        event.1.step event.2 = event.1) ∧
    (last.step abort).signalEpoch? roomId = start.signalEpoch? roomId ∧
    (∀ state ∈ last :: during.map Prod.fst,
      ∀ clientId, clientId = firstId ∨ clientId = secondId ->
      state.queue roomId clientId = start.queue roomId clientId ∧
      (state.member? roomId clientId).isSome) ∧
    ((∀ now, abort.operation ≠ .handleTimeout now) ->
      ∀ clientId, clientId = firstId ∨ clientId = secondId ->
      ((last.step abort).member? roomId clientId).isSome) ∧
    ((∀ clientId, (start.member? roomId clientId).isSome ->
        ((last.step abort).member? roomId clientId).isSome) ->
      ∀ clientId, clientId = firstId ∨ clientId = secondId ->
      (last.step abort).queue roomId clientId =
        start.queue roomId clientId) := by
  obtain ⟨former, paired, direct, hears, hearsToo⟩ := attempt.paired
  have throughout := attempt.upholds run paired direct
  obtain ⟨room, found, mode, upholds⟩ := throughout last List.mem_cons_self
  obtain ⟨stored, becomes, back⟩ := Option.map_eq_some_iff.1 attempt.aborted
  obtain ⟨restores, kept⟩ := ((RoomTable.consistent_of_run run).attempts found
    becomes mode upholds).2 back
  have joined (clientId : ClientId)
      (either : clientId = firstId ∨ clientId = secondId) :
      clientId ∈ former.members := by
    rcases either with rfl | rfl
    · exact Room.mem_of_hears hears
    · exact Room.mem_of_hears hearsToo
  refine ⟨fun event listed clientId signalEpoch message asked => ?_, ?_,
    fun state listed clientId either => ?_, fun settled clientId either => ?_,
    fun all clientId either => ?_⟩
  · have dropped := RoomTable.send_of_upgrading (attempt.upgrading event.1
      (List.mem_cons_of_mem _ (List.mem_map_of_mem listed))) event.2.order
        clientId signalEpoch message
    simp [RoomTable.step, asked, dropped]
  · simp [RoomTable.signalEpoch?, becomes, paired, restores.epoch]
  · obtain ⟨room, found, -, upholds⟩ := throughout state listed
    have present := upholds.members clientId (joined clientId either)
    simp only [RoomTable.queue, RoomTable.member?, found, paired,
      Option.map_some, Option.getD_some, Option.bind_some]
    exact ⟨upholds.queue clientId (joined clientId either),
      ExtTreeMap.mem_iff_isSome_getElem?.1 present⟩
  · have present := kept settled clientId (joined clientId either)
    simpa [RoomTable.member?, becomes] using
      ExtTreeMap.mem_iff_isSome_getElem?.1 present
  · simp only [RoomTable.member?, becomes, paired, Option.bind_some,
      ← ExtTreeMap.mem_iff_isSome_getElem?] at all
    simpa [RoomTable.queue, becomes, paired] using
      restores.queue all clientId (joined clientId either)

/-- Two members are admitted and both register. -/
def attemptOperations : List Operation :=
  [.handleSfuInput (.register 1 "sfu" 1 ⟨1, 3⟩),
    .handleSfuInput (.event 1 "sfu" ⟨1, .health ⟨.ready, ⟨1, 3⟩, 0, 0⟩⟩),
    .admitClient 1 0 exampleRoomId 1 "first",
    .admitClient 2 0 exampleRoomId 2 "second",
    .register exampleRoomId 1 "first",
    .register exampleRoomId 2 "second"]

/-- The admission that starts the attempt. -/
def thirdAdmission : Call where
  operation := .admitClient 3 0 exampleRoomId 3 "third"
  order := .sorted

/-- The first member sends, with the epoch of the room, while its upgrade is
waiting for the worker. -/
def attempted : History × RoomTable :=
  (RoomTable.machine 0).play []
    ((RoomTable.played 0 attemptOperations).2.step thirdAdmission)
    [⟨.send exampleRoomId 1 0 "candidate", .sorted⟩]

/-- The worker refuses the first join. -/
def refusal : Call where
  operation := refused 1
  order := .sorted

theorem attempted_run :
    (RoomTable.machine 0).Run
      (attempted.1 ++ ((RoomTable.played 0 attemptOperations).2,
        thirdAdmission) :: (RoomTable.played 0 attemptOperations).1)
      attempted.2 := by
  have run := ((RoomTable.played_run 0 attemptOperations).next
    thirdAdmission).play [⟨.send exampleRoomId 1 0 "candidate", .sorted⟩]
  rw [Machine.play_append] at run
  exact run

theorem attempted_refused :
    Attempt (RoomTable.played 0 attemptOperations).2 thirdAdmission
      attempted.1 attempted.2 refusal exampleRoomId 1 2 where
  different := by decide
  paired := by
    have checked : (RoomTable.played 0 attemptOperations).2.rooms[
        exampleRoomId]?.any (fun room =>
          decide (room.mode = .p2p) &&
            (room.members[1]?.any (·.registered) &&
              room.members[2]?.any (·.registered))) = true := by
      decide +kernel
    obtain ⟨room, found, passes⟩ := (Option.any_eq_true _ _).1 checked
    simp only [Bool.and_eq_true, decide_eq_true_eq] at passes
    obtain ⟨direct, first, second⟩ := passes
    exact ⟨room, found, direct, (Option.any_eq_true _ _).1 first,
      (Option.any_eq_true _ _).1 second⟩
  admits := ⟨3, 0, 3, "third", rfl⟩
  upgrading := by
    have checked : (attempted.2 :: attempted.1.map Prod.fst).all (fun state =>
        state.mode? exampleRoomId = some .upgrading) = true := by
      decide +kernel
    exact fun state listed =>
      of_decide_eq_true (List.all_eq_true.1 checked state listed)
  aborted := by decide +kernel

theorem attempt_drops_only_refused :
    (attempted.2.step refusal).signalEpoch? exampleRoomId =
        (RoomTable.played 0 attemptOperations).2.signalEpoch? exampleRoomId ∧
      ((attempted.2.step refusal).member? exampleRoomId 1).isSome := by
  obtain ⟨-, epoch, -, present, -⟩ :=
    attempt_drops_only attempted_run attempted_refused
  exact ⟨epoch, present nofun 1 (Or.inl rfl)⟩

/-- A message that is sent during the attempt, with the epoch of the room, is
neither handed over nor queued. -/
theorem attempt_loses_message :
    ¬∀ (start last : RoomTable) (admission abort : Call)
      (during older : History) (roomId : RoomId)
      (firstId secondId : ClientId),
      (RoomTable.machine 0).Run (during ++ (start, admission) :: older) last ->
      Attempt start admission during last abort roomId firstId secondId ->
      ∀ event ∈ during, ∀ signalEpoch message,
        event.2.operation = .send roomId firstId signalEpoch message ->
        event.1.signalEpoch? roomId = some signalEpoch ->
        message ∈ received during roomId firstId secondId ∨
          message ∈ (last.step abort).queue roomId firstId := by
  intro delivers
  have sent := delivers _ _ _ _ _ _ _ _ _ attempted_run attempted_refused _
    List.mem_cons_self 0 "candidate" rfl (by decide +kernel)
  revert sent
  decide +kernel

end V2
end Signaling
