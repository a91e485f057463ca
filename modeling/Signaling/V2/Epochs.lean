import Signaling.V2.Relay

/-!
# Signal epochs

The epoch of a room counts the commits of upgrades and downgrades since the room
was created. A message is accepted under the present epoch only, and a commit
empties the queues, so that no message outlives its epoch.
-/

namespace Signaling
namespace V2

open Std (ExtTreeMap ExtTreeSet)
open RoomTable

/-- The mode of the room has been switched by an upgrade or by a downgrade. -/
def Room.commits (before after : Room) : Bool :=
  before.upgrade.isSome && after.mode = .sfu && after.upgrade.isNone
    || before.mode = .sfu && after.mode = .p2p

/-- The call commits a change of the room's mode. -/
def RoomTable.commitsIn
    (table : RoomTable)
    (roomId : RoomId)
    (call : Call) : Bool :=
  match table.rooms[roomId]?, (table.step call).rooms[roomId]? with
  | some before, some after => before.commits after
  | _, _ => false

/-- The number of mode commits of a room in a history. -/
def commits
    (roomId : RoomId)
    (history : History) : Nat :=
  history.countP fun event => event.1.commitsIn roomId event.2

/-- The call moves the epoch of every room that it keeps by one when it commits
a change of the room's mode, and leaves it alone otherwise. -/
def EpochStep
    (table : RoomTable)
    (call : Call) : Prop :=
  ∀ (roomId : RoomId) (before after : Room),
    table.rooms[roomId]? = some before ->
    (table.step call).rooms[roomId]? = some after ->
    after.signalEpoch = before.signalEpoch +
      if before.commits after then 1 else 0

/-- The call sends the message under the given epoch, and the table queues it. -/
def Call.Queues
    (call : Call)
    (table : RoomTable)
    (roomId : RoomId)
    (senderId : ClientId)
    (message : String)
    (signalEpoch : Nat) : Prop :=
  call.operation = .send roomId senderId signalEpoch message ∧
    (table.send call.order roomId senderId signalEpoch message).1 =
      .ok (.p2p none)

/-- The message was queued by a send under the given epoch in a step of the
history, and the room has existed ever since. -/
def SentUnder
    (history : History)
    (roomId : RoomId)
    (senderId : ClientId)
    (message : String)
    (signalEpoch : Nat) : Prop :=
  ∃ newer table call older,
    history = newer ++ (table, call) :: older ∧
    call.Queues table roomId senderId message signalEpoch ∧
    ∀ event ∈ newer, (event.1.rooms[roomId]?).isSome = true

/-- A change of a room commits and moves the epoch on, or does neither. -/
def Room.Steps (before after : Room) : Prop :=
  before.commits after = true ∧
      after.signalEpoch = saturatingAdd before.signalEpoch 1 ∨
    before.commits after = false ∧ after.signalEpoch = before.signalEpoch

theorem Room.Steps.of_kept
    {before after : Room}
    (mode : after.mode = before.mode)
    (upgrade : after.upgrade = before.upgrade)
    (epoch : after.signalEpoch = before.signalEpoch) :
    before.Steps after := by
  refine Or.inr ⟨?_, epoch⟩
  unfold Room.commits
  rw [mode, upgrade]
  cases before.upgrade <;> cases before.mode <;> rfl

theorem Room.Steps.of_uncommitted
    {before after : Room}
    (forwarded : after.mode ≠ .sfu)
    (direct : after.mode = .p2p -> before.mode ≠ .sfu)
    (epoch : after.signalEpoch = before.signalEpoch) :
    before.Steps after := by
  refine Or.inr ⟨?_, epoch⟩
  unfold Room.commits
  simp only [forwarded, decide_false, Bool.and_false, Bool.false_and,
    Bool.false_or, Bool.and_eq_false_iff, decide_eq_false_iff_not]
  by_cases mode : after.mode = .p2p
  · exact Or.inl (direct mode)
  · exact Or.inr mode

/-- Putting a member back with its queue changes no queue. -/
theorem Room.Queues.of_insert
    {room after : Room}
    {clientId senderId : ClientId}
    {member replaced : Member}
    {message : String}
    (held : room.members[clientId]? = some member)
    (members : after.members = room.members.insert clientId replaced)
    (queue : replaced.queuedMessages = member.queuedMessages)
    (queues : after.Queues senderId message) :
    room.Queues senderId message := by
  obtain ⟨other, found, listed⟩ := queues
  rw [members] at found
  by_cases same : senderId = clientId
  · subst same
    simp only [ExtTreeMap.getElem?_insert_self, Option.some.injEq] at found
    subst found
    exact ⟨member, held, queue ▸ listed⟩
  · exact ⟨other, by grind, listed⟩

namespace RoomMoved

variable
  {roomId : RoomId}
  {move : Move}
  {room result : Option Room}
  {after : Room}

/-- Every change of a stored room is one step of its epoch. -/
theorem steps
    (moved : RoomMoved roomId move room result)
    (wellFormed : ∀ stored, room = some stored -> stored.WellFormed)
    {before : Room}
    (found : room = some before)
    (present : result = some after) :
    before.Steps after := by
  cases moved with
  | kept =>
      rw [found] at present
      cases present
      exact .of_kept rfl rfl rfl
  | create => cases found
  | joinDirect | dropWithLeave | dropWithGrace | queueMessage | requestLeave
  | retryLeave | beginJoin | completeJoin | refuseJoin | refuseLeave
  | clearDeadline | rearmGrace =>
      cases found
      cases present
      exact .of_kept rfl rfl rfl
  | beginUpgrade =>
      cases found
      cases present
      exact .of_uncommitted (by rintro ⟨⟩) (by rintro ⟨⟩) rfl
  | register =>
      cases found
      cases present
      exact .of_kept (by simp) (by simp) (by simp)
  | removeFailed | completeLeave =>
      cases found
      obtain rfl := Room.eq_of_stored present
      exact .of_kept rfl rfl rfl
  | removeDirect =>
      cases found
      obtain rfl := Room.eq_of_stored present
      exact .of_kept (by simp) (by simp) (by simp)
  | expireMembers =>
      cases found
      obtain rfl := Room.eq_of_stored present
      exact .of_kept (by simp) (by simp) (by simp)
  | reportFailure | refuseSync | expireRoom =>
      cases found
      cases present
      exact .of_uncommitted (by rintro ⟨⟩) (by rintro ⟨⟩) rfl
  | advanceUpgrade requestId upgrading unfinished =>
      cases found
      cases present
      refine Or.inr ⟨?_, rfl⟩
      unfold Room.commits
      cases mode : before.mode <;> simp [Room.advanceUpgrade, mode]
  | commitUpgrade requestId upgrading finished =>
      cases found
      cases present
      refine Or.inl ⟨?_, rfl⟩
      simp [Room.commits, Room.commitSfu, upgrading]
  | abortUpgrade requestId upgrading =>
      cases found
      cases present
      refine .of_uncommitted (by rintro ⟨⟩) (fun _ forwarded => ?_) rfl
      simp [((wellFormed _ rfl).forwarded forwarded).2] at upgrading
  | expireUpgrade instanceId upgrading running =>
      cases found
      cases present
      exact .of_uncommitted (by rintro ⟨⟩) (fun _ => by simp [upgrading]) rfl
  | downgrade forwarded small noJoin noLeave clients =>
      cases found
      cases present
      refine Or.inl ⟨?_, rfl⟩
      simp [Room.commits, Room.commitP2p, forwarded]

/-- A message in a queue was there before under the same epoch, or it is the one
that the move queues. -/
theorem queued
    {senderId : ClientId}
    {message : String}
    (moved : RoomMoved roomId move room result)
    (present : result = some after)
    (queues : after.Queues senderId message) :
    ∃ before, room = some before ∧ before.signalEpoch = after.signalEpoch ∧
      (move = .queueMessage roomId senderId message ∨
        before.Queues senderId message) := by
  obtain ⟨member, found, listed⟩ := queues
  cases moved with
  | kept => exact ⟨after, present, rfl, Or.inr ⟨member, found, listed⟩⟩
  | create =>
      cases present
      simp only [Room.create] at found
      grind [newMember]
  | joinDirect | beginJoin =>
      cases present
      refine ⟨_, rfl, rfl, Or.inr ⟨member, ?_, listed⟩⟩
      simp only [Room.insertMember] at found
      grind [newMember]
  | beginUpgrade =>
      cases present
      simp only [Room.startUpgrade, Room.relive, Room.insertMember,
        ExtTreeMap.getElem?_map, Option.map_eq_some_iff] at found
      obtain ⟨former, before, rfl⟩ := found
      refine ⟨_, rfl, rfl, Or.inr ⟨former, ?_, listed⟩⟩
      grind [newMember]
  | register settled held unregistered =>
      cases present
      rw [Room.registerMember_members] at found
      split at found
      · rename_i same
        subst same
        cases found
        exact ⟨_, rfl, by simp, Or.inr ⟨_, held, listed⟩⟩
      split at found
      · obtain ⟨former, -, rfl⟩ := Option.map_eq_some_iff.1 found
        simp at listed
      · exact ⟨_, rfl, by simp, Or.inr ⟨member, found, listed⟩⟩
  | dropWithLeave held =>
      cases present
      exact ⟨_, rfl, rfl, Or.inr (.of_insert held rfl (by rfl)
        ⟨member, found, listed⟩)⟩
  | dropWithGrace deadline held =>
      cases present
      exact ⟨_, rfl, rfl, Or.inr (.of_insert held rfl (by rfl)
        ⟨member, found, listed⟩)⟩
  | queueMessage held settled direct =>
      rename_i room clientId former sent
      cases present
      simp only [Room.insertMember] at found
      by_cases same : senderId = clientId
      · subst same
        simp only [ExtTreeMap.getElem?_insert_self, Option.some.injEq] at found
        subst found
        rcases List.mem_append.1 listed with earlier | last
        · exact ⟨room, rfl, rfl, Or.inr ⟨former, held, earlier⟩⟩
        · rw [List.mem_singleton.1 last]
          exact ⟨room, rfl, rfl, Or.inl rfl⟩
      · exact ⟨room, rfl, rfl, Or.inr ⟨member, by grind, listed⟩⟩
  | requestLeave | retryLeave | completeJoin | refuseLeave | clearDeadline
  | reportFailure | refuseSync | advanceUpgrade =>
      cases present
      exact ⟨_, rfl, rfl, Or.inr ⟨member, found, listed⟩⟩
  | removeFailed =>
      obtain rfl := Room.eq_of_stored present
      simp only [Room.eraseMember] at found
      exact ⟨_, rfl, rfl, Or.inr ⟨member, by grind, listed⟩⟩
  | removeDirect =>
      obtain rfl := Room.eq_of_stored present
      obtain ⟨former, before, same⟩ := Room.promoteSurvivor_members _ _ found
      simp only [Room.eraseMember] at before
      exact ⟨_, rfl, by simp, Or.inr ⟨former, by grind, by grind⟩⟩
  | expireMembers =>
      obtain rfl := Room.eq_of_stored present
      obtain ⟨former, before, -, same⟩ := Room.expireMembers_members _ _ found
      exact ⟨_, rfl, by simp, Or.inr ⟨former, before, by grind⟩⟩
  | commitUpgrade =>
      cases present
      simp only [Room.commitSfu, ExtTreeMap.getElem?_map,
        Option.map_eq_some_iff] at found
      obtain ⟨former, -, rfl⟩ := found
      simp at listed
  | abortUpgrade | expireUpgrade =>
      cases present
      simp only [Room.release, Room.rollBack, Room.eraseMember] at found
      exact ⟨_, rfl, rfl, Or.inr ⟨member, by grind, listed⟩⟩
  | refuseJoin =>
      cases present
      simp only [Room.eraseMember] at found
      exact ⟨_, rfl, rfl, Or.inr ⟨member, by grind, listed⟩⟩
  | completeLeave =>
      obtain rfl := Room.eq_of_stored present
      simp only [Room.afterLeave, Room.eraseMember] at found
      exact ⟨_, rfl, rfl, Or.inr ⟨member, by grind, listed⟩⟩
  | expireRoom =>
      cases present
      simp only [Room.fail] at found
      refine ⟨_, rfl, rfl, Or.inr ⟨member, ?_, listed⟩⟩
      split at found
      · exact found
      · grind
  | downgrade =>
      cases present
      simp only [Room.commitP2p, ExtTreeMap.getElem?_map,
        Option.map_eq_some_iff] at found
      obtain ⟨former, -, rfl⟩ := found
      simp at listed
  | rearmGrace deadline held =>
      rename_i room clientId former unregistered forwarded
      cases present
      have members : (room.modifyMember clientId fun member =>
          { member with reconnectDeadline := some deadline }).members =
          room.members.insert clientId
            { former with reconnectDeadline := some deadline } := by
        apply ExtTreeMap.ext_getElem?
        simp only [Room.modifyMember]
        grind
      exact ⟨_, rfl, rfl, Or.inr (.of_insert held members (by rfl)
        ⟨member, found, listed⟩)⟩

end RoomMoved

/-- The registration of a worker touches no room. -/
theorem Arises.registering
    {table middle : RoomTable}
    {call : Call}
    {move : Move}
    {connectionId : Sfu.ConnectionId}
    {instanceId : InstanceId}
    {requestId : Nat}
    {capacity : Sfu.Capacity}
    (arises : Arises table call middle move)
    (asked : call.operation = .handleSfuInput
      (.register connectionId instanceId requestId capacity)) :
    move.room? = none := by
  cases move <;> first
    | rfl
    | (simp only [Arises, Call.Registers, Call.Removes, Call.Reports,
        Call.Accepts, Call.Refuses, Call.Answers, asked] at arises
       grind)

/-- What a timeout makes of the mode and the epoch of a room: both stay, the room
fails, its upgrade is rolled back, or it is downgraded once, when no worker that
expires lists it. -/
inductive Swept
    (table : RoomTable)
    (now : Instant)
    (roomId : RoomId)
    (before after : Room) : Prop
  | kept
      (mode : after.mode = before.mode)
      (upgrade : after.upgrade = before.upgrade)
      (epoch : after.signalEpoch = before.signalEpoch)
  | failed
      (mode : after.mode = .failed)
      (epoch : after.signalEpoch = before.signalEpoch)
  | rolledBack
      (upgrading : before.mode = .upgrading)
      (mode : after.mode = .p2p)
      (epoch : after.signalEpoch = before.signalEpoch)
  | downgraded
      (forwarded : before.mode = .sfu)
      (mode : after.mode = .p2p)
      (epoch : after.signalEpoch = saturatingAdd before.signalEpoch 1)
      (served : ∀ instanceId, table.Expires now instanceId ->
        ¬table.Lists instanceId roomId)

namespace Swept

variable
  {table middle next : RoomTable}
  {now : Instant}
  {roomId : RoomId}
  {before room after : Room}

theorem steps
    (swept : Swept table now roomId before after) :
    before.Steps after := by
  cases swept with
  | kept mode upgrade epoch => exact .of_kept mode upgrade epoch
  | failed mode epoch =>
      exact .of_uncommitted (by simp [mode]) (by simp [mode]) epoch
  | rolledBack upgrading mode epoch =>
      exact .of_uncommitted (by simp [mode]) (by simp [upgrading]) epoch
  | downgraded forwarded mode epoch served =>
      exact Or.inl ⟨by simp [Room.commits, forwarded, mode], epoch⟩

/-- A move that keeps mode, upgrade and epoch. -/
theorem same
    (swept : Swept table now roomId before room)
    (mode : after.mode = room.mode)
    (upgrade : after.upgrade = room.upgrade)
    (epoch : after.signalEpoch = room.signalEpoch) :
    Swept table now roomId before after := by
  cases swept with
  | kept mode' upgrade' epoch' =>
      exact .kept (mode.trans mode') (upgrade.trans upgrade')
        (epoch.trans epoch')
  | failed mode' epoch' => exact .failed (mode.trans mode') (epoch.trans epoch')
  | rolledBack upgrading mode' epoch' =>
      exact .rolledBack upgrading (mode.trans mode') (epoch.trans epoch')
  | downgraded forwarded mode' epoch' served =>
      exact .downgraded forwarded (mode.trans mode') (epoch.trans epoch') served

/-- Every move of a timeout carries on what it makes of a room. -/
theorem moved
    {call : Call}
    {phase phase' : Option InstanceId}
    {move : Move}
    (taken : Moved phase middle move phase' next)
    (arises : Arises table call middle move)
    (asked : call.operation = .handleTimeout now)
    (consistent : middle.Consistent)
    (initial : table.rooms[roomId]? = some before)
    (stored : next.rooms[roomId]? = some after)
    (swept : ∀ room, middle.rooms[roomId]? = some room ->
      Swept table now roomId before room) :
    Swept table now roomId before after := by
  have listed := arises.expiring asked
  have moved := taken.room consistent.wellFormed roomId
  generalize here : middle.rooms[roomId]? = was at moved swept
  generalize next.rooms[roomId]? = result at moved stored
  cases moved with
  | kept => exact swept after stored
  | retryLeave | clearDeadline | rearmGrace =>
      cases stored
      exact (swept _ rfl).same rfl rfl rfl
  | expireMembers =>
      obtain rfl := Room.eq_of_stored stored
      exact (swept _ rfl).same (by simp) (by simp) (by simp)
  | expireUpgrade instanceId upgrading running =>
      cases stored
      cases swept _ rfl with
      | kept mode same epoch =>
          exact .rolledBack (by rw [← mode, upgrading]) rfl epoch
      | failed mode => simp [upgrading] at mode
      | rolledBack _ mode => simp [upgrading] at mode
      | downgraded _ mode => simp [upgrading] at mode
  | expireRoom instanceId settled =>
      cases stored
      obtain ⟨moment, timed, expires, was, -⟩ := arises
      rw [asked] at timed
      cases timed
      cases swept _ rfl with
      | kept mode same epoch => exact .failed rfl epoch
      | failed mode epoch => exact .failed rfl epoch
      | rolledBack _ mode epoch => exact .failed rfl epoch
      | downgraded _ mode epoch served =>
          exact absurd was (served instanceId expires)
  | downgrade forwarded small noJoin noLeave clients =>
      cases stored
      obtain ⟨moment, room, timed, was, stays, -, -, served⟩ := arises
      rw [asked] at timed
      cases timed
      rw [here] at stays
      rw [initial] at was
      cases was
      cases stays
      exact .downgraded forwarded rfl rfl served
  | _ => cases listed

end Swept

namespace RoomTable.Consistent

variable
  {table : RoomTable}
  {call : Call}

/-- Every call is one step of the epoch of each room that it keeps. -/
theorem steps
    (consistent : table.Consistent)
    {roomId : RoomId}
    {before after : Room}
    (found : table.rooms[roomId]? = some before)
    (stored : (table.step call).rooms[roomId]? = some after) :
    before.Steps after := by
  by_cases sweeps : call.Sweeps
  · unfold Call.Sweeps at sweeps
    split at sweeps
    · rename_i now asked
      have swept := @step_invariant table call
        (fun _ middle => ∀ room, middle.rooms[roomId]? = some room ->
          Swept table now roomId before room)
        consistent (fun phase middle move phase' next taken arises sound kept room here =>
          Swept.moved taken arises asked sound found here kept)
        (fun room here => by
          rw [found] at here
          cases here
          exact .kept rfl rfl rfl)
      exact (swept after stored).steps
    · rename_i connectionId instanceId requestId capacity asked
      have same := @step_invariant table call
        (fun _ middle => middle.rooms[roomId]? = table.rooms[roomId]?)
        consistent (fun phase middle move phase' next taken arises sound kept => by
          rw [← kept]
          refine (taken.room sound.wellFormed roomId).elsewhere ?_
          rw [arises.registering asked]
          nofun)
        rfl
      rw [same, found] at stored
      cases stored
      exact .of_kept rfl rfl rfl
    · cases sweeps
  · rcases step_direct table call sweeps with same | ⟨move, taken, -⟩
    · rw [same, found] at stored
      cases stored
      exact .of_kept rfl rfl rfl
    · exact (taken.room consistent.wellFormed roomId).steps
        (consistent.wellFormed.rooms roomId) found stored

end RoomTable.Consistent

/-- A message that is relayed or queued carries the epoch of its room. -/
theorem send_epoch
    {table : RoomTable}
    {order : VisitOrder}
    {roomId : RoomId}
    {clientId : ClientId}
    {signalEpoch : Nat}
    {message : String}
    {delivery : Option Delivery}
    (sent : (table.send order roomId clientId signalEpoch message).1 =
      .ok (.p2p delivery)) :
    ∃ room, table.rooms[roomId]? = some room ∧
      room.signalEpoch = signalEpoch ∧
      ∀ reached, delivery = some reached ->
        reached.roomId = roomId ∧ reached.message = message := by
  unfold RoomTable.send at sent
  split at sent
  · cases sent
  rename_i room found
  split at sent
  · cases sent
  rename_i current
  simp only [Bool.or_eq_true, decide_eq_true_eq, not_or, ne_eq, not_not]
    at current
  refine ⟨room, found, current.1, fun reached delivered => ?_⟩
  subst delivered
  split at sent
  · cases sent
  split at sent
  · split at sent
    · cases sent
    · split at sent <;> cases sent
  dsimp only at sent
  split at sent
  · cases sent
    exact ⟨rfl, rfl⟩
  · split at sent <;> cases sent

namespace RoomTable.Consistent

variable
  {table : RoomTable}
  {call : Call}
  {roomId : RoomId}
  {after : Room}

/-- A room that a call creates starts at epoch zero. -/
theorem epoch_of_created
    (consistent : table.Consistent)
    (absent : table.rooms[roomId]? = none)
    (stored : (table.step call).rooms[roomId]? = some after) :
    after.signalEpoch = 0 := by
  by_cases sweeps : call.Sweeps
  · have stays := @step_invariant table call
      (fun _ middle => middle.rooms[roomId]? = none)
      consistent (fun phase middle move phase' next taken arises sound kept => by
        have moved := taken.room sound.wellFormed roomId
        rw [kept] at moved
        generalize next.rooms[roomId]? = result at moved
        cases moved with
        | kept => rfl
        | create =>
            unfold Call.Sweeps at sweeps
            split at sweeps
            · rename_i asked
              cases arises.expiring asked
            · rename_i asked
              cases arises.registering asked
            · cases sweeps)
      absent
    rw [stays] at stored
    cases stored
  · rcases step_direct table call sweeps with same | ⟨move, taken, -⟩
    · rw [same, absent] at stored
      cases stored
    · have moved := taken.room consistent.wellFormed roomId
      rw [absent, stored] at moved
      cases moved with
      | create => rfl

/-- A message that is queued after a call was queued by the call, or before it
under the same epoch. -/
theorem queues_before
    {senderId : ClientId}
    {message : String}
    (consistent : table.Consistent)
    (stored : (table.step call).rooms[roomId]? = some after)
    (queues : after.Queues senderId message) :
    ∃ before, table.rooms[roomId]? = some before ∧
      before.signalEpoch = after.signalEpoch ∧
      (call.Queues table roomId senderId message after.signalEpoch ∨
        before.Queues senderId message) := by
  refine @step_invariant table call (fun _ middle => ∀ room : Room,
    middle.rooms[roomId]? = some room -> room.Queues senderId message ->
    ∃ before, table.rooms[roomId]? = some before ∧
      before.signalEpoch = room.signalEpoch ∧
      (call.Queues table roomId senderId message room.signalEpoch ∨
        before.Queues senderId message)) consistent
    (fun phase middle move phase' next taken arises sound kept room here listed =>
      ?_)
    (fun room found listed => ⟨room, found, rfl, Or.inr listed⟩) after stored
    queues
  obtain ⟨was, found, epoch, queued | held⟩ :=
    (taken.room sound.wellFormed roomId).queued here listed
  · subst queued
    obtain ⟨rfl, signalEpoch, asked, sent⟩ := arises
    obtain ⟨same, there, current, -⟩ := send_epoch sent
    rw [found] at there
    cases there
    subst current
    exact ⟨was, found, epoch, Or.inl (epoch ▸ ⟨asked, sent⟩)⟩
  · rw [← epoch]
    exact kept was found held

end RoomTable.Consistent

/-- The epoch of a room is at most the number of its commits. -/
theorem epoch_le_commits
    {reconnectGrace : Duration}
    {history : History}
    {table : RoomTable}
    (run : (RoomTable.machine reconnectGrace).Run history table)
    {roomId : RoomId}
    {room : Room}
    (found : table.rooms[roomId]? = some room) :
    room.signalEpoch ≤ commits roomId history := by
  have free : Machine.Guarded (fun _ _ => True) history := fun _ _ => trivial
  refine run.history_invariant (fun history table => ∀ room : Room,
    table.rooms[roomId]? = some room -> room.signalEpoch ≤ commits roomId history)
    (fun table starts room found => ?_)
    (fun history before call ran _ bounded after stored => ?_) free room found
  · obtain rfl : table = RoomTable.new reconnectGrace := starts
    simp at found
  · have consistent := RoomTable.consistent_of_run ran
    cases was : before.rooms[roomId]? with
    | none =>
        rw [consistent.epoch_of_created was stored]
        exact Nat.zero_le _
    | some former =>
        have earlier := bounded former was
        have stored : (before.step call).rooms[roomId]? = some after := stored
        unfold commits at earlier ⊢
        rw [List.countP_cons]
        simp only [RoomTable.commitsIn, was, stored]
        rcases consistent.steps was stored with ⟨committed, epoch⟩ |
          ⟨uncommitted, epoch⟩
        · rw [committed, epoch, if_pos rfl]
          exact (Nat.min_le_left _ _).trans (Nat.add_le_add_right earlier 1)
        · rw [epoch]
          exact earlier.trans (Nat.le_add_right _ _)

/-- What the epochs of a run promise. -/
structure EpochSafe
    (history : History)
    (table : RoomTable) : Prop where
  steps : ∀ event ∈ history, EpochStep event.1 event.2
  queued : ∀ (roomId : RoomId) (room : Room) (senderId : ClientId)
    (message : String),
    table.rooms[roomId]? = some room -> room.Queues senderId message ->
    SentUnder history roomId senderId message room.signalEpoch
  delivered : ∀ (newer older : History) (before : RoomTable) (call : Call),
    history = newer ++ (before, call) :: older ->
    ∀ roomId clientId message reached,
      call.RelaysDirect before roomId clientId message (some reached) ->
      ∃ room : Room, before.rooms[reached.roomId]? = some room ∧
        call.operation =
          .send reached.roomId clientId room.signalEpoch reached.message
  handed : ∀ (newer older : History) (before : RoomTable) (call : Call),
    history = newer ++ (before, call) :: older ->
    ∀ roomId clientId messages,
      call.HandsOver before roomId clientId messages ->
      ∀ message ∈ messages, ∃ (room : Room) (senderId : ClientId),
        before.rooms[roomId]? = some room ∧
        SentUnder older roomId senderId message room.signalEpoch

/-- The part of a history before some step has at most as many commits. -/
theorem commits_older
    (roomId : RoomId)
    (newer older : History) :
    commits roomId older ≤ commits roomId (newer ++ older) := by
  unfold commits
  rw [List.countP_append]
  exact Nat.le_add_left _ _

/-- A queued message was sent under the epoch that its room has now. -/
theorem sentUnder_of_queued
    {reconnectGrace : Duration}
    {history : History}
    {table : RoomTable}
    (run : (RoomTable.machine reconnectGrace).Run history table)
    {roomId : RoomId}
    {room : Room}
    {senderId : ClientId}
    {message : String}
    (found : table.rooms[roomId]? = some room)
    (queues : room.Queues senderId message) :
    SentUnder history roomId senderId message room.signalEpoch := by
  have free : Machine.Guarded (fun _ _ => True) history := fun _ _ => trivial
  refine run.history_invariant (fun history table => ∀ room : Room,
    table.rooms[roomId]? = some room -> room.Queues senderId message ->
    SentUnder history roomId senderId message room.signalEpoch)
    (fun table starts room found => ?_)
    (fun history before call ran _ sent after stored queues => ?_) free room
    found queues
  · obtain rfl : table = RoomTable.new reconnectGrace := starts
    simp at found
  · obtain ⟨former, was, epoch, queued | held⟩ :=
      (RoomTable.consistent_of_run ran).queues_before stored queues
    · exact ⟨[], before, call, history, rfl, queued, by simp⟩
    · obtain ⟨newer, accepting, sending, older, rfl, queued, since⟩ :=
        sent former was held
      refine ⟨(before, call) :: newer, accepting, sending, older, rfl,
        epoch ▸ queued, fun event present => ?_⟩
      rcases List.mem_cons.1 present with rfl | earlier
      · simp [was]
      · exact since event earlier

/-- Along every run with fewer commits of a room than an epoch can count, epochs
move exactly at the commits, and every message that is queued, delivered or
handed over was sent under the present epoch of its room. -/
theorem epochs_never_leak
    {reconnectGrace : Duration}
    {history : History}
    {table : RoomTable}
    (run : (RoomTable.machine reconnectGrace).Run history table)
    (few : ∀ roomId, commits roomId history < u64Max) :
    EpochSafe history table where
  steps event taken roomId before after found stored := by
    obtain ⟨newer, older, rfl, ran⟩ := run.at_step taken
    have bounded : before.signalEpoch < u64Max :=
      (epoch_le_commits ran found).trans_lt (((commits_older roomId [event]
        older).trans (commits_older roomId newer (event :: older))).trans_lt
          (few roomId))
    rcases (RoomTable.consistent_of_run ran).steps found stored with
      ⟨committed, epoch⟩ | ⟨uncommitted, epoch⟩
    · rw [if_pos committed, epoch, saturatingAdd_eq bounded]
    · rw [uncommitted, epoch]
      rfl
  queued roomId room senderId message found queues :=
    sentUnder_of_queued run found queues
  delivered newer older before call taken roomId clientId message reached
      relays := by
    obtain ⟨signalEpoch, asked, sent⟩ := relays
    obtain ⟨room, found, rfl, same⟩ := send_epoch sent
    obtain ⟨rfl, rfl⟩ := same reached rfl
    exact ⟨room, found, asked⟩
  handed newer older before call taken roomId clientId messages hands message
      listed := by
    subst taken
    obtain ⟨room, senderId, found, -, -, -, queues⟩ :=
      queues_of_handed hands listed
    exact ⟨room, senderId, found, sentUnder_of_queued run.before found queues⟩

theorem epochs_never_leak_forwarded :
    EpochSafe (RoomTable.played 0 forwardedOperations).1
      (RoomTable.played 0 forwardedOperations).2 := by
  refine epochs_never_leak (RoomTable.played_run 0 forwardedOperations)
    fun roomId => ?_
  have short : (RoomTable.played 0 forwardedOperations).1.length < u64Max := by
    decide +kernel
  exact List.countP_le_length.trans_lt short

end V2
end Signaling
