import Signaling.V2.Invariants

/-!
# Isolation of workers

What an input of one worker leaves alone: rooms that other workers or none
carry, the records of other workers, and the commands addressed to them. The
table checks neither the addressee of a result nor the assignment of a room
that is reported as failed, so this holds of the inputs that do not trespass.
-/

namespace Signaling

namespace Sfu.Input

/-- The worker that an input names as its sender. -/
def instanceId : Input -> String
  | .register _ instanceId _ _ => instanceId
  | .commandResult _ instanceId _ _ => instanceId
  | .event _ instanceId _ => instanceId
  | .disconnected _ instanceId _ => instanceId

/-- The connection on which an input arrives. -/
def connectionId : Input -> ConnectionId
  | .register connectionId _ _ _ => connectionId
  | .commandResult connectionId _ _ _ => connectionId
  | .event connectionId _ _ => connectionId
  | .disconnected connectionId _ _ => connectionId

end Sfu.Input

namespace V2

open Std (ExtTreeMap ExtTreeSet)
open RoomTable

/-- An input arrives on the current session of its worker; a registration makes
its own session the current one. -/
def RoomTable.OnSession
    (table : RoomTable)
    (input : Sfu.Input) : Prop :=
  match input with
  | .register .. => True
  | input => table.connection? input.instanceId = some input.connectionId

/-- Two rooms agree in mode, members, epochs and transition records. -/
structure Room.SameView (room other : Room) : Prop where
  mode : other.mode = room.mode
  members : other.members = room.members
  signalEpoch : other.signalEpoch = room.signalEpoch
  assignmentEpoch : other.assignmentEpoch = room.assignmentEpoch
  upgrade : other.upgrade = room.upgrade
  pendingJoin : other.pendingJoin = room.pendingJoin
  pendingLeave : other.pendingLeave = room.pendingLeave

/-- An input of one worker left everything alone that is not that worker's. -/
structure Isolated
    (instanceId : InstanceId)
    (table after : RoomTable) : Prop where
  rooms : ∀ (roomId : RoomId) (room : Room),
    table.rooms[roomId]? = some room ->
    room.assignedInstance ≠ some instanceId -> ∃ other,
      after.rooms[roomId]? = some other ∧ room.SameView other
  workers : ∀ otherId, otherId ≠ instanceId ->
    after.workers[otherId]? = table.workers[otherId]?
  commands : ∀ (requestId : Nat) (otherId : InstanceId),
    table.commandWorkers[requestId]? = some otherId ->
    otherId ≠ instanceId -> SameCommand table after requestId

/-- No room, worker or outstanding command has changed. -/
structure Unmoved (table after : RoomTable) : Prop where
  rooms : after.rooms = table.rooms
  workers : after.workers = table.workers
  commands : ∀ requestId, SameCommand table after requestId

/-- An input on a worker's current session changes nothing of other workers,
and an input on any other session changes nothing at all. -/
def IsolatedStep
    (table : RoomTable)
    (call : Call) : Prop :=
  ∀ input, call.operation = .handleSfuInput input ->
    (table.OnSession input ->
      Isolated input.instanceId table (table.step call)) ∧
    (¬table.OnSession input -> Unmoved table (table.step call))

/-- A worker's input reaches for what is not its own: it answers another
worker's command, its answer ends a transition of a room that it does not carry
or fails such a room, it reports the failure of such a room, or another worker's
command holds the last command number. -/
inductive Call.Trespasses
    (call : Call)
    (table : RoomTable) : Prop
  | answersOther
      {instanceId owner : InstanceId} {requestId : Nat}
      {pending : PendingCommand} {result : Except Sfu.Error Sfu.CommandOk}
      (answers : call.Answers table instanceId requestId pending result)
      (owned : table.commandWorkers[requestId]? = some owner)
      (other : owner ≠ instanceId)
  | answersAway
      {instanceId : InstanceId} {requestId : Nat} {pending : PendingCommand}
      {result : Except Sfu.Error Sfu.CommandOk} {kind : TransitionKind}
      {roomId : RoomId} {room : Room}
      (answers : call.Answers table instanceId requestId pending result)
      (about : pending.transition? = some (kind, roomId))
      (awaited : table.Awaits pending)
      (found : table.rooms[roomId]? = some room)
      (away : room.assignedInstance ≠ some instanceId)
  | refusesAway
      {instanceId expected : InstanceId} {requestId : Nat} {roomId : RoomId}
      {assignmentEpoch : Nat} {replay : List Sfu.Command} {room : Room}
      (refuses : call.Refuses table instanceId requestId
        (.syncRoom expected roomId assignmentEpoch replay))
      (found : table.rooms[roomId]? = some room)
      (standing : room.mode ≠ .failed)
      (away : room.assignedInstance ≠ some instanceId)
  | reportsAway
      {instanceId : InstanceId} {roomId : RoomId} {room : Room}
      (reports : call.Reports table instanceId roomId)
      (found : table.rooms[roomId]? = some room)
      (standing : room.mode ≠ .failed)
      (away : room.assignedInstance ≠ some instanceId)
  | exhausted
      {input : Sfu.Input} {owner : InstanceId}
      (asked : call.operation = .handleSfuInput input)
      (owned : table.commandWorkers[u64Max]? = some owner)
      (other : owner ≠ input.instanceId)

/-- What an input of one worker has left alone after some of its moves. -/
structure Undisturbed
    (instanceId : InstanceId)
    (before table : RoomTable) : Prop where
  rooms : ∀ (roomId : RoomId) (room : Room),
    before.rooms[roomId]? = some room ->
    room.assignedInstance ≠ some instanceId ->
    table.rooms[roomId]? = some room
  workers : ∀ otherId, otherId ≠ instanceId ->
    table.workers[otherId]? = before.workers[otherId]?
  commands : ∀ (requestId : Nat) (otherId : InstanceId),
    before.commandWorkers[requestId]? = some otherId ->
    otherId ≠ instanceId ->
    requestId < table.nextSfuRequestId ∧ SameCommand before table requestId

namespace Undisturbed

variable
  {instanceId : InstanceId}
  {before table after : RoomTable}
  {roomId : RoomId}
  {room : Room}

theorem isolated
    (kept : Undisturbed instanceId before table) :
    Isolated instanceId before table where
  rooms roomId room found away :=
    ⟨room, kept.rooms roomId room found away, rfl, rfl, rfl, rfl, rfl, rfl, rfl⟩
  workers := kept.workers
  commands requestId otherId owned other :=
    (kept.commands requestId otherId owned other).2

/-- At the start of a call nothing is disturbed, and the commands of other
workers are older than any command that the call will issue. -/
theorem start
    (consistent : before.Consistent)
    (ended : ∀ owner, before.commandWorkers[u64Max]? = some owner ->
      owner = instanceId) :
    Undisturbed instanceId before before where
  rooms _ _ found _ := found
  workers _ _ := rfl
  commands requestId otherId owned other := by
    refine ⟨?_, rfl, rfl, rfl⟩
    have outstanding : before.pendingCommands[requestId]?.isSome := by
      rw [← consistent.records.workers requestId, owned]
      rfl
    rcases consistent.records.numbered requestId outstanding with older | last
    · exact older
    · subst last
      exact absurd (ended otherId owned) other

/-- Rooms, other workers' records and commands that a change keeps stay
undisturbed. -/
theorem of_same
    (kept : Undisturbed instanceId before table)
    (rooms : ∀ (roomId : RoomId) (room : Room),
      before.rooms[roomId]? = some room ->
      room.assignedInstance ≠ some instanceId ->
      after.rooms[roomId]? = table.rooms[roomId]?)
    (workers : ∀ otherId, otherId ≠ instanceId ->
      after.workers[otherId]? = table.workers[otherId]?)
    (commands : ∀ (requestId : Nat) (otherId : InstanceId),
      before.commandWorkers[requestId]? = some otherId ->
      otherId ≠ instanceId -> requestId < table.nextSfuRequestId ->
      SameCommand table after requestId)
    (next : table.nextSfuRequestId ≤ after.nextSfuRequestId) :
    Undisturbed instanceId before after where
  rooms roomId room found away :=
    (rooms roomId room found away).trans (kept.rooms roomId room found away)
  workers otherId other := (workers otherId other).trans (kept.workers otherId other)
  commands requestId otherId owned other := by
    obtain ⟨older, same⟩ := kept.commands requestId otherId owned other
    have later := commands requestId otherId owned other older
    exact ⟨Nat.lt_of_lt_of_le older next, later.1.trans same.1,
      later.2.1.trans same.2.1, later.2.2.trans same.2.2⟩

/-- Changes to the worker's own room, or to one that did not exist before. -/
theorem setRoom
    (kept : Undisturbed instanceId before table)
    (roomId : RoomId)
    (own : ∀ room, before.rooms[roomId]? = some room ->
      room.assignedInstance = some instanceId)
    (replaced : Room) :
    Undisturbed instanceId before (table.setRoom roomId replaced) :=
  kept.of_same (fun otherId other found away => by
      have different : otherId ≠ roomId := by
        rintro rfl
        exact away (own other found)
      simp only [setRoom_rooms]
      grind)
    (fun _ _ => rfl) (fun _ _ _ _ _ => ⟨rfl, rfl, rfl⟩) (Nat.le_refl _)

theorem dropRoom
    (kept : Undisturbed instanceId before table)
    (own : ∀ room, before.rooms[roomId]? = some room ->
      room.assignedInstance = some instanceId) :
    Undisturbed instanceId before (table.dropRoom roomId) :=
  kept.of_same (fun otherId other found away => by
      have different : otherId ≠ roomId := by
        rintro rfl
        exact away (own other found)
      simp only [dropRoom_rooms]
      grind)
    (fun _ _ => rfl) (fun _ _ _ _ _ => ⟨rfl, rfl, rfl⟩) (Nat.le_refl _)

theorem modifyWorker
    (kept : Undisturbed instanceId before table)
    (update : Worker -> Worker) :
    Undisturbed instanceId before (table.modifyWorker instanceId update) :=
  kept.of_same (fun _ _ _ _ => rfl)
    (fun otherId other => by
      simp only [modifyWorker_workers]
      grind)
    (fun _ _ _ _ _ => ⟨rfl, rfl, rfl⟩) (Nat.le_refl _)

theorem pushActions
    (kept : Undisturbed instanceId before table)
    (actions : List Action) :
    Undisturbed instanceId before (table.pushActions actions) :=
  kept.of_same (fun _ _ _ _ => by simp) (fun _ _ => by simp)
    (fun _ _ _ _ _ => by simp [SameCommand]) (by simp)

theorem issueCommand
    (kept : Undisturbed instanceId before table)
    (bounded : table.nextSfuRequestId ≤ u64Max)
    (addressee : InstanceId)
    (connectionId : Sfu.ConnectionId)
    (command : Sfu.CommandKind)
    (pending : PendingCommand) :
    Undisturbed instanceId before
      (table.issueCommand addressee connectionId command pending) :=
  kept.of_same (fun _ _ _ _ => rfl) (fun _ _ => rfl)
    (fun requestId otherId _ _ older => by
      simp only [SameCommand, issueCommand_pendingCommands,
        issueCommand_commandWorkers, issueCommand_unacknowledgedCommands]
      grind)
    (table.issueCommand_next_le addressee connectionId command pending
      bounded).1

/-- The worker's own commands may be forgotten. -/
theorem retireAll
    (kept : Undisturbed instanceId before table)
    (requestIds : List Nat)
    (own : ∀ requestId ∈ requestIds, ∀ owner,
      before.commandWorkers[requestId]? = some owner -> owner = instanceId) :
    Undisturbed instanceId before (table.retireAll requestIds) :=
  kept.of_same (fun _ _ _ _ => by simp) (fun _ _ => by simp)
    (fun requestId otherId owned other _ => by
      have absent : requestId ∉ requestIds := fun listed =>
        other (own requestId listed otherId owned)
      simp [SameCommand, retireAll_pendingCommands, retireAll_commandWorkers,
        retireAll_unacknowledgedCommands, absent])
    (by simp)

theorem released
    {assignmentEpoch count : Nat}
    {released : Room}
    {leavers : List ClientId}
    {answers : List Action}
    (kept : Undisturbed instanceId before table)
    (bounded : table.nextSfuRequestId ≤ u64Max)
    (own : ∀ room, before.rooms[roomId]? = some room ->
      room.assignedInstance = some instanceId)
    (release : table.Released roomId instanceId assignmentEpoch count released
      leavers answers after) :
    Undisturbed instanceId before after :=
  kept.of_same (fun otherId other found away => by
      have different : otherId ≠ roomId := by
        rintro rfl
        exact away (own other found)
      rw [release.rooms]
      grind)
    (fun otherId other => by
      rw [release.workers]
      grind)
    (fun requestId _ _ _ older => (release.older bounded).2.2 requestId older)
    (release.older bounded).1

theorem failRoom
    (kept : Undisturbed instanceId before table)
    (order : VisitOrder)
    (roomId : RoomId)
    (reason : String)
    (own : ∀ room, before.rooms[roomId]? = some room ->
      room.mode ≠ .failed -> room.assignedInstance = some instanceId) :
    Undisturbed instanceId before (table.failRoom order roomId reason) := by
  unfold RoomTable.failRoom
  split
  · exact kept
  · rename_i room found
    refine Undisturbed.pushActions ?_ [_]
    refine kept.of_same (fun otherId other present away => ?_)
      (fun _ _ => rfl) (fun _ _ _ _ _ => ⟨rfl, rfl, rfl⟩) (Nat.le_refl _)
    simp only [setRoom_rooms]
    by_cases same : otherId = roomId
    · subst same
      have failed : other.mode = .failed := by
        by_contra standing
        exact away (own other present standing)
      have stands := kept.rooms otherId other present away
      rw [found] at stands
      cases stands
      rw [found, ExtTreeMap.getElem?_insert_self, ← failed]
    · grind

end Undisturbed

/-- A worker answers its own command, and the transition that the answer ends
is one of a room that it carries. -/
structure OwnAnswer
    (instanceId : InstanceId)
    (table : RoomTable)
    (requestId : Nat)
    (pending : PendingCommand) : Prop where
  owner : ∀ owner, table.commandWorkers[requestId]? = some owner ->
    owner = instanceId
  named : ∀ expected, pending.instance? = some expected ->
    expected = instanceId
  carried : ∀ (kind : TransitionKind) (roomId : RoomId),
    pending.transition? = some (kind, roomId) -> table.Awaits pending ->
    ∀ room : Room, table.rooms[roomId]? = some room ->
    room.assignedInstance = some instanceId

/-- An answer that does not trespass is the worker's own. -/
theorem Call.Answers.own
    {call : Call}
    {input : Sfu.Input}
    {table : RoomTable}
    {instanceId : InstanceId}
    {requestId : Nat}
    {recorded pending : PendingCommand}
    {result : Except Sfu.Error Sfu.CommandOk}
    (answers : call.Answers table instanceId requestId recorded result)
    (asked : call.operation = .handleSfuInput input)
    (obeys : ¬call.Trespasses table)
    (consistent : table.Consistent)
    (outstanding : table.pendingCommands[requestId]? = some pending) :
    OwnAnswer input.instanceId table requestId pending := by
  obtain ⟨connectionId, now, sent, connected, found⟩ := id answers
  obtain rfl := Option.some.inj (found.symm.trans outstanding)
  obtain rfl : instanceId = input.instanceId := by
    rw [asked] at sent
    cases sent
    rfl
  have owner (owner : InstanceId)
      (owned : table.commandWorkers[requestId]? = some owner) :
      owner = input.instanceId := by
    by_contra other
    exact obeys (.answersOther answers owned other)
  refine ⟨owner, fun expected named => ?_,
    fun kind roomId about awaited room there => ?_⟩
  · have addressed := consistent.records.workers requestId
    rw [outstanding] at addressed
    obtain ⟨addressee, owned⟩ := Option.isSome_iff_exists.1 addressed
    exact (consistent.records.named requestId recorded expected addressee
      outstanding owned named).trans (owner addressee owned)
  · by_contra away
    exact obeys (.answersAway answers about awaited there away)

/-- The moves that an input of a worker makes. -/
def Move.OfWorker : Move -> Prop
  | .connectWorker _ | .syncRoom _ _ | .noteEvent _ | .reportFailure _ _
  | .disconnectWorker _ | .push | .answer _ | .refuseSync _ _
  | .advanceUpgrade _ _ | .commitUpgrade _ _ | .abortUpgrade _ _
  | .completeJoin _ _ _ _ | .refuseJoin _ _ | .completeLeave _ _ _
  | .refuseLeave _ _ => True
  | _ => False

theorem Arises.ofWorker
    {before table : RoomTable}
    {call : Call}
    {input : Sfu.Input}
    {move : Move}
    (arises : Arises before call table move)
    (asked : call.operation = .handleSfuInput input) :
    move.OfWorker := by
  cases move <;> first
    | trivial
    | (simp only [Arises, Call.Registers, Call.Removes, asked] at arises
       grind)

namespace Undisturbed

variable
  {instanceId : InstanceId}
  {before table after : RoomTable}
  {roomId : RoomId}
  {room : Room}

theorem retireCommand
    {requestId : Nat}
    (kept : Undisturbed instanceId before table)
    (own : ∀ owner, before.commandWorkers[requestId]? = some owner ->
      owner = instanceId) :
    Undisturbed instanceId before (table.retireCommand requestId) :=
  kept.retireAll [requestId] (by simpa using own)

theorem issueNextUpgradeJoin
    (kept : Undisturbed instanceId before table)
    (bounded : table.nextSfuRequestId ≤ u64Max)
    (roomId : RoomId) :
    Undisturbed instanceId before (table.issueNextUpgradeJoin roomId).2 := by
  rcases table.issueNextUpgradeJoin_cases roomId with ⟨error, same⟩ |
    ⟨room, upgrade, clientId, member, addressee, connectionId, -, -, -, -, -, -,
      issued⟩
  · rw [same]
    exact kept
  · rw [issued]
    exact kept.issueCommand bounded _ _ _ _

/-- A registration disturbs nobody else: the synchronizations that it retires are
the worker's own. -/
theorem register
    (connectionId : Sfu.ConnectionId)
    (capacity : Sfu.Capacity)
    (actions : List Action)
    (here : table.Consistent)
    (kept : Undisturbed instanceId before table) :
    Undisturbed instanceId before
      (((table.connectWorker connectionId instanceId capacity).pushActions
        actions).retireAll (table.syncsOf instanceId)) := by
  have bound : Undisturbed instanceId before
      (table.connectWorker connectionId instanceId capacity) :=
    kept.of_same (fun _ _ _ _ => rfl)
      (fun otherId other => by
        have different : otherId ≠ instanceId := other
        simp only [RoomTable.connectWorker]
        grind)
      (fun _ _ _ _ _ => ⟨rfl, rfl, rfl⟩) (Nat.le_refl _)
  refine (bound.pushActions actions).retireAll _
    fun requestId listed owner owned => ?_
  by_contra other
  simp only [RoomTable.syncsOf, List.mem_map, List.mem_filter,
    ExtTreeMap.mem_toList_iff_getElem?_eq_some, Prod.exists,
    exists_and_right, exists_eq_right] at listed
  obtain ⟨pending, outstanding, sync⟩ := listed
  have same := (kept.commands requestId owner owned other).2
  have named : pending.instance? = some instanceId := by
    cases pending <;> simp_all [PendingCommand.isSyncOf,
      PendingCommand.instance?]
  exact other (here.records.named requestId pending instanceId owner
    outstanding (same.2.1.trans owned) named).symm

theorem commitUpgrade
    {upgrade : Upgrade}
    (order : VisitOrder)
    (clientId : ClientId)
    (kept : Undisturbed instanceId before table)
    (carried : ∀ room, before.rooms[roomId]? = some room ->
      room.assignedInstance = some instanceId) :
    Undisturbed instanceId before ((table.setRoom roomId
      (room.advanceUpgrade upgrade clientId)).commitUpgrade order roomId).2 := by
  have stored := kept.setRoom roomId carried
    (room.advanceUpgrade upgrade clientId).commitSfu
  rw [RoomTable.commitUpgrade_eq order (room.advanceUpgrade upgrade clientId)
    (by simp) rfl, setRoom_setRoom]
  split
  · exact stored
  · exact stored.pushActions _

theorem completeLeave
    {clientId : ClientId}
    {pendingLeave : PendingLeave}
    (now : Instant)
    (kept : Undisturbed instanceId before table)
    (carried : ∀ room, before.rooms[roomId]? = some room ->
      room.assignedInstance = some instanceId) :
    Undisturbed instanceId before (table.completeLeave instanceId roomId room
      clientId pendingLeave now) := by
  obtain ⟨deadline, -, complete⟩ := completeLeave_eq table instanceId roomId
    room clientId pendingLeave now
  rw [complete]
  refine (Undisturbed.modifyWorker ?_ _).pushActions _
  split
  · exact kept.dropRoom carried
  · exact kept.setRoom roomId carried _

/-- A move of a worker's input that does not trespass disturbs nothing. -/
theorem moved
    {call : Call}
    {input : Sfu.Input}
    {phase phase' : Option InstanceId}
    {table' : RoomTable}
    {move : Move}
    (asked : call.operation = .handleSfuInput input)
    (obeys : ¬call.Trespasses before)
    (consistent : before.Consistent)
    (here : table.Consistent)
    (taken : Moved phase table move phase' table')
    (arises : Arises before call table move)
    (kept : Undisturbed input.instanceId before table) :
    Undisturbed input.instanceId before table' := by
  have bounded := here.wellFormed.counter
  have own := arises.ofWorker asked
  cases taken with
  | connectWorker connectionId capacity actions plain =>
      rename_i instanceId
      obtain ⟨_, requestId, _, other⟩ := arises
      rw [asked] at other
      cases other
      exact kept.register connectionId capacity actions here
  | syncRoom order found listed connected =>
      simp only [syncAssignedRoom, found]
      exact kept.issueCommand bounded _ _ _ _
  | noteEvent update actions keepsConnection =>
      obtain ⟨-, _, _, other, -⟩ := arises
      rw [asked] at other
      cases other
      exact (kept.modifyWorker update).pushActions actions
  | reportFailure requestId order reason ack known =>
      obtain ⟨rfl, reports⟩ := arises
      obtain ⟨_, _, _, _, _, _, _, other, -⟩ := id reports
      rw [asked] at other
      cases other
      refine ((kept.modifyWorker (Worker.remember · requestId)).failRoom order _
        reason fun room found standing => ?_).pushActions [ack]
      by_contra away
      exact obeys (.reportsAway reports found standing away)
  | disconnectWorker now =>
      obtain ⟨-, _, _, other, -⟩ := arises
      rw [asked] at other
      cases other
      exact kept.modifyWorker _
  | push action => exact kept.pushActions [action]
  | answer actions outstanding idle =>
      obtain ⟨rfl, instanceId, pending, result, answers⟩ := arises
      have own := answers.own asked obeys consistent outstanding
      exact (kept.retireCommand own.owner).pushActions actions
  | refuseSync order outstanding =>
      obtain ⟨rfl, instanceId, pending, result, answers, refused⟩ := arises
      obtain ⟨connectionId, now, sent, connected, recorded⟩ := id answers
      obtain rfl := Option.some.inj (recorded.symm.trans outstanding)
      have own := answers.own asked obeys consistent outstanding
      refine (kept.retireCommand own.owner).failRoom order _ _
        fun room found standing => ?_
      by_contra away
      rw [asked] at sent
      cases sent
      exact obeys (.refusesAway ⟨result, answers, refused⟩ found standing away)
  | advanceUpgrade outstanding connected found upgrading unfinished =>
      rename_i requestId expected roomId clientId lifecycleId assignmentEpoch
        room upgrade connectionId
      obtain ⟨rfl, instanceId, pending, result, answers, -⟩ := arises
      have own := answers.own asked obeys consistent outstanding
      have carried := own.carried .upgrade roomId rfl
        ⟨room, found, by simp [upgrading]⟩
      exact ((kept.retireCommand own.owner).setRoom roomId carried _).issueNextUpgradeJoin bounded _
  | commitUpgrade order outstanding connected found upgrading finished =>
      rename_i requestId expected roomId clientId lifecycleId assignmentEpoch
        room upgrade connectionId
      obtain ⟨rfl, instanceId, pending, result, answers, -⟩ := arises
      have own := answers.own asked obeys consistent outstanding
      have carried := own.carried .upgrade roomId rfl
        ⟨room, found, by simp [upgrading]⟩
      exact (kept.retireCommand own.owner).commitUpgrade order clientId carried
  | abortUpgrade reason outstanding found upgrading =>
      rename_i requestId expected roomId clientId lifecycleId assignmentEpoch
        room upgrade
      obtain ⟨rfl, instanceId, pending, result, answers, -⟩ := arises
      have own := answers.own asked obeys consistent outstanding
      have carried := own.carried .upgrade roomId rfl
        ⟨room, found, by simp [upgrading]⟩
      obtain ⟨leavers, actions, release, -⟩ := abortUpgrade_released (table.retireCommand requestId) reason found upgrading
          (carried room found)
      exact (kept.retireCommand own.owner).released bounded carried
        release
  | completeJoin outstanding found joining =>
      rename_i requestId expected roomId clientId lifecycleId assignmentEpoch
        room pendingJoin
      obtain ⟨rfl, instanceId, pending, result, answers, -⟩ := arises
      have own := answers.own asked obeys consistent outstanding
      obtain rfl := own.named expected rfl
      have carried := own.carried .join roomId rfl
        ⟨room, found, by simp [joining]⟩
      have stored := ((kept.retireCommand own.owner).setRoom
        roomId carried { room with pendingJoin := none }).modifyWorker
            chargeMember
      rw [completeJoin_eq]
      split
      · exact stored
      · exact stored.pushActions [_]
  | refuseJoin reason outstanding found joining =>
      rename_i requestId expected roomId clientId lifecycleId assignmentEpoch
        room pendingJoin
      obtain ⟨rfl, instanceId, pending, result, answers, -⟩ := arises
      have own := answers.own asked obeys consistent outstanding
      have carried := own.carried .join roomId rfl
        ⟨room, found, by simp [joining]⟩
      exact ((kept.retireCommand own.owner).setRoom roomId carried _).pushActions [_]
  | completeLeave now outstanding found leaving =>
      rename_i requestId expected roomId clientId lifecycleId assignmentEpoch
        room pendingLeave
      obtain ⟨rfl, instanceId, pending, result, answers, -⟩ := arises
      have own := answers.own asked obeys consistent outstanding
      obtain rfl := own.named expected rfl
      have carried := own.carried .leave roomId rfl
        ⟨room, found, by simp [leaving]⟩
      exact (kept.retireCommand own.owner).completeLeave now carried
  | refuseLeave reason outstanding found leaving =>
      rename_i requestId expected roomId clientId lifecycleId assignmentEpoch
        room pendingLeave
      obtain ⟨rfl, instanceId, pending, result, answers, -⟩ := arises
      have own := answers.own asked obeys consistent outstanding
      have carried := own.carried .leave roomId rfl
        ⟨room, found, by simp [leaving]⟩
      rw [removalAnswer_eq]
      exact ((kept.retireCommand own.owner).setRoom roomId carried _).pushActions _
  | _ => exact own.elim

end Undisturbed

/-- An input on a session that is not its worker's current one is refused. -/
theorem unmoved_of_stale
    {table : RoomTable}
    {input : Sfu.Input}
    (order : VisitOrder)
    (stale : ¬table.OnSession input) :
    Unmoved table (table.handleSfuInput order input).2 := by
  have same : (table.handleSfuInput order input).2 = table := by
    cases input with
    | register => exact absurd trivial stale
    | commandResult connectionId instanceId result now =>
        simp only [RoomTable.OnSession, Sfu.Input.instanceId,
          Sfu.Input.connectionId, RoomTable.connection?] at stale
        simp only [RoomTable.handleSfuInput, RoomTable.handleCommandResult]
        cases known : table.workers[instanceId]? with
        | none => rfl
        | some worker =>
            have other : worker.connectionId ≠ some connectionId := by
              simpa [known] using stale
            simp [other]
    | event connectionId instanceId event =>
        simp only [RoomTable.OnSession, Sfu.Input.instanceId,
          Sfu.Input.connectionId, RoomTable.connection?] at stale
        simp only [RoomTable.handleSfuInput, RoomTable.handleWorkerEvent]
        cases known : table.workers[instanceId]? with
        | none => rfl
        | some worker =>
            have other : worker.connectionId ≠ some connectionId := by
              simpa [known] using stale
            simp [other]
    | disconnected connectionId instanceId now =>
        simp only [RoomTable.OnSession, Sfu.Input.instanceId,
          Sfu.Input.connectionId] at stale
        simp [RoomTable.handleSfuInput, RoomTable.disconnectWorker, stale]
  rw [same]
  exact ⟨rfl, rfl, fun _ => ⟨rfl, rfl, rfl⟩⟩

/-- An input that does not trespass leaves everything alone that is not its
worker's. -/
theorem RoomTable.Consistent.isolated
    {table : RoomTable}
    {call : Call}
    {input : Sfu.Input}
    (consistent : table.Consistent)
    (asked : call.operation = .handleSfuInput input)
    (obeys : ¬call.Trespasses table) :
    Isolated input.instanceId table (table.step call) := by
  refine Undisturbed.isolated (consistent.step_invariant
    (fun _ middle => Undisturbed input.instanceId table middle)
    (fun _ _ _ _ _ taken arises here kept =>
      kept.moved asked obeys consistent here taken arises)
    (Undisturbed.start consistent fun owner owned => ?_))
  by_contra other
  exact obeys (.exhausted asked owned other)

/-- In every reachable state, an input that does not trespass leaves other
workers and their rooms alone, and an input on a superseded session changes
nothing. -/
theorem workers_isolated
    {reconnectGrace : Duration}
    {history : History}
    {table : RoomTable}
    (run : (RoomTable.machine reconnectGrace).Run history table)
    (call : Call)
    (obeys : ¬call.Trespasses table) :
    IsolatedStep table call := by
  intro input asked
  refine ⟨fun _ => (RoomTable.consistent_of_run run).isolated asked obeys,
    fun stale => ?_⟩
  have step : table.step call = (table.handleSfuInput call.order input).2 := by
    simp only [RoomTable.step, asked]
  rw [step]
  exact unmoved_of_stale call.order stale

theorem workers_isolated_own_room :
    IsolatedStep (RoomTable.played 0 upgradingOperations).2 failureReport := by
  refine workers_isolated (RoomTable.played_run 0 upgradingOperations)
    failureReport fun trespasses => ?_
  have carried : (RoomTable.played 0 upgradingOperations).2.rooms[
      exampleRoomId]?.map Room.assignedInstance = some (some "sfu") := by
    decide +kernel
  have unused : (RoomTable.played 0 upgradingOperations).2.commandWorkers[
      u64Max]? = none := by
    decide +kernel
  cases trespasses with
  | answersOther answers | answersAway answers =>
      obtain ⟨_, _, asked, -⟩ := answers
      cases asked
  | refusesAway refuses =>
      obtain ⟨_, ⟨_, _, asked, -⟩, -⟩ := refuses
      cases asked
  | reportsAway reports found standing away =>
      obtain ⟨_, _, _, _, _, _, _, asked, -⟩ := reports
      cases asked
      rw [found] at carried
      exact away (Option.some.inj carried)
  | exhausted asked owned other =>
      rw [unused] at owned
      cases owned

/-- A worker that carries nothing fails another room by reporting it. -/
theorem report_crosses :
    ¬∀ (history : History) (table : RoomTable) (call : Call),
      (RoomTable.machine 0).Run history table -> IsolatedStep table call := by
  intro isolated
  let operations : List Operation :=
    [.handleSfuInput (.register 1 "sfu" 1 ⟨1, 3⟩),
      .admitClient 1 0 exampleRoomId 1 "first"]
  have kept := ((isolated _ _ failureReport
    (RoomTable.played_run 0 operations)) _ rfl).1
      (show (RoomTable.played 0 operations).2.connection? "sfu" = some 1 by
        decide +kernel)
  obtain ⟨room, found⟩ : ∃ room,
      (RoomTable.played 0 operations).2.rooms[exampleRoomId]? = some room :=
    Option.isSome_iff_exists.1 (by decide +kernel)
  have direct : (RoomTable.played 0 operations).2.rooms[exampleRoomId]?.map
      (fun room => (room.mode, room.assignedInstance)) =
        some (.p2p, none) := by
    decide +kernel
  have failed : ((RoomTable.played 0 operations).2.step failureReport).rooms[
      exampleRoomId]?.map Room.mode = some .failed := by
    decide +kernel
  rw [found] at direct
  simp only [Option.map_some, Option.some.injEq, Prod.mk.injEq] at direct
  obtain ⟨other, after, same⟩ := kept.rooms exampleRoomId room found
    (by simp [direct.2])
  rw [after] at failed
  simp [same.mode, direct.1] at failed

end V2
end Signaling
