import Signaling.V2.Invariants

/-!
# The ledger of commands

What calls do to the records of commands comes down to three steps: a command
is issued under the next number and handed to a connection, a command is
retired, or the records are left alone. Each move is a chain of such steps, so
that facts about commands are proved once for each kind of step.
-/

namespace Signaling
namespace V2

open Std (ExtTreeMap ExtTreeSet)
open RoomTable

/-- A room synchronization, as opposed to a join, a leave or a signal. -/
def commandIsSync (command : Sfu.CommandKind) : Bool :=
  match command with
  | .syncRoom _ => true
  | _ => false

/-- The record of a command names the worker that the command went to, and the
room, client, lifecycle and epoch of its text. -/
def PendingCommand.Describes
    (instanceId : InstanceId) :
    PendingCommand -> Sfu.CommandKind -> Prop
  | .syncRoom expected roomId assignmentEpoch _, command =>
      expected = instanceId ∧ ∃ members,
        command = .syncRoom ⟨roomId, assignmentEpoch, members⟩
  | .upgradeJoin expected roomId clientId lifecycleId assignmentEpoch,
      command
  | .sfuJoin expected roomId clientId lifecycleId assignmentEpoch, command =>
      expected = instanceId ∧
        command = .join ⟨roomId, clientId, lifecycleId, assignmentEpoch⟩
  | .sfuLeave expected roomId clientId lifecycleId assignmentEpoch, command =>
      expected = instanceId ∧ ∃ reason,
        command = .leave
          ⟨roomId, clientId, lifecycleId, assignmentEpoch, reason⟩
  | .signal, _ | .cleanup, _ => True

/-- The command asks the worker to synchronize a room, and its record holds back
commands of that room only. -/
def PendingCommand.Gathers
    (instanceId : InstanceId)
    (pending : PendingCommand)
    (command : Sfu.CommandKind) : Prop :=
  ∃ roomId assignmentEpoch members replay,
    command = .syncRoom ⟨roomId, assignmentEpoch, members⟩ ∧
      pending = .syncRoom instanceId roomId assignmentEpoch replay ∧
      ∀ held ∈ replay, commandRoomId held = roomId

theorem PendingCommand.Gathers.describes
    {instanceId : InstanceId}
    {pending : PendingCommand}
    {command : Sfu.CommandKind}
    (gathers : pending.Gathers instanceId command) :
    pending.Describes instanceId command := by
  obtain ⟨roomId, assignmentEpoch, members, replay, rfl, rfl, -⟩ := gathers
  exact ⟨rfl, members, rfl⟩

/-- The command that an action hands to a worker's connection. -/
def Action.command? : Action -> Option (Sfu.ConnectionId × Sfu.Command)
  | .sfu (.command connectionId command) => some (connectionId, command)
  | _ => none

theorem Action.Notice.command?
    {action : Action}
    (notice : action.Notice) :
    action.command? = none := by
  cases action with
  | sfu output =>
      cases output with
      | command => exact notice.elim
      | _ => rfl
  | _ => rfl

/-- The commands that actions hand to workers, with their connections. -/
def handed (actions : List Action) : List (Sfu.ConnectionId × Sfu.Command) :=
  actions.filterMap Action.command?

@[simp] theorem handed_append (first second : List Action) :
    handed (first ++ second) = handed first ++ handed second :=
  List.filterMap_append

theorem handed_of_none
    {actions : List Action}
    (silent : ∀ action ∈ actions, action.command? = none) :
    handed actions = [] :=
  List.filterMap_eq_nil_iff.2 silent

theorem handed_removalActions
    (leave : PendingLeave)
    (roomId : RoomId)
    (clientId : ClientId)
    (result : Except String Unit) :
    handed (removalActions leave roomId clientId result) = [] := by
  unfold removalActions
  split <;> rfl

/-- The room is assigned to the worker, and the worker has a connection. -/
structure RoomTable.Reaches
    (table : RoomTable)
    (instanceId : InstanceId)
    (roomId : RoomId)
    (room : Room) : Prop where
  found : table.rooms[roomId]? = some room
  assigned : room.assignedInstance = some instanceId
  connected : (table.connection? instanceId).isSome = true

/-- The client that an upgrade joins next is still a member. -/
def Room.Proceeds (room : Room) : Prop :=
  ∃ upgrade clientId, room.upgrade = some upgrade ∧
    upgrade.orderedClients[upgrade.nextClient + 1]? = some clientId ∧
    (room.members[clientId]?).isSome = true

/-- The rollback of an upgrade has a client to let go: the first that joined is
still a member and not the one whose admission fails. -/
def Room.Rewinds (room : Room) : Prop :=
  ∃ upgrade clientId, room.upgrade = some upgrade ∧
    upgrade.joinedClients.head? = some clientId ∧
    clientId ≠ upgrade.joiningClientId ∧
    (room.members[clientId]?).isSome = true

/-- One step of the ledger; what it may issue, retire and connect is given. -/
inductive Files
    (issues : InstanceId -> Sfu.Command -> PendingCommand -> Prop)
    (retires : Nat -> Prop)
    (connects : InstanceId -> Sfu.ConnectionId -> Prop) :
    RoomTable -> RoomTable -> Prop
  | silent
      {table after : RoomTable}
      (new : List Action)
      (same : ∀ requestId, SameCommand table after requestId)
      (next : after.nextSfuRequestId = table.nextSfuRequestId)
      (connections : ∀ instanceId connectionId,
        after.connection? instanceId = some connectionId ->
        table.connection? instanceId = some connectionId)
      (queued : after.actions = table.actions ++ new)
      (nothing : handed new = []) :
      Files issues retires connects table after
  | connect
      {table : RoomTable} {instanceId : InstanceId}
      {connectionId : Sfu.ConnectionId}
      (capacity : Sfu.Capacity)
      (allowed : connects instanceId connectionId) :
      Files issues retires connects table
        (table.connectWorker connectionId instanceId capacity)
  | issue
      {table : RoomTable} {instanceId : InstanceId}
      {connectionId : Sfu.ConnectionId} {command : Sfu.CommandKind}
      {pending : PendingCommand}
      (connected : table.connection? instanceId = some connectionId)
      (agrees : pending.isSync = commandIsSync command)
      (allowed : issues instanceId ⟨table.nextSfuRequestId, command⟩ pending) :
      Files issues retires connects table
        (table.issueCommand instanceId connectionId command pending)
  | retire
      {table : RoomTable} {requestId : Nat}
      (allowed : retires requestId) :
      Files issues retires connects table (table.retireCommand requestId)

/-- Some steps of the ledger. -/
def Ledger
    (issues : InstanceId -> Sfu.Command -> PendingCommand -> Prop)
    (retires : Nat -> Prop)
    (connects : InstanceId -> Sfu.ConnectionId -> Prop) :
    RoomTable -> RoomTable -> Prop :=
  Relation.ReflTransGen (Files issues retires connects)

namespace Ledger

variable
  {issues : InstanceId -> Sfu.Command -> PendingCommand -> Prop}
  {retires : Nat -> Prop}
  {connects : InstanceId -> Sfu.ConnectionId -> Prop}
  {table middle after : RoomTable}

theorem refl : Ledger issues retires connects table table :=
  Relation.ReflTransGen.refl

theorem trans
    (earlier : Ledger issues retires connects table middle)
    (later : Ledger issues retires connects middle after) :
    Ledger issues retires connects table after :=
  Relation.ReflTransGen.trans earlier later

theorem mono
    {issues' : InstanceId -> Sfu.Command -> PendingCommand -> Prop}
    {retires' : Nat -> Prop}
    (ledger : Ledger issues retires connects table after)
    (issued : ∀ instanceId command pending,
      issues instanceId command pending -> issues' instanceId command pending)
    (retired : ∀ requestId, retires requestId -> retires' requestId) :
    Ledger issues' retires' connects table after := by
  refine Relation.ReflTransGen.mono (fun before next step => ?_) _ _ ledger
  cases step with
  | silent new same nextId connections queued nothing =>
      exact .silent new same nextId connections queued nothing
  | connect capacity allowed => exact .connect capacity allowed
  | issue session agrees allowed =>
      exact .issue session agrees (issued _ _ _ allowed)
  | retire allowed => exact .retire (retired _ allowed)

theorem silent
    (new : List Action)
    (same : ∀ requestId, SameCommand table after requestId)
    (next : after.nextSfuRequestId = table.nextSfuRequestId)
    (connections : ∀ instanceId connectionId,
      after.connection? instanceId = some connectionId ->
      table.connection? instanceId = some connectionId)
    (queued : after.actions = table.actions ++ new)
    (nothing : handed new = []) :
    Ledger issues retires connects table after :=
  Relation.ReflTransGen.single
    (.silent new same next connections queued nothing)

theorem issue
    {instanceId : InstanceId}
    {connectionId : Sfu.ConnectionId}
    {command : Sfu.CommandKind}
    {pending : PendingCommand}
    (connected : table.connection? instanceId = some connectionId)
    (agrees : pending.isSync = commandIsSync command)
    (allowed : issues instanceId ⟨table.nextSfuRequestId, command⟩ pending) :
    Ledger issues retires connects table
      (table.issueCommand instanceId connectionId command pending) :=
  Relation.ReflTransGen.single (.issue connected agrees allowed)

theorem thenIssue
    {instanceId : InstanceId}
    {connectionId : Sfu.ConnectionId}
    {command : Sfu.CommandKind}
    {pending : PendingCommand}
    (earlier : Ledger issues retires connects table middle)
    (connected : middle.connection? instanceId = some connectionId)
    (agrees : pending.isSync = commandIsSync command)
    (allowed : issues instanceId ⟨middle.nextSfuRequestId, command⟩ pending) :
    Ledger issues retires connects table
      (middle.issueCommand instanceId connectionId command pending) :=
  earlier.trans (issue connected agrees allowed)

theorem retire
    {requestId : Nat}
    (allowed : retires requestId) :
    Ledger issues retires connects table (table.retireCommand requestId) :=
  Relation.ReflTransGen.single (.retire allowed)

theorem retireAll
    (requestIds : List Nat)
    (allowed : ∀ requestId ∈ requestIds, retires requestId) :
    Ledger issues retires connects table (table.retireAll requestIds) := by
  induction requestIds generalizing table with
  | nil => exact refl
  | cons requestId requestIds inductionHypothesis =>
      exact (retire (allowed requestId List.mem_cons_self)).trans
        (inductionHypothesis fun otherId listed =>
          allowed otherId (List.mem_cons_of_mem _ listed))

theorem leaveAll
    {instanceId : InstanceId}
    {connectionId : Sfu.ConnectionId}
    {roomId : RoomId}
    {assignmentEpoch : Nat}
    (left : List (ClientId × Nat))
    (connected : left ≠ [] -> table.connection? instanceId = some connectionId)
    (allowed : ∀ command, commandRoomId command = roomId ->
      issues instanceId command .cleanup) :
    Ledger issues retires connects table (RoomTable.leaveAll instanceId
      connectionId roomId assignmentEpoch left table) := by
  induction left generalizing table with
  | nil => exact refl
  | cons leave left inductionHypothesis =>
      have session := connected (by simp)
      exact (issue session rfl (allowed _ rfl)).trans
        (inductionHypothesis fun _ => session)

/-- Changes of rooms, workers' records and answers that keep connections leave
the ledger alone. -/
theorem of_same
    (actions : List Action)
    (same : ∀ requestId, SameCommand table after requestId)
    (next : after.nextSfuRequestId = table.nextSfuRequestId)
    (connections : ∀ instanceId,
      after.connection? instanceId = table.connection? instanceId)
    (queued : after.actions = table.actions ++ actions)
    (nothing : handed actions = []) :
    Ledger issues retires connects table after :=
  silent actions same next (fun instanceId _ session => by
    rwa [connections] at session) queued nothing

theorem pushActions
    (actions : List Action)
    (nothing : handed actions = []) :
    Ledger issues retires connects table (table.pushActions actions) :=
  of_same actions (fun _ => by simp [SameCommand]) (by simp)
    (fun _ => by simp [RoomTable.connection?]) (by simp) nothing

theorem modifyWorker
    (instanceId : InstanceId)
    (update : Worker -> Worker)
    (keeps : ∀ worker, (update worker).connectionId = worker.connectionId) :
    Ledger issues retires connects table
      (table.modifyWorker instanceId update) :=
  of_same [] (fun _ => ⟨rfl, rfl, rfl⟩) rfl
    (fun otherId => table.connection?_modifyWorker instanceId otherId update
      keeps) (by simp) rfl

theorem setRoom
    (roomId : RoomId)
    (room : Room) :
    Ledger issues retires connects table (table.setRoom roomId room) :=
  of_same [] (fun _ => ⟨rfl, rfl, rfl⟩) rfl (fun _ => rfl) (by simp) rfl

theorem setOrDropRoom
    (roomId : RoomId)
    (room : Room) :
    Ledger issues retires connects table (table.setOrDropRoom roomId room) := by
  unfold RoomTable.setOrDropRoom
  split <;>
    exact of_same [] (fun _ => ⟨rfl, rfl, rfl⟩) rfl (fun _ => rfl) (by simp) rfl

theorem failRoom
    (order : VisitOrder)
    (roomId : RoomId)
    (reason : String) :
    Ledger issues retires connects table
      (table.failRoom order roomId reason) := by
  unfold RoomTable.failRoom
  split
  · exact refl
  · exact of_same [_] (fun _ => ⟨rfl, rfl, rfl⟩) rfl (fun _ => rfl) rfl rfl

theorem released
    {roomId : RoomId}
    {instanceId : InstanceId}
    {assignmentEpoch count : Nat}
    {room : Room}
    {leavers : List ClientId}
    {answers : List Action}
    (release : table.Released roomId instanceId assignmentEpoch count room
      leavers answers after)
    (allowed : (table.connection? instanceId).isSome = true -> ∀ command,
      commandRoomId command = roomId -> issues instanceId command .cleanup)
    (nothing : handed answers = []) :
    Ledger issues retires connects table after := by
  obtain ⟨connectionId, left, connected, leaves⟩ := release.leaves
  rw [leaves]
  have discharged (otherId : InstanceId) :
      ((table.setRoom roomId room).modifyWorker instanceId
        (dischargeRoom roomId count)).connection? otherId =
          table.connection? otherId :=
    connection?_modifyWorker _ _ _ _ fun _ => rfl
  refine (setRoom roomId room).trans ((modifyWorker instanceId
    (dischargeRoom roomId count) fun _ => rfl).trans (.trans ?_
      (pushActions answers nothing)))
  by_cases nobody : left = []
  · subst nobody
    exact refl
  · have session := connected nobody
    exact leaveAll left (fun _ => by rw [discharged, session])
      (allowed (by rw [session]; rfl))

/-- A rollback lets go of the clients that joined, up to the first that is gone.
-/
theorem abortUpgrade
    {roomId : RoomId}
    {room : Room}
    {upgrade : Upgrade}
    {instanceId : InstanceId}
    (reason : String)
    (found : table.rooms[roomId]? = some room)
    (upgrading : room.upgrade = some upgrade)
    (assigned : room.assignedInstance = some instanceId)
    (allowed : table.Reaches instanceId roomId room -> room.Rewinds ->
      ∀ command, commandRoomId command = roomId ->
        issues instanceId command .cleanup) :
    Ledger issues retires connects table
      (table.abortUpgrade roomId reason).2 := by
  by_cases rewinds : room.Rewinds
  · obtain ⟨leavers, answers, release, answered, -⟩ :=
      abortUpgrade_released table reason found upgrading assigned
    refine released release
      (fun connected => allowed ⟨found, assigned, connected⟩ rewinds) ?_
    rcases answered with rfl | rfl <;> rfl
  -- Without a client to let go the worker is left alone.
  have released : Ledger issues retires connects table
      ((table.setRoom roomId (room.release
        upgrade.joiningClientId)).modifyWorker instanceId
          (dischargeRoom roomId 3)) :=
    (setRoom roomId _).trans (modifyWorker instanceId _ fun _ => rfl)
  have answered := released.trans
    (pushActions [abortAnswer upgrade reason] rfl)
  rw [abortUpgrade_eq table reason found upgrading assigned]
  cases table.connection? instanceId with
  | none => exact answered
  | some connectionId =>
      cases joined : upgrade.joinedClients with
      | nil => exact answered
      | cons first rest =>
          have gone : (room.release
              upgrade.joiningClientId).members[first]? = none := by
            simp only [Room.release, Room.rollBack, Room.eraseMember,
              ExtTreeMap.getElem?_erase]
            split
            · rfl
            · rename_i other
              by_contra present
              refine rewinds ⟨upgrade, first, upgrading, by simp [joined], ?_,
                Option.isSome_iff_ne_none.2 present⟩
              rintro rfl
              exact other (Std.ReflCmp.compare_self)
          simpa [leaveJoined, member?, gone] using released

/-- An upgrade asks for the join of its next client, who must be a member. -/
theorem advanceUpgrade
    {requestId : Nat}
    {roomId : RoomId}
    {room : Room}
    {upgrade : Upgrade}
    (clientId : ClientId)
    (found : table.rooms[roomId]? = some room)
    (upgrading : room.upgrade = some upgrade)
    (retired : retires requestId)
    (allowed : ∀ instanceId, table.Reaches instanceId roomId room ->
      room.Proceeds -> ∀ nextId member issuedId, issues instanceId
        ⟨issuedId, .join ⟨roomId, nextId, member, room.assignmentEpoch⟩⟩
        (.upgradeJoin instanceId roomId nextId member room.assignmentEpoch)) :
    Ledger issues retires connects table
      (((table.retireCommand requestId).setRoom roomId
        (room.advanceUpgrade upgrade clientId)).issueNextUpgradeJoin
          roomId).2 := by
  refine (retire retired).trans ((setRoom roomId
    (room.advanceUpgrade upgrade clientId)).trans ?_)
  rcases issueNextUpgradeJoin_cases
    ((table.retireCommand requestId).setRoom roomId
      (room.advanceUpgrade upgrade clientId)) roomId with ⟨error, same⟩ |
    ⟨stored, advanced, nextId, member, carrier, connection, present, running,
      next, listed, assigned, session, issued⟩
  · rw [same]
    exact refl
  · rw [issued]
    simp only [setRoom_rooms, ExtTreeMap.getElem?_insert_self,
      Option.some.injEq] at present
    subst present
    cases running
    have connected : table.connection? carrier = some connection := session
    exact issue session rfl (allowed carrier
      ⟨found, assigned, by rw [connected]; rfl⟩
      ⟨upgrade, nextId, upgrading, next, by
        rw [show room.members[nextId]? = some member from listed]; rfl⟩ _ _ _)

/-- A finished upgrade hands out nothing. -/
theorem commitUpgrade
    {requestId : Nat}
    {roomId : RoomId}
    {room : Room}
    {upgrade : Upgrade}
    (order : VisitOrder)
    (clientId : ClientId)
    (retired : retires requestId) :
    Ledger issues retires connects table
      (((table.retireCommand requestId).setRoom roomId
        (room.advanceUpgrade upgrade clientId)).commitUpgrade order
          roomId).2 := by
  refine (retire retired).trans ((setRoom roomId
    (room.advanceUpgrade upgrade clientId)).trans ?_)
  rw [commitUpgrade_eq order (room.advanceUpgrade upgrade clientId)
    (show ((table.retireCommand requestId).setRoom roomId
      (room.advanceUpgrade upgrade clientId)).rooms[roomId]? = _ by simp) rfl]
  split
  · exact setRoom _ _
  · exact (setRoom _ _).trans (pushActions _ rfl)

/-- A confirmed leave hands out nothing. -/
theorem completeLeave
    {instanceId : InstanceId}
    {roomId : RoomId}
    {room : Room}
    {clientId : ClientId}
    {pendingLeave : PendingLeave}
    (now : Instant) :
    Ledger issues retires connects table
      (table.completeLeave instanceId roomId room clientId pendingLeave
        now) := by
  obtain ⟨deadline, -, complete⟩ := completeLeave_eq table instanceId roomId
    room clientId pendingLeave now
  rw [complete]
  refine .trans ?_ ((modifyWorker instanceId (dischargeMember roomId _)
    fun _ => rfl).trans (pushActions _ (handed_removalActions _ _ _ _)))
  split
  · exact of_same [] (fun _ => ⟨rfl, rfl, rfl⟩) rfl (fun _ => rfl)
      (List.append_nil _).symm rfl
  · exact setRoom _ _

/-- A registering worker is asked to synchronize its rooms. -/
theorem syncRooms
    (order : VisitOrder)
    {instanceId : InstanceId}
    {connectionId : Sfu.ConnectionId}
    (roomIds : List RoomId)
    (connected : table.connection? instanceId = some connectionId) :
    Ledger (fun instanceId command pending =>
        pending.Gathers instanceId command.command) (fun _ => False)
      (fun _ _ => False) table
      (roomIds.foldl (syncAssignedRoom order instanceId connectionId)
        table) := by
  induction roomIds generalizing table with
  | nil => exact refl
  | cons roomId roomIds inductionHypothesis =>
      rw [List.foldl_cons]
      cases found : table.rooms[roomId]? with
      | none =>
          simp only [syncAssignedRoom, found]
          exact inductionHypothesis connected
      | some room =>
          simp only [syncAssignedRoom, found]
          refine (issue connected rfl ⟨roomId, room.assignmentEpoch, _, _, rfl,
            rfl, fun held listed => ?_⟩).trans (inductionHypothesis connected)
          obtain ⟨entry, -, text⟩ := List.mem_filterMap.1 listed
          exact of_decide_eq_true (Option.filter_eq_some_iff.1 text).2

/-- Numbers are handed out upwards. -/
theorem next_le
    (ledger : Ledger issues retires connects table after)
    (bounded : table.nextSfuRequestId ≤ u64Max) :
    table.nextSfuRequestId ≤ after.nextSfuRequestId ∧
      after.nextSfuRequestId ≤ u64Max := by
  induction ledger with
  | refl => exact ⟨Nat.le_refl _, bounded⟩
  | tail _ step inductionHypothesis =>
      obtain ⟨older, within⟩ := inductionHypothesis
      cases step with
      | silent new same next connections queued nothing =>
          rw [next]
          exact ⟨older, within⟩
      | connect capacity allowed => exact ⟨older, within⟩
      | issue connected agrees allowed =>
          rename_i issuing _ instanceId connectionId command pending
          have grown := issueCommand_next_le issuing instanceId connectionId
            command pending within
          exact ⟨older.trans grown.1, grown.2⟩
      | retire allowed => exact ⟨older, within⟩

/-- No worker gets a connection. -/
theorem connections
    (ledger : Ledger issues retires (fun _ _ => False) table after)
    {instanceId : InstanceId}
    {connectionId : Sfu.ConnectionId}
    (session : after.connection? instanceId = some connectionId) :
    table.connection? instanceId = some connectionId := by
  induction ledger with
  | refl => exact session
  | tail earlier step inductionHypothesis =>
      refine inductionHypothesis ?_
      cases step with
      | silent new same next connections queued nothing =>
          exact connections _ _ session
      | connect capacity allowed => exact allowed.elim
      | issue connected agrees allowed => exact session
      | retire allowed => exact session

/-- Every command that is handed out has a new number. -/
theorem fresh
    (ledger : Ledger issues retires connects table after)
    (bounded : table.nextSfuRequestId ≤ u64Max) :
    ∃ new, after.actions = table.actions ++ new ∧
      ∀ entry ∈ handed new, table.nextSfuRequestId ≤ entry.2.requestId := by
  induction ledger with
  | refl => exact ⟨[], by simp, by simp [handed]⟩
  | tail earlier step inductionHypothesis =>
      rename_i middle last
      obtain ⟨new, appended, above⟩ := inductionHypothesis
      have grown := (next_le earlier bounded).1
      cases step with
      | silent more same next connections queued nothing =>
          refine ⟨new ++ more, by rw [queued, appended, List.append_assoc], ?_⟩
          rwa [handed_append, nothing, List.append_nil]
      | connect capacity allowed => exact ⟨new, appended, above⟩
      | issue connected agrees allowed =>
          rename_i instanceId connectionId command pending
          refine ⟨new ++ [.sfu (.command connectionId
            ⟨middle.nextSfuRequestId, command⟩)], ?_, ?_⟩
          · rw [issueCommand_actions, appended, List.append_assoc]
          · intro entry listed
            rw [handed_append, List.mem_append] at listed
            rcases listed with older | last
            · exact above entry older
            · rw [List.mem_singleton.1 last]
              exact grown
      | retire allowed => exact ⟨new, appended, above⟩

end Ledger

/-- A registration is turned down, or it binds the worker to the connection,
retires the old synchronizations and asks for new ones. -/
theorem registerWorker_cases
    (table : RoomTable)
    (order : VisitOrder)
    (connectionId : Sfu.ConnectionId)
    (instanceId : InstanceId)
    (requestId : Nat)
    (capacity : Sfu.Capacity) :
    (∃ notice, (instanceId.isEmpty || requestId = 0 || capacity.maxRooms = 0
        || capacity.maxClients = 0) = true ∧ handed [notice] = [] ∧
      (table.registerWorker order connectionId instanceId requestId
        capacity).2 = table.pushAction notice) ∨
    ∃ notices, handed notices = [] ∧
      (table.registerWorker order connectionId instanceId requestId
        capacity).2 =
      ((table.workers[instanceId]?.getD
        (Worker.unseen capacity)).assignedRooms.toList).foldl
        (syncAssignedRoom order instanceId connectionId)
        (((table.connectWorker connectionId instanceId capacity).pushActions
          notices).retireAll (table.syncsOf instanceId)) := by
  unfold RoomTable.registerWorker
  split
  · rename_i invalid
    exact .inl ⟨_, invalid, rfl, rfl⟩
  · refine .inr ⟨(table.connection? instanceId).elim [] (fun old =>
      if old = connectionId then [] else [Action.sfu (.close old)]) ++
        [.sfu (.registered connectionId requestId healthIntervalMs
          (table.workers.contains instanceId))], ?_, ?_⟩
    · rw [handed_append]
      cases table.connection? instanceId with
      | none => rfl
      | some old =>
          rw [Option.elim_some]
          split <;> rfl
    · have syncs (actions : List Action) :
          ((table.connectWorker connectionId instanceId capacity).pushActions
            actions).syncsOf instanceId = table.syncsOf instanceId := by
        simp [RoomTable.syncsOf, RoomTable.connectWorker]
      dsimp only
      rw [syncs]
      cases table.connection? instanceId <;> simp [RoomTable.connectWorker]

/-- The commands that a move retires. -/
def Move.Retires
    (table : RoomTable)
    (move : Move)
    (requestId : Nat) : Prop :=
  match move with
  | .answer answered | .refuseSync answered _ | .advanceUpgrade answered _
  | .commitUpgrade answered _ | .abortUpgrade answered _
  | .completeJoin _ answered _ _ | .refuseJoin answered _
  | .completeLeave answered _ _ | .refuseLeave answered _ =>
      requestId = answered
  | .endExpiry instanceId =>
      table.commandWorkers[requestId]? = some instanceId
  | _ => False

/-- A move hands commands for the room to the worker: the worker is connected,
and a join or a leave has a client that it is about. -/
def Move.Commands
    (move : Move)
    (table : RoomTable)
    (instanceId : InstanceId)
    (roomId : RoomId) : Prop :=
  match move with
  | .beginUpgrade _ subject _ =>
      subject = roomId ∧ table.selectWorker 3 = some instanceId
  | .beginJoin _ subject _ | .dropWithLeave subject _
  | .forwardSignal subject _ | .requestLeave _ subject _
  | .downgrade subject | .retryLeave subject _ =>
      subject = roomId ∧ ∃ room, table.Reaches instanceId roomId room
  | .advanceUpgrade _ subject =>
      subject = roomId ∧ ∃ room, table.Reaches instanceId roomId room ∧
        room.Proceeds
  | .abortUpgrade _ subject =>
      subject = roomId ∧ ∃ room, table.Reaches instanceId roomId room ∧
        room.Rewinds
  | .expireRoom _ subject =>
      subject = roomId ∧ ∃ room, table.Reaches instanceId roomId room ∧
        room.Rewinds ∧ room.mode = .upgrading
  | _ => False

/-- What a move issues: no synchronization, and only where it may. -/
def Move.Issues
    (move : Move)
    (table : RoomTable)
    (instanceId : InstanceId)
    (command : Sfu.Command)
    (pending : PendingCommand) : Prop :=
  pending.isSync = false ∧
    move.Commands table instanceId (commandRoomId command)

/-- A move of a call that registers no worker and polls no action. -/
def Move.Steady (move : Move) : Prop :=
  match move with
  | .connectWorker _ | .syncRoom _ _ | .pollAction => False
  | _ => True

/-- Every move of such a call is a chain of steps of the ledger, apart from
the replay behind a synchronization. -/
theorem Moved.ledger
    {phase phase' : Option InstanceId}
    {table table' : RoomTable}
    {move : Move}
    (taken : Moved phase table move phase' table')
    (wellFormed : table.WellFormed)
    (steady : move.Steady)
    (original : ∀ requestId pending, move = .answer requestId ->
      table.pendingCommands[requestId]? = some pending ->
      pending.isSync = false) :
    Ledger (fun instanceId command pending =>
        move.Issues table instanceId command pending ∧
          pending.Describes instanceId command.command)
      (move.Retires table) (fun _ _ => False) table table' := by
  have serves {current : RoomTable} {roomId : RoomId} {room : Room}
      {instanceId : InstanceId} {connectionId : Sfu.ConnectionId}
      (found : current.rooms[roomId]? = some room)
      (assigned : room.assignedInstance = some instanceId)
      (connected : current.connection? instanceId = some connectionId) :
      ∃ room, current.Reaches instanceId roomId room :=
    ⟨room, found, assigned, by rw [connected]; rfl⟩
  have quiet {actions : List Action}
      (notices : ∀ action ∈ actions, action.Notice) : handed actions = [] :=
    handed_of_none fun action listed => (notices action listed).command?
  cases taken with
  | create | joinDirect | register | dropWithGrace | queueMessage
  | clearDeadline | rearmGrace | setDwell | beginExpiry =>
      exact .of_same [] (fun _ => ⟨rfl, rfl, rfl⟩) rfl (fun _ => rfl)
        (by exact (List.append_nil _).symm) rfl
  | disconnectWorker now =>
      rename_i instanceId
      refine .silent [] (fun _ => ⟨rfl, rfl, rfl⟩) rfl
        (fun otherId connectionId session => ?_)
        (by exact (List.append_nil _).symm) rfl
      simp only [RoomTable.connection?, modifyWorker_workers,
        ExtTreeMap.getElem?_modify] at session
      split at session
      · obtain ⟨worker, known, lost⟩ := Option.bind_eq_some_iff.1 session
        obtain ⟨connected, -, rfl⟩ := Option.map_eq_some_iff.1 known
        cases lost
      · exact session
  | removeFailed | removeDirect | expireMembers => exact .setOrDropRoom _ _
  | beginUpgrade authorityRequestId now token found vacant direct full selected =>
      rename_i roomId room clientId instanceId
      obtain ⟨lifecycle, counters, lifecycleId, first, joining, connectionId,
        head, present, connected, begun⟩ := beginUpgrade_eq authorityRequestId
          now token roomId vacant full selected
      rw [begun]
      refine .thenIssue (.of_same [] (fun _ => ⟨rfl, rfl, rfl⟩) rfl
        (fun otherId => ?_) (by exact (List.append_nil _).symm) rfl) ?_ rfl
          ⟨⟨rfl, rfl, selected⟩, rfl, rfl⟩
      · exact connection?_modifyWorker _ instanceId otherId (chargeRoom roomId)
          fun _ => rfl
      · refine (connection?_modifyWorker _ instanceId instanceId
          (chargeRoom roomId) fun _ => rfl).trans ?_
        exact connected
  | beginJoin authorityRequestId now token found vacant forwarded noJoin noLeave
      assigned connected =>
      exact .thenIssue (.of_same [] (fun _ => ⟨rfl, rfl, rfl⟩) rfl (fun _ => rfl)
        (by exact (List.append_nil _).symm) rfl) connected rfl
          ⟨⟨rfl, rfl, serves found assigned connected⟩, rfl, rfl⟩
  | dropWithLeave found present registered forwarded noLeave assigned connected =>
      exact .thenIssue (.setRoom _ _) connected rfl
        ⟨⟨rfl, rfl, serves found assigned connected⟩, rfl, _, rfl⟩
  | requestLeave authorityRequestId found present forwarded noJoin noLeave
      assigned connected =>
      exact .thenIssue (.setRoom _ _) connected rfl
        ⟨⟨rfl, rfl, serves found assigned connected⟩, rfl, _, rfl⟩
  | retryLeave found present waiting forwarded noLeave assigned connected =>
      exact .thenIssue (.setRoom _ _) connected rfl
        ⟨⟨rfl, rfl, serves found assigned connected⟩, rfl, _, rfl⟩
  | forwardSignal message found present forwarded assigned connected =>
      exact .thenIssue .refl connected rfl
        ⟨⟨rfl, rfl, serves found assigned connected⟩, trivial⟩
  | connectWorker | syncRoom | pollAction => exact steady.elim
  | noteEvent update new keepsConnection keepsDeadline keepsRooms keepsClients
      notices =>
      exact .trans (.modifyWorker _ update keepsConnection)
        (.pushActions new (quiet notices))
  | reportFailure requestId order reason ack known notice =>
      rename_i instanceId worker roomId
      refine .trans (.modifyWorker instanceId (Worker.remember · requestId)
        fun _ => Worker.remember_connectionId ..)
          (.trans (.failRoom order roomId reason) ?_)
      exact .of_same [ack] (fun _ => ⟨rfl, rfl, rfl⟩) rfl (fun _ => rfl) rfl
        (quiet (by simpa using notice))
  | push action notice =>
      exact .of_same [action] (fun _ => ⟨rfl, rfl, rfl⟩) rfl (fun _ => rfl) rfl
        (quiet (by simpa using notice))
  | answer new outstanding idle replays =>
      refine .trans (.retire rfl) (.pushActions new ?_)
      rcases replays with rfl | ⟨_, _, _, _, _, rfl, -, -⟩
      · rfl
      · have wrong := original _ _ rfl outstanding
        simp [PendingCommand.isSync] at wrong
  | refuseSync order outstanding =>
      exact .trans (.retire rfl) (.failRoom order _ _)
  | advanceUpgrade outstanding connected found upgrading unfinished =>
      exact .advanceUpgrade _ found upgrading rfl
        fun instanceId served proceeds nextId lifecycleId issuedId =>
          ⟨⟨rfl, rfl, _, served, proceeds⟩, rfl, rfl⟩
  | commitUpgrade order outstanding connected found upgrading finished =>
      exact .commitUpgrade order _ rfl
  | abortUpgrade reason outstanding found upgrading =>
      rename_i requestId instanceId roomId clientId lifecycleId
        assignmentEpoch room upgrade
      obtain ⟨carrier, carried⟩ := Option.isSome_iff_exists.1
        ((wellFormed.rooms roomId room found).upgrade upgrade upgrading).2.2.1
      exact .trans (.retire rfl) (.abortUpgrade reason found upgrading carried
        fun served rewinds _ same => ⟨⟨rfl, same.symm, room, by
          rw [same]
          exact ⟨found, carried, served.connected⟩, rewinds⟩, trivial⟩)
  | completeJoin outstanding found joining =>
      rename_i requestId instanceId roomId clientId lifecycleId
        assignmentEpoch room pendingJoin
      refine .trans (.retire rfl) ?_
      rw [completeJoin_eq]
      split
      · exact .trans (.setRoom roomId { room with pendingJoin := none })
          (.modifyWorker instanceId chargeMember fun _ => rfl)
      · refine .trans (.setRoom roomId { room with pendingJoin := none })
          (.trans (.modifyWorker instanceId chargeMember fun _ => rfl) ?_)
        exact .of_same [_] (fun _ => ⟨rfl, rfl, rfl⟩) rfl (fun _ => rfl) rfl rfl
  | refuseJoin reason outstanding found joining =>
      refine .trans (.retire rfl) ?_
      exact .of_same [_] (fun _ => ⟨rfl, rfl, rfl⟩) rfl (fun _ => rfl) rfl rfl
  | completeLeave now outstanding found leaving =>
      exact .trans (.retire rfl) (.completeLeave now)
  | refuseLeave reason outstanding found leaving =>
      rw [removalAnswer_eq]
      exact .trans (.retire rfl) (.trans (.setRoom _ _)
        (.pushActions _ (handed_removalActions _ _ _ _)))
  | expireUpgrade waits listed found upgrading =>
      rename_i instanceId roomId room
      obtain ⟨upgrade, running, -⟩ :=
        (wellFormed.rooms roomId room found).upgrading upgrading
      obtain ⟨carrier, carried⟩ := Option.isSome_iff_exists.1
        ((wellFormed.rooms roomId room found).upgrade upgrade running).2.2.1
      exact .abortUpgrade "WORKER_UNAVAILABLE" found running carried
        fun served rewinds _ same => ⟨⟨rfl, same.symm, room, by
          rw [same]
          exact ⟨found, carried, served.connected⟩, rewinds, upgrading⟩,
          trivial⟩
  | expireRoom order waits listed found settled =>
      unfold RoomTable.failExpired
      refine .trans (.setRoom _ _) (.pushActions _ ?_)
      simp only [handed_append, List.append_eq_nil_iff]
      refine ⟨⟨?_, ?_⟩, rfl⟩
      · split <;> rfl
      · split
        · rfl
        · split <;> rfl
  | endExpiry waits settled =>
      rename_i expiredId
      unfold RoomTable.releaseWorker
      refine .trans (.retireAll _ fun requestId listed => ?_)
        (.modifyWorker expiredId (fun worker =>
          { worker with
            disconnectDeadline := none
            assignedRooms := ∅
            assignedClients := 0 }) fun _ => rfl)
      simp only [RoomTable.commandsOf, List.mem_map, List.mem_filter,
        decide_eq_true_eq] at listed
      obtain ⟨⟨listedId, worker⟩, ⟨addressed, rfl⟩, rfl⟩ := listed
      simpa [Move.Retires] using addressed
  | downgrade order eligible =>
      obtain ⟨room, carrier, initiatorClientId, others, found, forwarded,
        small, noJoin, noLeave, carried, clients⟩ :=
          wellFormed.eligible eligible
      exact .released (commitDowngrade_released order found carried clients)
        (fun connected _ same => ⟨⟨rfl, same.symm, room, by
          rw [same]
          exact ⟨found, carried, connected⟩⟩, trivial⟩) rfl

/-- No move takes a number back. -/
theorem Moved.next_le
    {phase phase' : Option InstanceId}
    {table table' : RoomTable}
    {move : Move}
    (taken : Moved phase table move phase' table')
    (wellFormed : table.WellFormed) :
    table.nextSfuRequestId ≤ table'.nextSfuRequestId := by
  by_cases steady : move.Steady
  · by_cases answers : ∃ requestId, move = .answer requestId
    · obtain ⟨requestId, rfl⟩ := answers
      cases taken
      simp
    · exact (Ledger.next_le (taken.ledger wellFormed steady
        fun requestId _ same => absurd ⟨requestId, same⟩ answers)
          wellFormed.counter).1
  · cases taken with
    | connectWorker => simp [RoomTable.connectWorker]
    | syncRoom order found listed connected =>
        simp only [syncAssignedRoom, found]
        exact (issueCommand_next_le _ _ _ _ _ wellFormed.counter).1
    | pollAction =>
        unfold RoomTable.pollAction
        split <;> exact Nat.le_refl _
    | _ => exact absurd trivial steady

/-- No call takes a number back. -/
theorem RoomTable.Consistent.next_le
    {table : RoomTable}
    (consistent : table.Consistent)
    (call : Call) :
    table.nextSfuRequestId ≤ (table.step call).nextSfuRequestId :=
  consistent.step_invariant
    (fun _ middle => table.nextSfuRequestId ≤ middle.nextSfuRequestId)
    (fun _ _ _ _ _ taken _ kept grown =>
      grown.trans (taken.next_le kept.wellFormed)) (Nat.le_refl _)

end V2
end Signaling
