import Signaling.V2.Commands

/-!
# Rooms, workers and outstanding commands

A worker lists exactly the rooms that it carries, and an outstanding join or
leave stands for the transition that its room is in. Both hold as long as no
failed room is deleted while a worker still lists it, and no room is deleted
while a join into it is pending.
-/

namespace Signaling
namespace V2

open Std (ExtTreeMap ExtTreeSet)
open RoomTable

/-- An update that keeps a worker's list keeps every list. -/
theorem lists_modifyWorker
    (table : RoomTable)
    (instanceId : InstanceId)
    {update : Worker -> Worker}
    (keepsRooms : ∀ worker,
      (update worker).assignedRooms = worker.assignedRooms)
    (otherId : InstanceId)
    (roomId : RoomId) :
    (table.modifyWorker instanceId update).Lists otherId roomId ↔
      table.Lists otherId roomId := by
  simp only [RoomTable.Lists, RoomTable.modifyWorker_workers]
  by_cases same : otherId = instanceId
  · subst same
    simp only [ExtTreeMap.getElem?_modify_self, Option.map_eq_some_iff]
    constructor
    · rintro ⟨worker, ⟨former, known, rfl⟩, listed⟩
      exact ⟨former, known, keepsRooms former ▸ listed⟩
    · rintro ⟨worker, known, listed⟩
      exact ⟨update worker, ⟨worker, known, rfl⟩,
        (keepsRooms worker).symm ▸ listed⟩
  · constructor <;> rintro ⟨worker, known, listed⟩ <;>
      exact ⟨worker, by grind, listed⟩

/-- Workers list the rooms that they carry, and an outstanding join or leave
stands for its room's transition. Only commands of the given kinds count, and
none of a worker that is being given up. -/
structure Assigned
    (kinds : TransitionKind -> Prop)
    (phase : Option InstanceId)
    (table : RoomTable) : Prop where
  listed : ∀ (instanceId : InstanceId) (roomId : RoomId),
    table.Lists instanceId roomId -> ∃ room : Room,
      table.rooms[roomId]? = some room ∧
        room.assignedInstance = some instanceId
  serving : ∀ (roomId : RoomId) (room : Room),
    table.rooms[roomId]? = some room ->
    room.mode = .upgrading ∨ room.mode = .sfu -> ∃ instanceId,
      room.assignedInstance = some instanceId ∧ table.Lists instanceId roomId
  backed : ∀ (requestId : Nat) (pending : PendingCommand)
    (kind : TransitionKind) (roomId : RoomId),
    table.pendingCommands[requestId]? = some pending ->
    pending.transition? = some (kind, roomId) -> kinds kind ->
    pending.instance? ≠ phase -> ∃ (instanceId : InstanceId) (room : Room),
      pending.instance? = some instanceId ∧ table.Lists instanceId roomId ∧
        table.rooms[roomId]? = some room ∧ room.Backs pending
  unique : ∀ (first second : Nat) (pending other : PendingCommand)
    (kind : TransitionKind) (roomId : RoomId),
    table.pendingCommands[first]? = some pending ->
    table.pendingCommands[second]? = some other ->
    pending.transition? = some (kind, roomId) ->
    other.transition? = some (kind, roomId) -> kinds kind ->
    pending.instance? ≠ phase -> other.instance? ≠ phase -> first = second

/-- A room that backs a command is assigned to the worker that it names. -/
theorem Room.Backs.assigned
    {room : Room}
    {pending : PendingCommand}
    (backs : room.Backs pending)
    (transition : pending.transition?.isSome) :
    pending.instance? = room.assignedInstance := by
  cases pending <;>
    simp_all [Room.Backs, PendingCommand.instance?,
      PendingCommand.transition?] <;> grind

namespace Assigned

variable
  {kinds : TransitionKind -> Prop}
  {phase : Option InstanceId}
  {table after : RoomTable}
  {roomId : RoomId}
  {room replaced : Room}

theorem new (reconnectGrace : Duration) :
    Assigned kinds none (RoomTable.new reconnectGrace) where
  listed := by simp [RoomTable.Lists]
  serving := by simp
  backed := by simp
  unique := by simp

/-- No live command is about a room that no worker lists. -/
theorem no_command_of_unlisted
    (assigned : Assigned kinds phase table)
    (unlisted : ∀ instanceId, ¬table.Lists instanceId roomId)
    (requestId : Nat)
    (pending : PendingCommand)
    (kind : TransitionKind)
    (outstanding : table.pendingCommands[requestId]? = some pending)
    (about : pending.transition? = some (kind, roomId))
    (counted : kinds kind) :
    pending.instance? = phase := by
  by_contra live
  obtain ⟨instanceId, room, -, listed, -⟩ :=
    assigned.backed requestId pending kind roomId outstanding about counted
      live
  exact unlisted instanceId listed

/-- A room that is assigned to no worker is on no list. -/
theorem unlisted_of_unassigned
    (assigned : Assigned kinds phase table)
    (found : table.rooms[roomId]? = some room)
    (unassigned : room.assignedInstance = none)
    (instanceId : InstanceId) :
    ¬table.Lists instanceId roomId := fun listed => by
  obtain ⟨other, present, carried⟩ := assigned.listed instanceId roomId listed
  rw [found] at present
  cases present
  simp [unassigned] at carried

/-- Fewer commands, and otherwise the same rooms and lists. -/
theorem shrink
    (assigned : Assigned kinds phase table)
    (rooms : after.rooms = table.rooms)
    (lists : ∀ instanceId roomId,
      after.Lists instanceId roomId ↔ table.Lists instanceId roomId)
    (commands : ∀ (requestId : Nat) (pending : PendingCommand),
      after.pendingCommands[requestId]? = some pending ->
      pending.transition?.isSome ->
      table.pendingCommands[requestId]? = some pending) :
    Assigned kinds phase after := by
  obtain ⟨listed, serving, backed, unique⟩ := assigned
  constructor
  · intro instanceId roomId shown
    rw [rooms]
    exact listed instanceId roomId ((lists _ _).1 shown)
  · intro roomId room found active
    rw [rooms] at found
    obtain ⟨instanceId, carried, shown⟩ := serving roomId room found active
    exact ⟨instanceId, carried, (lists _ _).2 shown⟩
  · intro requestId pending kind roomId outstanding about counted live
    obtain ⟨instanceId, room, named, shown, rest⟩ := backed requestId pending
      kind roomId (commands requestId pending outstanding (by simp [about]))
        about counted live
    rw [rooms]
    exact ⟨instanceId, room, named, (lists _ _).2 shown, rest⟩
  · intro first second pending other kind roomId one two about too
    exact unique first second pending other kind roomId
      (commands _ _ one (by simp [about])) (commands _ _ two (by simp [too]))
      about too

/-- A room may change as long as it stays assigned, does not start to serve,
and keeps backing what it backed. -/
theorem setRoom
    (assigned : Assigned kinds phase table)
    (replaced : Room)
    (found : table.rooms[roomId]? = some room)
    (carried : replaced.assignedInstance = room.assignedInstance)
    (served : replaced.mode = .upgrading ∨ replaced.mode = .sfu ->
      ∃ instanceId, room.assignedInstance = some instanceId ∧
        table.Lists instanceId roomId)
    (backs : ∀ (requestId : Nat) (pending : PendingCommand)
      (kind : TransitionKind),
      table.pendingCommands[requestId]? = some pending ->
      pending.transition? = some (kind, roomId) -> kinds kind ->
      pending.instance? ≠ phase -> room.Backs pending ->
      replaced.Backs pending) :
    Assigned kinds phase (table.setRoom roomId replaced) := by
  obtain ⟨listed, serving, backed, unique⟩ := assigned
  have lists (instanceId : InstanceId) (otherId : RoomId) :
      (table.setRoom roomId replaced).Lists instanceId otherId ↔
        table.Lists instanceId otherId := Iff.rfl
  constructor
  · simp only [lists, setRoom_rooms]
    grind
  · simp only [lists, setRoom_rooms]
    grind
  · simp only [lists, setRoom_rooms, setRoom_pendingCommands]
    intro requestId pending kind otherId outstanding about counted live
    obtain ⟨instanceId, other, named, shown, present, backing⟩ :=
      backed requestId pending kind otherId outstanding about counted live
    by_cases same : otherId = roomId
    · subst same
      rw [found] at present
      cases present
      exact ⟨instanceId, replaced, named, shown, by simp,
        backs requestId pending kind outstanding about counted live backing⟩
    · exact ⟨instanceId, other, named, shown, by grind, backing⟩
  · exact unique

/-- A room that no worker lists may be stored in a mode that needs none. -/
theorem setUnlisted
    (assigned : Assigned kinds phase table)
    (unlisted : ∀ instanceId, ¬table.Lists instanceId roomId)
    (quiet : ¬(replaced.mode = .upgrading ∨ replaced.mode = .sfu)) :
    Assigned kinds phase (table.setRoom roomId replaced) := by
  have none_about (requestId : Nat) (pending : PendingCommand)
      (kind : TransitionKind) := assigned.no_command_of_unlisted unlisted
        requestId pending kind
  obtain ⟨listed, serving, backed, unique⟩ := assigned
  have lists (instanceId : InstanceId) (otherId : RoomId) :
      (table.setRoom roomId replaced).Lists instanceId otherId ↔
        table.Lists instanceId otherId := Iff.rfl
  constructor
  · simp only [lists, setRoom_rooms]
    grind
  · simp only [lists, setRoom_rooms]
    grind
  · simp only [lists, setRoom_rooms, setRoom_pendingCommands]
    grind
  · exact unique

/-- A room that no worker lists may be deleted. -/
theorem dropRoom
    (assigned : Assigned kinds phase table)
    (unlisted : ∀ instanceId, ¬table.Lists instanceId roomId) :
    Assigned kinds phase (table.dropRoom roomId) := by
  have none_about (requestId : Nat) (pending : PendingCommand)
      (kind : TransitionKind) := assigned.no_command_of_unlisted unlisted
        requestId pending kind
  obtain ⟨listed, serving, backed, unique⟩ := assigned
  have lists (instanceId : InstanceId) (otherId : RoomId) :
      (table.dropRoom roomId).Lists instanceId otherId ↔
        table.Lists instanceId otherId := Iff.rfl
  constructor
  · simp only [lists, dropRoom_rooms]
    grind
  · simp only [lists, dropRoom_rooms]
    grind
  · simp only [lists, dropRoom_rooms, dropRoom_pendingCommands]
    grind
  · exact unique

/-- A backed command may be issued when its transition has no other one. -/
theorem issueCommand
    {instanceId : InstanceId}
    (kind : TransitionKind)
    (roomId : RoomId)
    (room : Room)
    (assigned : Assigned kinds phase table)
    (connectionId : Sfu.ConnectionId)
    (command : Sfu.CommandKind)
    (pending : PendingCommand)
    (about : pending.transition? = some (kind, roomId))
    (named : pending.instance? = some instanceId)
    (shown : table.Lists instanceId roomId)
    (found : table.rooms[roomId]? = some room)
    (backs : room.Backs pending)
    (fresh : kinds kind -> ∀ (requestId : Nat) (other : PendingCommand),
      table.pendingCommands[requestId]? = some other ->
      other.transition? = some (kind, roomId) -> other.instance? = phase) :
    Assigned kinds phase (table.issueCommand instanceId connectionId command
      pending) := by
  obtain ⟨listed, serving, backed, unique⟩ := assigned
  have lists (otherInstance : InstanceId) (otherId : RoomId) :
      (table.issueCommand instanceId connectionId command pending).Lists
        otherInstance otherId ↔ table.Lists otherInstance otherId := Iff.rfl
  constructor
  · simp only [lists, issueCommand_rooms]
    exact listed
  · simp only [lists, issueCommand_rooms]
    exact serving
  · simp only [lists, issueCommand_rooms, issueCommand_pendingCommands]
    grind
  · simp only [issueCommand_pendingCommands]
    grind

/-- Commands that complete no transition may always be issued. -/
theorem issueOther
    (assigned : Assigned kinds phase table)
    (instanceId : InstanceId)
    (connectionId : Sfu.ConnectionId)
    (command : Sfu.CommandKind)
    (pending : PendingCommand)
    (about : pending.transition? = none) :
    Assigned kinds phase (table.issueCommand instanceId connectionId command
      pending) :=
  assigned.shrink rfl (fun _ _ => Iff.rfl) fun requestId other outstanding
    transition => by
      simp only [issueCommand_pendingCommands] at outstanding
      grind

theorem retireCommand
    (assigned : Assigned kinds phase table)
    (requestId : Nat) :
    Assigned kinds phase (table.retireCommand requestId) :=
  assigned.shrink rfl (fun _ _ => Iff.rfl) fun _ _ outstanding _ => by
    simp only [retireCommand_pendingCommands] at outstanding
    grind

theorem pushActions
    (assigned : Assigned kinds phase table)
    (actions : List Action) :
    Assigned kinds phase (table.pushActions actions) :=
  assigned.shrink (by simp) (by simp [RoomTable.Lists])
    fun _ _ outstanding _ => by simpa using outstanding

theorem withLifecycles
    (assigned : Assigned kinds phase table)
    (counters : ExtTreeMap MemberKey Nat lexOrd.compare) :
    Assigned kinds phase { table with lifecycleIds := counters } :=
  assigned.shrink rfl (fun _ _ => Iff.rfl) fun _ _ outstanding _ => outstanding

/-- A worker's record may change as long as its list stays. -/
theorem modifyWorker
    (assigned : Assigned kinds phase table)
    (instanceId : InstanceId)
    (update : Worker -> Worker)
    (keepsRooms : ∀ worker,
      (update worker).assignedRooms = worker.assignedRooms) :
    Assigned kinds phase (table.modifyWorker instanceId update) :=
  assigned.shrink rfl (lists_modifyWorker table instanceId keepsRooms)
    fun _ _ outstanding _ => outstanding

/-- A room that is released to P2P leaves its worker's list. -/
theorem released
    {instanceId : InstanceId}
    {assignmentEpoch count : Nat}
    {leavers : List ClientId}
    {answers : List Action}
    (assigned : Assigned kinds phase table)
    (found : table.rooms[roomId]? = some room)
    (carried : room.assignedInstance = some instanceId)
    (direct : replaced.mode = .p2p)
    (quiet : ∀ (requestId : Nat) (pending : PendingCommand)
      (kind : TransitionKind),
      table.pendingCommands[requestId]? = some pending ->
      pending.transition? = some (kind, roomId) -> kinds kind ->
      pending.instance? = phase)
    (release : table.Released roomId instanceId assignmentEpoch count replaced
      leavers answers after) :
    Assigned kinds phase after := by
  have touches := TouchesOnly.of_released release
  have unlisted (otherId : InstanceId) : ¬after.Lists otherId roomId :=
    fun shown => by
      obtain ⟨other, present, carries⟩ :=
        assigned.listed otherId roomId (touches.lists _ _ shown)
      rw [found] at present
      cases present
      rw [carried] at carries
      cases carries
      obtain ⟨worker, known, listed⟩ := shown
      rw [release.workers] at known
      simp only [ExtTreeMap.getElem?_modify_self, Option.map_eq_some_iff]
        at known
      obtain ⟨former, known, rfl⟩ := known
      simp only [dischargeRoom] at listed
      grind
  have commands (requestId : Nat) (pending : PendingCommand)
      (outstanding : after.pendingCommands[requestId]? = some pending)
      (transition : pending.transition?.isSome) :
      table.pendingCommands[requestId]? = some pending := by
    rcases release.command requestId with same | cleanup
    · rw [← same.1]
      exact outstanding
    · rw [cleanup.1] at outstanding
      cases outstanding
      simp [PendingCommand.transition?] at transition
  have rooms (otherId : RoomId) : after.rooms[otherId]? =
      if otherId = roomId then some replaced else table.rooms[otherId]? := by
    rw [release.rooms]
    grind
  obtain ⟨listed, serving, backed, unique⟩ := assigned
  constructor
  · intro otherInstance otherId shown
    have other : otherId ≠ roomId := by
      rintro rfl
      exact unlisted _ shown
    rw [rooms, if_neg other]
    exact listed otherInstance otherId (touches.lists _ _ shown)
  · intro otherId otherRoom present active
    rw [rooms] at present
    split at present
    · cases present
      simp [direct] at active
    · rename_i other
      obtain ⟨otherInstance, carries, shown⟩ :=
        serving otherId otherRoom present active
      exact ⟨otherInstance, carries, touches.kept _ _ other shown⟩
  · intro requestId pending kind otherId outstanding about counted live
    have earlier := commands requestId pending outstanding (by simp [about])
    have other : otherId ≠ roomId := by
      rintro rfl
      exact live (quiet requestId pending kind earlier about counted)
    obtain ⟨otherInstance, otherRoom, named, shown, present, backs⟩ :=
      backed requestId pending kind otherId earlier about counted live
    exact ⟨otherInstance, otherRoom, named, touches.kept _ _ other shown,
      by rw [rooms, if_neg other]; exact present, backs⟩
  · intro first second pending other kind roomId one two about too
    exact unique first second pending other kind roomId
      (commands _ _ one (by simp [about])) (commands _ _ two (by simp [too]))
      about too

/-- A room may be stored, or deleted with its last member, when no worker lists
it. -/
theorem setOrDropUnlisted
    (assigned : Assigned kinds phase table)
    (unlisted : ∀ instanceId, ¬table.Lists instanceId roomId)
    (quiet : ¬(replaced.mode = .upgrading ∨ replaced.mode = .sfu)) :
    Assigned kinds phase (table.setOrDropRoom roomId replaced) := by
  unfold RoomTable.setOrDropRoom
  split
  · exact assigned.dropRoom unlisted
  · exact assigned.setUnlisted unlisted quiet

/-- A room may be given to a worker when no worker lists it. -/
theorem enlist
    {instanceId : InstanceId}
    {worker : Worker}
    (replaced : Room)
    (assigned : Assigned kinds phase table)
    (unlisted : ∀ instanceId, ¬table.Lists instanceId roomId)
    (known : table.workers[instanceId]? = some worker)
    (carried : replaced.assignedInstance = some instanceId) :
    Assigned kinds phase ((table.setRoom roomId replaced).modifyWorker
      instanceId (chargeRoom roomId)) := by
  have none_about (requestId : Nat) (pending : PendingCommand)
      (kind : TransitionKind) := assigned.no_command_of_unlisted unlisted
        requestId pending kind
  have lists (otherInstance : InstanceId) (otherId : RoomId) :
      ((table.setRoom roomId replaced).modifyWorker instanceId
        (chargeRoom roomId)).Lists otherInstance otherId ↔
          table.Lists otherInstance otherId ∨
            otherInstance = instanceId ∧ otherId = roomId := by
    simp only [RoomTable.Lists, modifyWorker_workers, setRoom_workers]
    by_cases same : otherInstance = instanceId
    · subst same
      simp only [ExtTreeMap.getElem?_modify_self, known, Option.map_some,
        Option.some.injEq, exists_eq_left', chargeRoom]
      grind
    · simp only [same, false_and, or_false]
      constructor <;> rintro ⟨worker, known, listed⟩ <;>
        exact ⟨worker, by grind, listed⟩
  obtain ⟨listed, serving, backed, unique⟩ := assigned
  constructor
  · simp only [lists, modifyWorker_rooms, setRoom_rooms]
    grind
  · simp only [lists, modifyWorker_rooms, setRoom_rooms]
    grind
  · simp only [lists, modifyWorker_rooms, setRoom_rooms,
      modifyWorker_pendingCommands, setRoom_pendingCommands]
    grind
  · exact unique

/-- A room that no command is about may be deleted once its worker has taken it
off its list. -/
theorem delist
    {instanceId : InstanceId}
    (assigned : Assigned kinds phase table)
    (found : table.rooms[roomId]? = some room)
    (carried : room.assignedInstance = some instanceId)
    (quiet : ∀ (requestId : Nat) (pending : PendingCommand)
      (kind : TransitionKind),
      table.pendingCommands[requestId]? = some pending ->
      pending.transition? = some (kind, roomId) -> kinds kind ->
      pending.instance? = phase) :
    Assigned kinds phase ((table.dropRoom roomId).modifyWorker instanceId
      (dischargeMember roomId true)) := by
  have listed_here (otherId : InstanceId)
      (shown : table.Lists otherId roomId) : otherId = instanceId := by
    obtain ⟨other, present, carries⟩ := assigned.listed otherId roomId shown
    rw [found] at present
    cases present
    rw [carried] at carries
    cases carries
    rfl
  have lists (otherInstance : InstanceId) (otherId : RoomId) :
      ((table.dropRoom roomId).modifyWorker instanceId
        (dischargeMember roomId true)).Lists otherInstance otherId ↔
          table.Lists otherInstance otherId ∧
            ¬(otherInstance = instanceId ∧ otherId = roomId) := by
    simp only [RoomTable.Lists, modifyWorker_workers, dropRoom_workers]
    by_cases same : otherInstance = instanceId
    · subst same
      simp only [ExtTreeMap.getElem?_modify_self, Option.map_eq_some_iff,
        true_and]
      constructor
      · rintro ⟨worker, ⟨former, known, rfl⟩, listed⟩
        simp only [dischargeMember, if_true] at listed
        exact ⟨⟨former, known, by grind⟩, by grind⟩
      · rintro ⟨⟨former, known, listed⟩, other⟩
        exact ⟨_, ⟨former, known, rfl⟩, by simp only [dischargeMember]; grind⟩
    · simp only [same, false_and, not_false_eq_true, and_true]
      constructor <;> rintro ⟨worker, known, listed⟩ <;>
        exact ⟨worker, by grind, listed⟩
  obtain ⟨listed, serving, backed, unique⟩ := assigned
  constructor
  · simp only [lists, modifyWorker_rooms, dropRoom_rooms]
    grind
  · simp only [lists, modifyWorker_rooms, dropRoom_rooms]
    grind
  · simp only [lists, modifyWorker_rooms, dropRoom_rooms,
      modifyWorker_pendingCommands, dropRoom_pendingCommands]
    grind
  · exact unique

/-- Once a live command has been answered, its transition has no other one. -/
theorem quiet_of_retired
    {requestId : Nat}
    {pending : PendingCommand}
    {kind : TransitionKind}
    (assigned : Assigned kinds phase table)
    (outstanding : table.pendingCommands[requestId]? = some pending)
    (about : pending.transition? = some (kind, roomId))
    (live : pending.instance? ≠ phase)
    (counted : kinds kind)
    (otherId : Nat)
    (other : PendingCommand)
    (found : (table.retireCommand requestId).pendingCommands[otherId]? =
      some other)
    (same : other.transition? = some (kind, roomId)) :
    other.instance? = phase := by
  by_contra alive
  simp only [retireCommand_pendingCommands] at found
  have earlier : table.pendingCommands[otherId]? = some other := by grind
  have equal := assigned.unique requestId otherId pending other kind roomId
    outstanding earlier about same counted live alive
  subst equal
  grind

end Assigned

/-- A change that keeps the transition records and gives no member another
lifecycle keeps what the room backs. -/
theorem Room.Backs.congr
    {room replaced : Room}
    {pending : PendingCommand}
    (backs : room.Backs pending)
    (upgrade : replaced.upgrade = room.upgrade)
    (pendingJoin : replaced.pendingJoin = room.pendingJoin)
    (pendingLeave : replaced.pendingLeave = room.pendingLeave)
    (carried : replaced.assignedInstance = room.assignedInstance)
    (epoch : replaced.assignmentEpoch = room.assignmentEpoch)
    (members : ∀ (clientId : ClientId) (member : Member),
      replaced.members[clientId]? = some member -> ∃ former : Member,
        room.members[clientId]? = some former ∧
          former.lifecycleId = member.lifecycleId) :
    replaced.Backs pending := by
  cases pending <;> simp only [Room.Backs] at * <;> grind

/-- A room is in a transition of the given kind. -/
def Room.InTransition (room : Room) : TransitionKind -> Prop
  | .upgrade => room.upgrade.isSome
  | .join => room.pendingJoin.isSome
  | .leave => room.pendingLeave.isSome

theorem Room.Backs.inTransition
    {room : Room}
    {pending : PendingCommand}
    {kind : TransitionKind}
    {roomId : RoomId}
    (backs : room.Backs pending)
    (about : pending.transition? = some (kind, roomId)) :
    room.InTransition kind := by
  cases pending <;> simp only [PendingCommand.transition?] at about <;>
    cases about <;> simp only [Room.Backs] at backs <;>
    obtain ⟨record, present, -⟩ := backs <;>
    simp [Room.InTransition, present]

/-- The moves that keep lists and commands in step: a failed room is not deleted
while a worker lists it, nor any room while a join into it is pending. -/
def Sound
    (kinds : TransitionKind -> Prop)
    (table : RoomTable)
    (move : Move) : Prop :=
  match move with
  | .removeFailed roomId clientId => ∀ room : Room,
      table.rooms[roomId]? = some room ->
      (room.members.erase clientId).isEmpty = true ->
      ∀ instanceId, ¬table.Lists instanceId roomId
  | .completeLeave _ roomId clientId => kinds .join -> ∀ room : Room,
      table.rooms[roomId]? = some room ->
      (room.members.erase clientId).isEmpty = true -> room.pendingJoin = none
  | _ => True

namespace Assigned

variable
  {kinds : TransitionKind -> Prop}
  {phase : Option InstanceId}
  {table : RoomTable}
  {roomId : RoomId}
  {room replaced : Room}

/-- No live command completes a transition that its room is not in. -/
theorem no_command_of_settled
    {requestId : Nat}
    {pending : PendingCommand}
    {kind : TransitionKind}
    (assigned : Assigned kinds phase table)
    (found : table.rooms[roomId]? = some room)
    (outstanding : table.pendingCommands[requestId]? = some pending)
    (about : pending.transition? = some (kind, roomId))
    (counted : kinds kind)
    (settled : ¬room.InTransition kind) :
    pending.instance? = phase := by
  by_contra live
  obtain ⟨instanceId, other, -, -, present, backs⟩ :=
    assigned.backed requestId pending kind roomId outstanding about counted
      live
  rw [found] at present
  cases present
  exact settled (backs.inTransition about)

theorem failRoom
    (assigned : Assigned kinds phase table)
    (order : VisitOrder)
    (roomId : RoomId)
    (reason : String) :
    Assigned kinds phase (table.failRoom order roomId reason) := by
  unfold RoomTable.failRoom
  split
  · exact assigned
  · rename_i room found
    refine (assigned.setRoom { room with mode := .failed } found
      rfl ?_ ?_).pushActions [_]
    · exact fun active => by cases active <;> contradiction
    · exact fun _ _ _ _ _ _ _ backs => backs.congr rfl rfl rfl rfl rfl
        fun clientId member present => ⟨member, present, rfl⟩

/-- A worker's session may be bound anew. -/
theorem connectWorker
    (assigned : Assigned kinds phase table)
    (connectionId : Sfu.ConnectionId)
    (instanceId : InstanceId)
    (capacity : Sfu.Capacity) :
    Assigned kinds phase
      (table.connectWorker connectionId instanceId capacity) := by
  refine assigned.shrink rfl (fun otherId roomId => ?_)
    fun _ _ outstanding _ => outstanding
  simp only [RoomTable.Lists, RoomTable.connectWorker]
  by_cases same : otherId = instanceId
  · subst same
    cases known : table.workers[otherId]? with
    | none => simp [Worker.unseen]
    | some worker => simp
  · constructor <;> rintro ⟨worker, known, listed⟩ <;>
      exact ⟨worker, by grind, listed⟩

/-- The worker of a serving room lists it. -/
theorem lists_of_serving
    {instanceId : InstanceId}
    (assigned : Assigned kinds phase table)
    (found : table.rooms[roomId]? = some room)
    (active : room.mode = .upgrading ∨ room.mode = .sfu)
    (carried : room.assignedInstance = some instanceId) :
    table.Lists instanceId roomId := by
  obtain ⟨other, carries, shown⟩ := assigned.serving roomId room found active
  rw [carried] at carries
  cases carries
  exact shown

/-- The outstanding command of a live transition names the room's worker, which
lists the room. -/
theorem carried_of_outstanding
    {requestId : Nat}
    {pending : PendingCommand}
    (kind : TransitionKind)
    (assigned : Assigned kinds phase table)
    (found : table.rooms[roomId]? = some room)
    (outstanding : table.pendingCommands[requestId]? = some pending)
    (about : pending.transition? = some (kind, roomId))
    (counted : kinds kind)
    (live : pending.instance? ≠ phase) :
    room.Backs pending ∧ ∃ instanceId,
      pending.instance? = some instanceId ∧
        room.assignedInstance = some instanceId ∧
        table.Lists instanceId roomId := by
  obtain ⟨instanceId, other, named, shown, present, backs⟩ :=
    assigned.backed requestId pending kind roomId outstanding about counted
      live
  rw [found] at present
  cases present
  exact ⟨backs, instanceId, named,
    (backs.assigned (by simp [about])).symm.trans named, shown⟩

/-- A transition may begin in an idle room of a worker that lists it. -/
theorem beginTransition
    {instanceId : InstanceId}
    (kind : TransitionKind)
    (roomId : RoomId)
    (room : Room)
    {connectionId : Sfu.ConnectionId}
    {command : Sfu.CommandKind}
    {pending : PendingCommand}
    (assigned : Assigned kinds phase table)
    (found : table.rooms[roomId]? = some room)
    (carried : room.assignedInstance = some instanceId)
    (shown : table.Lists instanceId roomId)
    (settled : ¬room.InTransition kind)
    (keeps : replaced.assignedInstance = room.assignedInstance)
    (other : ∀ (pending : PendingCommand) (otherKind : TransitionKind),
      pending.transition? = some (otherKind, roomId) -> otherKind ≠ kind ->
      room.Backs pending -> replaced.Backs pending)
    (about : pending.transition? = some (kind, roomId))
    (named : pending.instance? = some instanceId)
    (backs : replaced.Backs pending) :
    Assigned kinds phase ((table.setRoom roomId replaced).issueCommand
      instanceId connectionId command pending) := by
  have stored : Assigned kinds phase (table.setRoom roomId replaced) := by
    refine assigned.setRoom replaced found keeps (fun _ => ⟨instanceId, carried, shown⟩)
      fun requestId earlier otherKind outstanding concerns counted live
        backing => ?_
    by_cases same : otherKind = kind
    · subst same
      exact absurd (backing.inTransition concerns) settled
    · exact other earlier otherKind concerns same backing
  refine stored.issueCommand kind roomId replaced connectionId command pending about named shown
    (by simp) backs fun counted requestId earlier outstanding concerns => ?_
  exact assigned.no_command_of_settled found outstanding concerns counted
    settled

/-- A change that keeps the room's mode, worker and transition records, and
gives no member another lifecycle, keeps lists and commands in step. -/
theorem updateRoom
    (assigned : Assigned kinds phase table)
    (found : table.rooms[roomId]? = some room)
    (mode : replaced.mode = room.mode)
    (carried : replaced.assignedInstance = room.assignedInstance)
    (upgrade : replaced.upgrade = room.upgrade)
    (pendingJoin : replaced.pendingJoin = room.pendingJoin)
    (pendingLeave : replaced.pendingLeave = room.pendingLeave)
    (epoch : replaced.assignmentEpoch = room.assignmentEpoch)
    (members : ∀ (clientId : ClientId) (member : Member),
      replaced.members[clientId]? = some member -> ∃ former : Member,
        room.members[clientId]? = some former ∧
          former.lifecycleId = member.lifecycleId) :
    Assigned kinds phase (table.setRoom roomId replaced) :=
  assigned.setRoom replaced found carried
    (by rw [mode]; exact assigned.serving roomId room found)
    fun _ _ _ _ _ _ _ backs => backs.congr upgrade pendingJoin pendingLeave
      carried epoch members

/-- A room whose transition's command has just been answered may change, as
long as it keeps backing the commands of other kinds. -/
theorem endTransition
    {requestId : Nat}
    {pending : PendingCommand}
    (kind : TransitionKind)
    (replaced : Room)
    (assigned : Assigned kinds phase table)
    (found : table.rooms[roomId]? = some room)
    (outstanding : table.pendingCommands[requestId]? = some pending)
    (about : pending.transition? = some (kind, roomId))
    (live : pending.instance? ≠ phase)
    (keeps : replaced.assignedInstance = room.assignedInstance)
    (served : replaced.mode = .upgrading ∨ replaced.mode = .sfu ->
      ∃ instanceId, room.assignedInstance = some instanceId ∧
        table.Lists instanceId roomId)
    (others : ∀ (other : PendingCommand) (otherKind : TransitionKind),
      other.transition? = some (otherKind, roomId) -> otherKind ≠ kind ->
      room.Backs other -> replaced.Backs other) :
    Assigned kinds phase
      ((table.retireCommand requestId).setRoom roomId replaced) := by
  refine (assigned.retireCommand requestId).setRoom replaced found keeps served
    fun otherId other otherKind present concerns counted alive backing => ?_
  by_cases same : otherKind = kind
  · subst same
    exact absurd (assigned.quiet_of_retired outstanding about live counted
      otherId other present concerns) alive
  · exact others other otherKind concerns same backing

/-- The answer to an outstanding upgrade join leaves no live command about its
room. -/
theorem quiet_of_upgrade
    {requestId : Nat}
    {pending : PendingCommand}
    {upgrade : Upgrade}
    (assigned : Assigned kinds phase table)
    (wellFormed : table.WellFormed)
    (found : table.rooms[roomId]? = some room)
    (upgrading : room.upgrade = some upgrade)
    (outstanding : table.pendingCommands[requestId]? = some pending)
    (about : pending.transition? = some (.upgrade, roomId))
    (live : pending.instance? ≠ phase)
    (otherId : Nat)
    (other : PendingCommand)
    (kind : TransitionKind)
    (present : (table.retireCommand requestId).pendingCommands[otherId]? =
      some other)
    (concerns : other.transition? = some (kind, roomId))
    (counted : kinds kind) :
    other.instance? = phase := by
  obtain ⟨-, -, -, noJoin, noLeave, -⟩ :=
    (wellFormed.rooms roomId room found).upgrade upgrade upgrading
  cases kind with
  | upgrade =>
      exact assigned.quiet_of_retired outstanding about live counted otherId
        other present concerns
  | join =>
      exact (assigned.retireCommand requestId).no_command_of_settled found
        present concerns counted (by simp [Room.InTransition, noJoin])
  | leave =>
      exact (assigned.retireCommand requestId).no_command_of_settled found
        present concerns counted (by simp [Room.InTransition, noLeave])

/-- A worker that is given up no longer counts, once its rooms are settled. -/
theorem endExpiry
    {instanceId : InstanceId}
    (assigned : Assigned kinds (some instanceId) table)
    (records : table.CommandsMatch)
    (settled : ∀ roomId room, table.Lists instanceId roomId ->
      table.rooms[roomId]? = some room -> room.GivenUp) :
    Assigned kinds none (table.releaseWorker instanceId) := by
  have lists (otherId : InstanceId) (roomId : RoomId) :
      (table.releaseWorker instanceId).Lists otherId roomId ↔
        otherId ≠ instanceId ∧ table.Lists otherId roomId := by
    simp only [RoomTable.Lists, RoomTable.releaseWorker, modifyWorker_workers,
      retireAll_workers]
    by_cases same : otherId = instanceId
    · subst same
      simp only [ExtTreeMap.getElem?_modify_self, Option.map_eq_some_iff,
        ne_eq, not_true_eq_false, false_and, iff_false]
      rintro ⟨worker, ⟨former, -, rfl⟩, listed⟩
      simp at listed
    · simp only [ne_eq, same, not_false_eq_true, true_and]
      constructor <;> rintro ⟨worker, known, listed⟩ <;>
        exact ⟨worker, by grind, listed⟩
  have rooms : (table.releaseWorker instanceId).rooms = table.rooms := by
    simp [RoomTable.releaseWorker]
  have commands (requestId : Nat) (pending : PendingCommand)
      (outstanding : (table.releaseWorker
        instanceId).pendingCommands[requestId]? = some pending)
      (transition : pending.transition?.isSome) :
      table.pendingCommands[requestId]? = some pending ∧
        pending.instance? ≠ some instanceId := by
    simp only [RoomTable.releaseWorker, modifyWorker_pendingCommands,
      retireAll_pendingCommands] at outstanding
    split at outstanding
    · cases outstanding
    rename_i unlisted
    refine ⟨outstanding, fun named => unlisted ?_⟩
    have recorded := records.workers requestId
    rw [outstanding] at recorded
    obtain ⟨owner, addressed⟩ := Option.isSome_iff_exists.1 recorded
    obtain rfl := records.named requestId pending instanceId owner outstanding
      addressed named
    simp only [commandsOf, List.mem_map, List.mem_filter,
      ExtTreeMap.mem_toList_iff_getElem?_eq_some, decide_eq_true_eq,
      Prod.exists]
    exact ⟨requestId, instanceId, ⟨addressed, rfl⟩, rfl⟩
  obtain ⟨listed, serving, backed, unique⟩ := assigned
  constructor
  · intro otherId roomId shown
    rw [rooms]
    exact listed otherId roomId ((lists _ _).1 shown).2
  · intro roomId room found active
    rw [rooms] at found
    obtain ⟨otherId, carried, shown⟩ := serving roomId room found active
    refine ⟨otherId, carried, (lists _ _).2 ⟨?_, shown⟩⟩
    rintro rfl
    have givenUp := settled roomId room shown found
    exact active.elim givenUp.1 givenUp.2.1
  · intro requestId pending kind roomId outstanding about counted _
    obtain ⟨earlier, other⟩ :=
      commands requestId pending outstanding (by simp [about])
    obtain ⟨otherId, room, named, shown, rest⟩ :=
      backed requestId pending kind roomId earlier about counted other
    rw [rooms]
    refine ⟨otherId, room, named, (lists _ _).2 ⟨?_, shown⟩, rest⟩
    rintro rfl
    exact other named
  · intro first second pending other kind roomId one two about too counted _ _
    obtain ⟨one, here⟩ := commands first pending one (by simp [about])
    obtain ⟨two, there⟩ := commands second other two (by simp [too])
    exact unique first second pending other kind roomId one two about too
      counted here there

/-- An upgrade puts its room on the list of a worker, which is asked for the first
join. -/
theorem beginUpgrade
    {instanceId : InstanceId}
    {clientId : ClientId}
    (authorityRequestId : Nat)
    (now : Instant)
    (token : String)
    (assigned : Assigned kinds phase table)
    (unlisted : ∀ instanceId, ¬table.Lists instanceId roomId)
    (fresh : room.members.contains clientId = false)
    (full : ¬room.members.size < maxP2pMembers)
    (selected : table.selectWorker 3 = some instanceId) :
    Assigned kinds phase (table.beginUpgrade authorityRequestId now roomId room
      clientId token instanceId).2 := by
  obtain ⟨lifecycle, counters, lifecycleId, first, joining, connectionId,
    head, present, connected, begun⟩ := beginUpgrade_eq authorityRequestId
      now token roomId fresh full selected
  obtain ⟨worker, known, -⟩ := takes_of_selectWorker selected
  rw [begun]
  have enlisted := (assigned.withLifecycles counters).enlist
    (room.startUpgrade authorityRequestId clientId
      (newMember now table.reconnectGrace token false lifecycleId)
      lifecycle instanceId) unlisted known rfl
  refine enlisted.issueCommand .upgrade roomId
    (room.startUpgrade authorityRequestId clientId
      (newMember now table.reconnectGrace token false lifecycleId)
      lifecycle instanceId) connectionId _ _ rfl rfl ?_ (by simp) ?_ ?_
  · exact ⟨chargeRoom roomId worker, by simp [known], by simp [chargeRoom]⟩
  · exact ⟨_, rfl, head, rfl, rfl, fun member found => by
      rw [present] at found
      cases found
      rfl⟩
  · exact fun counted requestId other outstanding about =>
      assigned.no_command_of_unlisted unlisted _ _ _ outstanding about counted

/-- A confirmed join of an upgrade is followed by the next one, or by none. -/
theorem advanceUpgrade
    {requestId : Nat}
    {instanceId : InstanceId}
    {clientId : ClientId}
    {lifecycleId assignmentEpoch : Nat}
    {upgrade : Upgrade}
    (assigned : Assigned kinds none table)
    (upgrades : kinds .upgrade)
    (wellFormed : table.WellFormed)
    (outstanding : table.pendingCommands[requestId]? =
      some (.upgradeJoin instanceId roomId clientId lifecycleId assignmentEpoch))
    (found : table.rooms[roomId]? = some room)
    (upgrading : room.upgrade = some upgrade) :
    Assigned kinds none (((table.retireCommand requestId).setRoom roomId
      (room.advanceUpgrade upgrade clientId)).issueNextUpgradeJoin roomId).2 := by
  obtain ⟨-, otherId, named, carried, shown⟩ :=
    assigned.carried_of_outstanding .upgrade found outstanding
      rfl upgrades (by simp [PendingCommand.instance?])
  have quiet := assigned.quiet_of_upgrade wellFormed found upgrading
    outstanding rfl (by simp [PendingCommand.instance?])
  have stored := (assigned.retireCommand requestId).setRoom
    (room.advanceUpgrade upgrade clientId) found rfl
    (fun _ => ⟨otherId, carried, shown⟩)
    fun first other kind present concerns counted alive _ =>
      absurd (quiet first other kind present concerns counted) alive
  rcases RoomTable.issueNextUpgradeJoin_cases
    ((table.retireCommand requestId).setRoom roomId
      (room.advanceUpgrade upgrade clientId)) roomId with ⟨error, same⟩ |
    ⟨advanced, later, nextId, member, worker, nextConnection, stands,
      running, next, joined, assignedTo, current, issued⟩
  · rw [same]
    exact stored
  · have same : room.advanceUpgrade upgrade clientId = advanced := by
      simpa using stands
    subst same
    have worker_eq : worker = otherId := by
      have both := carried.symm.trans assignedTo
      exact (Option.some.inj both).symm
    subst worker_eq
    rw [issued]
    refine stored.issueCommand .upgrade roomId _
      nextConnection _ _ rfl rfl shown stands
      ⟨later, running, next, assignedTo, rfl, by simp [joined]⟩ ?_
    exact fun counted first other present concerns =>
      quiet first other _ present concerns counted

/-- The last confirmed join of an upgrade leaves no command behind. -/
theorem commitUpgrade
    {requestId : Nat}
    {instanceId : InstanceId}
    {clientId : ClientId}
    {lifecycleId assignmentEpoch : Nat}
    {upgrade : Upgrade}
    (order : VisitOrder)
    (assigned : Assigned kinds none table)
    (upgrades : kinds .upgrade)
    (wellFormed : table.WellFormed)
    (outstanding : table.pendingCommands[requestId]? =
      some (.upgradeJoin instanceId roomId clientId lifecycleId assignmentEpoch))
    (found : table.rooms[roomId]? = some room)
    (upgrading : room.upgrade = some upgrade) :
    Assigned kinds none (((table.retireCommand requestId).setRoom roomId
      (room.advanceUpgrade upgrade clientId)).commitUpgrade order roomId).2 := by
  obtain ⟨-, otherId, named, carried, shown⟩ :=
    assigned.carried_of_outstanding .upgrade found outstanding
      rfl upgrades (by simp [PendingCommand.instance?])
  have quiet := assigned.quiet_of_upgrade wellFormed found upgrading
    outstanding rfl (by simp [PendingCommand.instance?])
  have stored := (assigned.retireCommand requestId).setRoom
    (room.advanceUpgrade upgrade clientId).commitSfu found rfl
    (fun _ => ⟨otherId, carried, shown⟩)
    fun first other kind present concerns counted alive _ =>
      absurd (quiet first other kind present concerns counted) alive
  rw [commitUpgrade_eq order (room.advanceUpgrade upgrade clientId)
    (by simp) rfl, setRoom_setRoom]
  split
  · exact stored
  · exact stored.pushActions _

/-- A confirmed leave takes the room off the list with its last member. -/
theorem completeLeave
    {requestId : Nat}
    {instanceId : InstanceId}
    {clientId : ClientId}
    {lifecycleId assignmentEpoch : Nat}
    {pendingLeave : PendingLeave}
    (now : Instant)
    (assigned : Assigned kinds none table)
    (leaves : kinds .leave)
    (wellFormed : table.WellFormed)
    (outstanding : table.pendingCommands[requestId]? =
      some (.sfuLeave instanceId roomId clientId lifecycleId assignmentEpoch))
    (found : table.rooms[roomId]? = some room)
    (leaving : room.pendingLeave = some pendingLeave)
    (noJoin : kinds .join -> (room.members.erase clientId).isEmpty = true ->
      room.pendingJoin = none) :
    Assigned kinds none ((table.retireCommand requestId).completeLeave
      instanceId roomId room clientId pendingLeave now) := by
  obtain ⟨-, otherId, named, carried, shown⟩ :=
    assigned.carried_of_outstanding .leave found outstanding
      rfl leaves (by simp [PendingCommand.instance?])
  obtain rfl : instanceId = otherId := Option.some.inj named
  have shape := wellFormed.rooms roomId room found
  have noUpgrade : room.upgrade = none := by
    by_contra running
    obtain ⟨upgrade, running⟩ := Option.ne_none_iff_exists'.1 running
    simp [(shape.upgrade upgrade running).2.2.2.2.1] at leaving
  obtain ⟨deadline, -, complete⟩ := completeLeave_eq
    (table.retireCommand requestId) instanceId roomId room clientId
      pendingLeave now
  rw [complete]
  refine Assigned.pushActions ?_ _
  cases last : (room.members.erase clientId).isEmpty with
  | true =>
      refine (assigned.retireCommand requestId).delist found carried
        fun first other kind present concerns counted => ?_
      cases kind with
      | upgrade =>
          exact (assigned.retireCommand requestId).no_command_of_settled
            found present concerns counted
            (by simp [Room.InTransition, noUpgrade])
      | join =>
          exact (assigned.retireCommand requestId).no_command_of_settled
            found present concerns counted
            (by simp [Room.InTransition, noJoin counted last])
      | leave =>
          exact assigned.quiet_of_retired outstanding rfl
            (by simp [PendingCommand.instance?]) counted first other
            present concerns
  | false =>
      refine (assigned.endTransition .leave
        (room.afterLeave clientId deadline) found outstanding
        rfl (by simp [PendingCommand.instance?]) rfl
        (assigned.serving roomId room found) fun other kind concerns
          different backs => ?_).modifyWorker instanceId
            (dischargeMember roomId false) fun _ => by
              simp [dischargeMember]
      cases other <;> simp only [PendingCommand.transition?] at concerns <;>
        simp only [Room.Backs, Room.afterLeave, Room.eraseMember] at * <;>
        grind

/-- The commands of a worker that is about to be given up need no room. -/
theorem beginExpiry
    (instanceId : InstanceId)
    (assigned : Assigned kinds none table) :
    Assigned kinds (some instanceId) table := by
  have names (pending : PendingCommand)
      (transition : pending.transition?.isSome) :
      pending.instance? ≠ none := by
    cases pending <;>
      simp_all [PendingCommand.transition?, PendingCommand.instance?]
  obtain ⟨listed, serving, backed, unique⟩ := assigned
  refine ⟨listed, serving, ?_, ?_⟩
  · intro requestId pending kind roomId outstanding about counted _
    exact backed requestId pending kind roomId outstanding about counted
      (names pending (by simp [about]))
  · intro first second pending other kind roomId one two about too counted
      _ _
    exact unique first second pending other kind roomId one two about too
      counted (names pending (by simp [about])) (names other (by simp [too]))

/-- An upgrade whose worker is given up is rolled back. -/
theorem expireUpgrade
    {instanceId : InstanceId}
    (assigned : Assigned kinds (some instanceId) table)
    (wellFormed : table.WellFormed)
    (listed : table.Lists instanceId roomId)
    (found : table.rooms[roomId]? = some room)
    (upgrading : room.mode = .upgrading) :
    Assigned kinds (some instanceId)
      (table.abortUpgrade roomId "WORKER_UNAVAILABLE").2 := by
  obtain ⟨other, present, carried⟩ := assigned.listed instanceId roomId listed
  rw [found] at present
  cases present
  obtain ⟨upgrade, running, -⟩ :=
    (wellFormed.rooms roomId room found).upgrading upgrading
  obtain ⟨leavers, answers, release, -⟩ :=
    abortUpgrade_released table "WORKER_UNAVAILABLE" found running carried
  refine assigned.released found carried rfl ?_ release
  intro requestId pending kind outstanding about counted
  by_contra live
  obtain ⟨-, otherId, named, carries, -⟩ := assigned.carried_of_outstanding
    _ found outstanding about counted live
  rw [carried] at carries
  exact live (named.trans carries.symm)

/-- A settled room whose worker is given up fails; no live command is about
it. -/
theorem expireRoom
    {instanceId : InstanceId}
    (order : VisitOrder)
    (assigned : Assigned kinds (some instanceId) table)
    (listed : table.Lists instanceId roomId)
    (found : table.rooms[roomId]? = some room) :
    Assigned kinds (some instanceId)
      (table.failExpired order roomId room) := by
  obtain ⟨other, present, carried⟩ := assigned.listed instanceId roomId listed
  rw [found] at present
  cases present
  refine (assigned.setRoom room.fail found rfl
    (by simp [Room.fail]) ?_).pushActions _
  intro requestId pending kind outstanding about counted live backs
  exact absurd ((backs.assigned (by simp [about])).trans carried) live

/-- A leave may begin in an SFU room that has none pending. -/
theorem beginLeave
    {instanceId : InstanceId}
    {connectionId : Sfu.ConnectionId}
    {members : ExtTreeMap ClientId Member}
    {member : Member}
    (room : Room)
    (leave : PendingLeave)
    (command : Sfu.CommandKind)
    (assigned : Assigned kinds none table)
    (found : table.rooms[roomId]? = some room)
    (present : room.members[leave.clientId]? = some member)
    (forwarded : room.mode = .sfu)
    (noLeave : room.pendingLeave = none)
    (carried : room.assignedInstance = some instanceId)
    (kept : ∀ (otherId : ClientId) (other : Member),
      members[otherId]? = some other -> ∃ former : Member,
        room.members[otherId]? = some former ∧
          former.lifecycleId = other.lifecycleId) :
    Assigned kinds none ((table.setRoom roomId
      { room with members := members, pendingLeave := some leave }).issueCommand
        instanceId connectionId command (.sfuLeave instanceId roomId
          leave.clientId member.lifecycleId room.assignmentEpoch)) := by
  refine assigned.beginTransition .leave roomId room found carried
    (assigned.lists_of_serving found (Or.inr forwarded) carried)
    (by simp [Room.InTransition, noLeave]) rfl ?_ rfl rfl
    ⟨leave, rfl, rfl, carried, rfl, fun other shown => ?_⟩
  · intro pending kind about different backs
    cases pending <;> simp only [PendingCommand.transition?] at about <;>
      simp only [Room.Backs] at * <;> grind
  · obtain ⟨former, before, same⟩ := kept leave.clientId other shown
    rw [present] at before
    cases before
    exact same.symm

/-- A rolled back upgrade has no other command of its room. -/
theorem abortUpgrade
    {requestId : Nat}
    {instanceId : InstanceId}
    {clientId : ClientId}
    {lifecycleId assignmentEpoch : Nat}
    {upgrade : Upgrade}
    (reason : String)
    (assigned : Assigned kinds none table)
    (upgrades : kinds .upgrade)
    (wellFormed : table.WellFormed)
    (outstanding : table.pendingCommands[requestId]? =
      some (.upgradeJoin instanceId roomId clientId lifecycleId assignmentEpoch))
    (found : table.rooms[roomId]? = some room)
    (upgrading : room.upgrade = some upgrade) :
    Assigned kinds none
      ((table.retireCommand requestId).abortUpgrade roomId reason).2 := by
  obtain ⟨-, otherId, named, carried, shown⟩ :=
    assigned.carried_of_outstanding .upgrade found outstanding
      rfl upgrades (by simp [PendingCommand.instance?])
  obtain ⟨leavers, answers, release, -⟩ := abortUpgrade_released
    (table.retireCommand requestId) reason found upgrading carried
  exact (assigned.retireCommand requestId).released found carried rfl
    (assigned.quiet_of_upgrade wellFormed found upgrading outstanding rfl
      (by simp [PendingCommand.instance?])) release

theorem completeJoin
    {requestId : Nat}
    {instanceId : InstanceId}
    {clientId : ClientId}
    {lifecycleId assignmentEpoch : Nat}
    (pendingJoin : PendingJoin)
    (assigned : Assigned kinds none table)
    (outstanding : table.pendingCommands[requestId]? =
      some (.sfuJoin instanceId roomId clientId lifecycleId assignmentEpoch))
    (found : table.rooms[roomId]? = some room) :
    Assigned kinds none ((table.retireCommand requestId).completeJoin
      instanceId roomId room clientId pendingJoin).2 := by
  have stored := (assigned.endTransition .join
    { room with pendingJoin := none } found outstanding rfl
    (by simp [PendingCommand.instance?]) rfl
    (assigned.serving roomId room found) fun other kind concerns different
      backs => by
        cases other <;> simp only [PendingCommand.transition?] at concerns <;>
          simp only [Room.Backs] at * <;> grind).modifyWorker instanceId
    chargeMember fun _ => rfl
  rw [completeJoin_eq]
  split
  · exact stored
  · exact stored.pushActions [_]

theorem refuseJoin
    {requestId : Nat}
    {instanceId : InstanceId}
    {clientId : ClientId}
    {lifecycleId assignmentEpoch : Nat}
    (pendingJoin : PendingJoin)
    (reason : String)
    (assigned : Assigned kinds none table)
    (outstanding : table.pendingCommands[requestId]? =
      some (.sfuJoin instanceId roomId clientId lifecycleId assignmentEpoch))
    (found : table.rooms[roomId]? = some room) :
    Assigned kinds none (((table.retireCommand requestId).setRoom roomId
      { room.eraseMember pendingJoin.clientId with
        pendingJoin := none }).pushAction (.admissionCompleted
          pendingJoin.authorityRequestId (.error reason))) := by
  refine (assigned.endTransition .join
    ({ room.eraseMember pendingJoin.clientId with pendingJoin := none }) found
    outstanding rfl (by simp [PendingCommand.instance?]) rfl
    (assigned.serving roomId room found) fun other kind concerns different
      backs => ?_).pushActions [_]
  cases other <;> simp only [PendingCommand.transition?] at concerns <;>
    simp only [Room.Backs, Room.eraseMember] at * <;> grind

theorem refuseLeave
    {requestId : Nat}
    {instanceId : InstanceId}
    {clientId : ClientId}
    {lifecycleId assignmentEpoch : Nat}
    (pendingLeave : PendingLeave)
    (reason : String)
    (assigned : Assigned kinds none table)
    (outstanding : table.pendingCommands[requestId]? =
      some (.sfuLeave instanceId roomId clientId lifecycleId assignmentEpoch))
    (found : table.rooms[roomId]? = some room) :
    Assigned kinds none (removalAnswer pendingLeave roomId clientId
      (.error reason) ((table.retireCommand requestId).setRoom roomId
        { room with pendingLeave := none })) := by
  rw [removalAnswer_eq]
  refine (assigned.endTransition .leave
    { room with pendingLeave := none } found outstanding rfl
    (by simp [PendingCommand.instance?]) rfl
    (assigned.serving roomId room found) fun other kind concerns different
      backs => ?_).pushActions _
  cases other <;> simp only [PendingCommand.transition?] at concerns <;>
    simp only [Room.Backs] at * <;> grind

/-- A room that is eligible for a downgrade has no command to keep. -/
theorem downgrade
    (order : VisitOrder)
    (assigned : Assigned kinds none table)
    (wellFormed : table.WellFormed)
    (eligible : table.isDowngradeEligible roomId = true) :
    Assigned kinds none (table.commitDowngrade order roomId).2 := by
  obtain ⟨room, instanceId, initiatorClientId, others, found, forwarded,
    small, noJoin, noLeave, carried, clients⟩ := wellFormed.eligible eligible
  have noUpgrade := ((wellFormed.rooms _ _ found).forwarded forwarded).2
  refine assigned.released found carried rfl ?_
    (commitDowngrade_released order found carried clients)
  intro requestId pending kind outstanding about counted
  refine assigned.no_command_of_settled found outstanding about counted ?_
  cases kind <;> simp [Room.InTransition, noUpgrade, noJoin, noLeave]

/-- Every sound move keeps lists and commands in step. -/
theorem moved
    {phase' : Option InstanceId}
    {table' : RoomTable}
    {move : Move}
    (moved : Moved phase table move phase' table')
    (upgrades : kinds .upgrade)
    (leaves : kinds .leave)
    (sound : Sound kinds table move)
    (wellFormed : table.WellFormed)
    (records : table.CommandsMatch)
    (assigned : Assigned kinds phase table) :
    Assigned kinds phase' table' := by
  have unlisted {roomId : RoomId} {room : Room}
      (found : table.rooms[roomId]? = some room)
      (direct : room.mode = .p2p) (instanceId : InstanceId) :
      ¬table.Lists instanceId roomId :=
    assigned.unlisted_of_unassigned found
      ((wellFormed.rooms _ _ found).direct direct).2.1 instanceId
  cases moved with
  | create clientId now token absent =>
      refine (assigned.withLifecycles _).setUnlisted
        (fun instanceId shown => ?_) (by simp [Room.create])
      obtain ⟨room, present, -⟩ := assigned.listed instanceId _ shown
      simp [absent] at present
  | joinDirect now token found fresh direct space =>
      exact (assigned.withLifecycles _).setUnlisted (unlisted found direct)
        (by simp [direct])
  | beginUpgrade authorityRequestId now token found fresh direct full selected =>
      exact assigned.beginUpgrade authorityRequestId now token
        (unlisted found direct) fresh full selected
  | beginJoin authorityRequestId now token found fresh forwarded noJoin noLeave
      carried connected =>
      rename_i roomId room clientId instanceId connectionId
      refine (assigned.withLifecycles _).beginTransition .join roomId room
        found carried
        (assigned.lists_of_serving found (Or.inr forwarded) carried)
        (by simp [Room.InTransition, noJoin]) rfl ?_ rfl rfl
        ⟨_, rfl, rfl, carried, rfl, by simp [newMember]⟩
      intro pending kind about different backs
      have running := backs.inTransition about
      have noUpgrade := ((wellFormed.rooms _ _ found).forwarded forwarded).2
      cases kind <;> simp [Room.InTransition, noUpgrade, noLeave] at *
  | register found settled present unregistered =>
      rename_i roomId room clientId member
      refine assigned.updateRoom found (by simp) (by simp) (by simp) (by simp)
        (by simp) (by simp) fun otherId other shown => ?_
      rw [Room.registerMember_members] at shown
      grind
  | dropWithLeave found present registered forwarded noLeave carried
      connected =>
      rename_i roomId room clientId member instanceId connectionId
      refine assigned.beginLeave room ⟨none, clientId⟩ _ found present forwarded
        noLeave carried fun otherId other shown => ?_
      simp only [Room.insertMember] at shown
      grind
  | dropWithGrace now found present registered =>
      refine assigned.updateRoom found rfl rfl rfl rfl rfl rfl
        fun otherId other shown => ?_
      simp only [Room.insertMember] at shown
      grind
  | forwardSignal message found present forwarded carried connected =>
      exact assigned.issueOther _ _ _ _ rfl
  | queueMessage found present settled direct accepted =>
      obtain rfl := pushQueued_ok accepted
      refine assigned.updateRoom found rfl rfl rfl rfl rfl rfl
        fun otherId other shown => ?_
      simp only [Room.insertMember] at shown
      grind
  | requestLeave authorityRequestId found present forwarded noJoin noLeave
      carried connected =>
      exact assigned.beginLeave _ ⟨some _, _⟩ _ found present forwarded
        noLeave carried fun _ other shown => ⟨other, shown, rfl⟩
  | removeFailed found present noJoin noLeave failed =>
      rename_i roomId room clientId member
      unfold RoomTable.setOrDropRoom
      split
      · rename_i last
        exact assigned.dropRoom (sound room found last)
      · refine assigned.updateRoom found rfl rfl rfl rfl rfl rfl
          fun otherId other shown => ⟨other, ?_, rfl⟩
        simp only [Room.eraseMember] at shown
        grind
  | removeDirect found present noJoin noLeave direct =>
      exact assigned.setOrDropUnlisted (unlisted found direct)
        (by simp [direct])
  | connectWorker connectionId capacity actions plain =>
      rename_i instanceId
      refine ((assigned.connectWorker connectionId instanceId capacity).pushActions
        actions).shrink (by simp) (by simp [RoomTable.Lists])
          fun requestId pending outstanding _ => ?_
      rw [retireAll_pendingCommands] at outstanding
      split at outstanding
      · cases outstanding
      · exact outstanding
  | syncRoom order found listed connected =>
      simp only [syncAssignedRoom, found]
      exact assigned.issueOther _ _ _ _ rfl
  | noteEvent update actions keepsConnection keepsDeadline keepsRooms =>
      exact (assigned.modifyWorker _ update keepsRooms).pushActions actions
  | reportFailure requestId order reason ack known =>
      exact ((assigned.modifyWorker _ _ (by simp)).failRoom order _
        reason).pushActions [ack]
  | disconnectWorker now =>
      exact assigned.modifyWorker _ _ fun _ => rfl
  | push action => exact assigned.pushActions [action]
  | answer actions outstanding idle =>
      exact (assigned.retireCommand _).pushActions _
  | refuseSync order outstanding =>
      exact (assigned.retireCommand _).failRoom order _ _
  | advanceUpgrade outstanding connected found upgrading unfinished =>
      exact assigned.advanceUpgrade upgrades wellFormed outstanding found
        upgrading
  | commitUpgrade order outstanding connected found upgrading finished =>
      exact assigned.commitUpgrade order upgrades wellFormed outstanding found
        upgrading
  | abortUpgrade reason outstanding found upgrading =>
      exact assigned.abortUpgrade reason upgrades wellFormed outstanding found
        upgrading
  | completeJoin outstanding found joining =>
      exact assigned.completeJoin _ outstanding found
  | refuseJoin reason outstanding found joining =>
      exact assigned.refuseJoin _ reason outstanding found
  | completeLeave now outstanding found leaving =>
      exact assigned.completeLeave now leaves wellFormed outstanding found
        leaving fun counted last => sound counted _ found last
  | refuseLeave reason outstanding found leaving =>
      exact assigned.refuseLeave _ reason outstanding found
  | beginExpiry waits => exact assigned.beginExpiry _
  | expireUpgrade waits listed found upgrading =>
      exact assigned.expireUpgrade wellFormed listed found upgrading
  | expireRoom order waits listed found settled =>
      exact assigned.expireRoom order listed found
  | endExpiry waits settled => exact assigned.endExpiry records settled
  | downgrade order eligible =>
      exact assigned.downgrade order wellFormed eligible
  | clearDeadline found ineligible =>
      exact assigned.updateRoom found rfl rfl rfl rfl rfl rfl
        fun otherId other shown => ⟨other, shown, rfl⟩
  | retryLeave found present waiting forwarded noLeave carried connected =>
      exact assigned.beginLeave _ ⟨none, _⟩ _ found present forwarded
        noLeave carried fun _ other shown => ⟨other, shown, rfl⟩
  | rearmGrace now found present waiting forwarded =>
      refine assigned.updateRoom found rfl rfl rfl rfl rfl rfl
        fun otherId other shown => ?_
      simp only [Room.modifyMember] at shown
      grind
  | expireMembers now found direct =>
      exact assigned.setOrDropUnlisted (unlisted found direct)
        (by simp [direct])
  | setDwell dwell =>
      exact assigned.shrink rfl (fun _ _ => Iff.rfl) fun _ _ found _ => found
  | pollAction =>
      unfold RoomTable.pollAction
      split <;> exact assigned.shrink rfl (fun _ _ => Iff.rfl)
        fun _ _ found _ => found

end Assigned

end V2
end Signaling
