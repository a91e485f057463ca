import Signaling.V2.Moves

/-!
# What the table updates leave alone

One lemma for each field that an update of the table changes, and one for each
field that it keeps. With them no later proof unfolds an update.
-/

namespace Signaling
namespace V2

open Std (ExtTreeMap ExtTreeSet)

namespace RoomTable

variable
  (table : RoomTable)
  (roomId : RoomId)
  (clientId : ClientId)
  (instanceId : InstanceId)
  (connectionId : Sfu.ConnectionId)
  (requestId : Nat)
  (command : Sfu.CommandKind)
  (pending : PendingCommand)

/-! ## Issuing and retiring commands -/

@[simp] theorem issueCommand_rooms :
    (table.issueCommand instanceId connectionId command pending).rooms =
      table.rooms := rfl

@[simp] theorem issueCommand_workers :
    (table.issueCommand instanceId connectionId command pending).workers =
      table.workers := rfl

@[simp] theorem issueCommand_lifecycleIds :
    (table.issueCommand instanceId connectionId command pending).lifecycleIds =
      table.lifecycleIds := rfl

@[simp] theorem issueCommand_pendingCommands :
    (table.issueCommand instanceId connectionId command
        pending).pendingCommands =
      table.pendingCommands.insert table.nextSfuRequestId pending := rfl

@[simp] theorem issueCommand_commandWorkers :
    (table.issueCommand instanceId connectionId command
        pending).commandWorkers =
      table.commandWorkers.insert table.nextSfuRequestId instanceId := rfl

@[simp] theorem issueCommand_unacknowledgedCommands :
    (table.issueCommand instanceId connectionId command
        pending).unacknowledgedCommands =
      table.unacknowledgedCommands.insert table.nextSfuRequestId
        ⟨table.nextSfuRequestId, command⟩ := rfl

@[simp] theorem issueCommand_nextSfuRequestId :
    (table.issueCommand instanceId connectionId command
        pending).nextSfuRequestId =
      max (saturatingAdd table.nextSfuRequestId 1) 1 := rfl

@[simp] theorem issueCommand_reconnectGrace :
    (table.issueCommand instanceId connectionId command
        pending).reconnectGrace = table.reconnectGrace := rfl

@[simp] theorem issueCommand_actions :
    (table.issueCommand instanceId connectionId command pending).actions =
      table.actions ++
        [.sfu (.command connectionId ⟨table.nextSfuRequestId, command⟩)] :=
  rfl

@[simp] theorem retireAll_rooms (requestIds : List Nat) :
    (table.retireAll requestIds).rooms = table.rooms := by
  induction requestIds generalizing table with
  | nil => rfl
  | cons requestId requestIds inductionHypothesis =>
      exact inductionHypothesis (table.retireCommand requestId)

@[simp] theorem retireAll_workers (requestIds : List Nat) :
    (table.retireAll requestIds).workers = table.workers := by
  induction requestIds generalizing table with
  | nil => rfl
  | cons requestId requestIds inductionHypothesis =>
      exact inductionHypothesis (table.retireCommand requestId)

@[simp] theorem retireAll_lifecycleIds (requestIds : List Nat) :
    (table.retireAll requestIds).lifecycleIds = table.lifecycleIds := by
  induction requestIds generalizing table with
  | nil => rfl
  | cons requestId requestIds inductionHypothesis =>
      exact inductionHypothesis (table.retireCommand requestId)

@[simp] theorem retireAll_nextSfuRequestId (requestIds : List Nat) :
    (table.retireAll requestIds).nextSfuRequestId =
      table.nextSfuRequestId := by
  induction requestIds generalizing table with
  | nil => rfl
  | cons requestId requestIds inductionHypothesis =>
      exact inductionHypothesis (table.retireCommand requestId)

@[simp] theorem retireAll_reconnectGrace (requestIds : List Nat) :
    (table.retireAll requestIds).reconnectGrace = table.reconnectGrace := by
  induction requestIds generalizing table with
  | nil => rfl
  | cons requestId requestIds inductionHypothesis =>
      exact inductionHypothesis (table.retireCommand requestId)

@[simp] theorem retireAll_actions (requestIds : List Nat) :
    (table.retireAll requestIds).actions = table.actions := by
  induction requestIds generalizing table with
  | nil => rfl
  | cons requestId requestIds inductionHypothesis =>
      exact inductionHypothesis (table.retireCommand requestId)

/-- Exactly the listed commands are forgotten. -/
theorem retireAll_pendingCommands (requestIds : List Nat) :
    (table.retireAll requestIds).pendingCommands[requestId]? =
      if requestId ∈ requestIds then none
      else table.pendingCommands[requestId]? := by
  induction requestIds generalizing table with
  | nil => rfl
  | cons first requestIds inductionHypothesis =>
      have tail := inductionHypothesis (table.retireCommand first)
      simp only [retireAll, List.foldl_cons] at tail ⊢
      rw [tail]
      grind [retireCommand]

theorem retireAll_commandWorkers (requestIds : List Nat) :
    (table.retireAll requestIds).commandWorkers[requestId]? =
      if requestId ∈ requestIds then none
      else table.commandWorkers[requestId]? := by
  induction requestIds generalizing table with
  | nil => rfl
  | cons first requestIds inductionHypothesis =>
      have tail := inductionHypothesis (table.retireCommand first)
      simp only [retireAll, List.foldl_cons] at tail ⊢
      rw [tail]
      grind [retireCommand]

theorem retireAll_unacknowledgedCommands (requestIds : List Nat) :
    (table.retireAll requestIds).unacknowledgedCommands[requestId]? =
      if requestId ∈ requestIds then none
      else table.unacknowledgedCommands[requestId]? := by
  induction requestIds generalizing table with
  | nil => rfl
  | cons first requestIds inductionHypothesis =>
      have tail := inductionHypothesis (table.retireCommand first)
      simp only [retireAll, List.foldl_cons] at tail ⊢
      rw [tail]
      grind [retireCommand]

/-! ## Queued actions -/

/-- Queued actions are appended and nothing else changes. -/
theorem pushActions_eq (actions : List Action) :
    table.pushActions actions =
      { table with actions := table.actions ++ actions } := by
  induction actions generalizing table with
  | nil => simp [pushActions]
  | cons action actions inductionHypothesis =>
      have tail := inductionHypothesis (table.pushAction action)
      simp only [pushActions, List.foldl_cons] at tail ⊢
      rw [tail]
      simp [pushAction]

@[simp] theorem pushActions_rooms (actions : List Action) :
    (table.pushActions actions).rooms = table.rooms := by
  rw [pushActions_eq]

@[simp] theorem pushActions_workers (actions : List Action) :
    (table.pushActions actions).workers = table.workers := by
  rw [pushActions_eq]

@[simp] theorem pushActions_lifecycleIds (actions : List Action) :
    (table.pushActions actions).lifecycleIds = table.lifecycleIds := by
  rw [pushActions_eq]

@[simp] theorem pushActions_pendingCommands (actions : List Action) :
    (table.pushActions actions).pendingCommands = table.pendingCommands := by
  rw [pushActions_eq]

@[simp] theorem pushActions_commandWorkers (actions : List Action) :
    (table.pushActions actions).commandWorkers = table.commandWorkers := by
  rw [pushActions_eq]

@[simp] theorem pushActions_unacknowledgedCommands (actions : List Action) :
    (table.pushActions actions).unacknowledgedCommands =
      table.unacknowledgedCommands := by
  rw [pushActions_eq]

@[simp] theorem pushActions_nextSfuRequestId (actions : List Action) :
    (table.pushActions actions).nextSfuRequestId = table.nextSfuRequestId := by
  rw [pushActions_eq]

@[simp] theorem pushActions_reconnectGrace (actions : List Action) :
    (table.pushActions actions).reconnectGrace = table.reconnectGrace := by
  rw [pushActions_eq]

@[simp] theorem pushActions_actions (actions : List Action) :
    (table.pushActions actions).actions = table.actions ++ actions := by
  rw [pushActions_eq]

/-! ## Lifecycles, rooms and answers -/

@[simp] theorem nextLifecycle_rooms :
    (table.nextLifecycle roomId clientId).2.rooms = table.rooms := rfl

@[simp] theorem nextLifecycle_workers :
    (table.nextLifecycle roomId clientId).2.workers = table.workers := rfl

@[simp] theorem nextLifecycle_pendingCommands :
    (table.nextLifecycle roomId clientId).2.pendingCommands =
      table.pendingCommands := rfl

@[simp] theorem nextLifecycle_commandWorkers :
    (table.nextLifecycle roomId clientId).2.commandWorkers =
      table.commandWorkers := rfl

@[simp] theorem nextLifecycle_unacknowledgedCommands :
    (table.nextLifecycle roomId clientId).2.unacknowledgedCommands =
      table.unacknowledgedCommands := rfl

@[simp] theorem nextLifecycle_nextSfuRequestId :
    (table.nextLifecycle roomId clientId).2.nextSfuRequestId =
      table.nextSfuRequestId := rfl

@[simp] theorem nextLifecycle_reconnectGrace :
    (table.nextLifecycle roomId clientId).2.reconnectGrace =
      table.reconnectGrace := rfl

@[simp] theorem nextLifecycle_actions :
    (table.nextLifecycle roomId clientId).2.actions = table.actions := rfl

/-- Storing a room twice keeps the second one. -/
theorem setRoom_setRoom (first second : Room) :
    (table.setRoom roomId first).setRoom roomId second =
      table.setRoom roomId second := by
  have rooms : (table.rooms.insert roomId first).insert roomId second =
      table.rooms.insert roomId second := by
    apply ExtTreeMap.ext_getElem?
    grind
  simp [setRoom, rooms]

/-- Storing a room again under its own id changes nothing. -/
theorem setRoom_self
    {room : Room}
    (found : table.rooms[roomId]? = some room) :
    table.setRoom roomId room = table := by
  have rooms : table.rooms.insert roomId room = table.rooms := by
    apply ExtTreeMap.ext_getElem?
    grind
  simp [setRoom, rooms]

/-- Updating a stored room in place stores the updated room. -/
theorem modify_setRoom
    (room : Room)
    (update : Room -> Room) :
    { table.setRoom roomId room with
        rooms := (table.setRoom roomId room).rooms.modify roomId update } =
      table.setRoom roomId (update room) := by
  have rooms : (table.rooms.insert roomId room).modify roomId update =
      table.rooms.insert roomId (update room) := by
    apply ExtTreeMap.ext_getElem?
    grind
  simp [setRoom, rooms]

/-- An update that keeps connections keeps them for every worker. -/
theorem connection?_modifyWorker
    (otherId : InstanceId)
    (update : Worker -> Worker)
    (keepsConnection : ∀ worker,
      (update worker).connectionId = worker.connectionId) :
    (table.modifyWorker instanceId update).connection? otherId =
      table.connection? otherId := by
  simp only [connection?, modifyWorker_workers, ExtTreeMap.getElem?_modify]
  split
  · rename_i equal
    rw [Std.LawfulEqCmp.eq_of_compare equal]
    cases table.workers[otherId]? <;> simp [keepsConnection]
  · rfl

/-- The answer to a leave, as the actions that it appends. -/
def removalActions
    (pendingLeave : PendingLeave)
    (roomId : RoomId)
    (clientId : ClientId)
    (result : Except String Unit) : List Action :=
  match pendingLeave.authorityRequestId with
  | none => []
  | some authorityRequestId =>
      [.removalCompleted authorityRequestId roomId clientId result]

theorem removalAnswer_eq
    (pendingLeave : PendingLeave)
    (result : Except String Unit) :
    removalAnswer pendingLeave roomId clientId result table =
      table.pushActions
        (removalActions pendingLeave roomId clientId result) := by
  unfold removalAnswer removalActions
  cases pendingLeave.authorityRequestId <;> rfl

end RoomTable

/-- Remembering an event changes only the memory of events. -/
theorem Worker.remember_eq
    (worker : Worker)
    (requestId : Nat) :
    ∃ seenEvents seenEventOrder, worker.remember requestId =
      { worker with
        seenEvents := seenEvents
        seenEventOrder := seenEventOrder } := by
  unfold Worker.remember
  dsimp only
  split
  · split <;> exact ⟨_, _, rfl⟩
  · exact ⟨_, _, rfl⟩

@[simp] theorem Worker.remember_connectionId
    (worker : Worker)
    (requestId : Nat) :
    (worker.remember requestId).connectionId = worker.connectionId := by
  obtain ⟨seenEvents, seenEventOrder, equal⟩ := worker.remember_eq requestId
  rw [equal]

@[simp] theorem Worker.remember_disconnectDeadline
    (worker : Worker)
    (requestId : Nat) :
    (worker.remember requestId).disconnectDeadline =
      worker.disconnectDeadline := by
  obtain ⟨seenEvents, seenEventOrder, equal⟩ := worker.remember_eq requestId
  rw [equal]

@[simp] theorem Worker.remember_assignedRooms
    (worker : Worker)
    (requestId : Nat) :
    (worker.remember requestId).assignedRooms = worker.assignedRooms := by
  obtain ⟨seenEvents, seenEventOrder, equal⟩ := worker.remember_eq requestId
  rw [equal]

@[simp] theorem Worker.remember_assignedClients
    (worker : Worker)
    (requestId : Nat) :
    (worker.remember requestId).assignedClients = worker.assignedClients := by
  obtain ⟨seenEvents, seenEventOrder, equal⟩ := worker.remember_eq requestId
  rw [equal]

/-- An accepted message is appended to its sender's queue. -/
theorem pushQueued_ok
    {member queued : Member}
    {message : String}
    (accepted : pushQueued member message = .ok queued) :
    queued =
      { member with queuedMessages := member.queuedMessages ++ [message] } := by
  unfold pushQueued at accepted
  split at accepted
  · cases accepted
  · exact (Except.ok.inj accepted).symm

/-! ## Members of a room -/

namespace Room

variable
  (room : Room)
  (roomId : RoomId)
  (clientId : ClientId)
  (member : Member)

/-- Binding a member changes nothing but the members. -/
theorem registerMember_eq :
    room.registerMember clientId member =
      { room with
        members := (room.registerMember clientId member).members } := by
  unfold registerMember
  dsimp only
  split <;> rfl

@[simp] theorem registerMember_mode :
    (room.registerMember clientId member).mode = room.mode := by
  rw [registerMember_eq]

@[simp] theorem registerMember_signalEpoch :
    (room.registerMember clientId member).signalEpoch = room.signalEpoch := by
  rw [registerMember_eq]

@[simp] theorem registerMember_assignmentEpoch :
    (room.registerMember clientId member).assignmentEpoch =
      room.assignmentEpoch := by
  rw [registerMember_eq]

@[simp] theorem registerMember_assignedInstance :
    (room.registerMember clientId member).assignedInstance =
      room.assignedInstance := by
  rw [registerMember_eq]

@[simp] theorem registerMember_upgrade :
    (room.registerMember clientId member).upgrade = room.upgrade := by
  rw [registerMember_eq]

@[simp] theorem registerMember_pendingJoin :
    (room.registerMember clientId member).pendingJoin = room.pendingJoin := by
  rw [registerMember_eq]

@[simp] theorem registerMember_pendingLeave :
    (room.registerMember clientId member).pendingLeave = room.pendingLeave := by
  rw [registerMember_eq]

@[simp] theorem registerMember_downgradeDeadline :
    (room.registerMember clientId member).downgradeDeadline =
      room.downgradeDeadline := by
  rw [registerMember_eq]

/-- A bound member is registered, and in a P2P room the other members have
handed over what they had queued. -/
theorem registerMember_members (otherId : ClientId) :
    (room.registerMember clientId member).members[otherId]? =
      if otherId = clientId then
        some { member with registered := true, reconnectDeadline := none }
      else if room.mode = .p2p then
        room.members[otherId]?.map fun other =>
          { other with queuedMessages := [] }
      else room.members[otherId]? := by
  simp only [registerMember, drainOthers, insertMember_mode]
  split
  · simp only [insertMember_members]
    grind
  · simp only [insertMember_members]
    grind

/-- The room with its only member promoted. -/
def promoteOnly : Room :=
  { room with
    members := room.members.map fun _ member =>
      { member with isInitiator := true, queuedMessages := [] } }

/-- A survivor is promoted in a P2P room with one member; any other room stays
as it is. -/
theorem promoteSurvivor_eq :
    (promoteSurvivor roomId room).2 =
      if room.members.size = 1 ∧ room.mode = .p2p then room.promoteOnly
      else room := by
  unfold promoteSurvivor
  by_cases alone : room.members.size = 1
  · by_cases direct : room.mode = .p2p
    · have one : room.members.toList.length = 1 := by simpa using alone
      obtain ⟨⟨clientId, member⟩, only⟩ := List.length_eq_one_iff.1 one
      have present (otherId : ClientId) (other : Member) :
          room.members[otherId]? = some other ↔
            otherId = clientId ∧ other = member := by
        rw [← ExtTreeMap.mem_toList_iff_getElem?_eq_some, only]
        simp
      have same : room.insertMember clientId
          { member with isInitiator := true, queuedMessages := [] } =
            room.promoteOnly := by
        have members : room.members.insert clientId
            { member with isInitiator := true, queuedMessages := [] } =
              room.members.map fun _ member =>
                { member with isInitiator := true, queuedMessages := [] } := by
          apply ExtTreeMap.ext_getElem?
          intro otherId
          have here := (present clientId member).2 ⟨rfl, rfl⟩
          cases other : room.members[otherId]? with
          | none =>
              have different : otherId ≠ clientId := by
                rintro rfl
                simp [here] at other
              grind
          | some found =>
              obtain ⟨rfl, rfl⟩ := (present otherId found).1 other
              simp [other]
        simp [insertMember, promoteOnly, members]
      simp only [alone, direct, only, ne_eq, not_true_eq_false, decide_false,
        Bool.or_false, Bool.false_eq_true, if_false, and_self, if_true]
      split <;> exact same
    · simp [direct]
  · simp [alone]

@[simp] theorem promoteSurvivor_mode :
    (promoteSurvivor roomId room).2.mode = room.mode := by
  rw [promoteSurvivor_eq]
  split <;> rfl

@[simp] theorem promoteSurvivor_signalEpoch :
    (promoteSurvivor roomId room).2.signalEpoch = room.signalEpoch := by
  rw [promoteSurvivor_eq]
  split <;> rfl

@[simp] theorem promoteSurvivor_assignmentEpoch :
    (promoteSurvivor roomId room).2.assignmentEpoch = room.assignmentEpoch := by
  rw [promoteSurvivor_eq]
  split <;> rfl

@[simp] theorem promoteSurvivor_assignedInstance :
    (promoteSurvivor roomId room).2.assignedInstance =
      room.assignedInstance := by
  rw [promoteSurvivor_eq]
  split <;> rfl

@[simp] theorem promoteSurvivor_upgrade :
    (promoteSurvivor roomId room).2.upgrade = room.upgrade := by
  rw [promoteSurvivor_eq]
  split <;> rfl

@[simp] theorem promoteSurvivor_pendingJoin :
    (promoteSurvivor roomId room).2.pendingJoin = room.pendingJoin := by
  rw [promoteSurvivor_eq]
  split <;> rfl

@[simp] theorem promoteSurvivor_pendingLeave :
    (promoteSurvivor roomId room).2.pendingLeave = room.pendingLeave := by
  rw [promoteSurvivor_eq]
  split <;> rfl

@[simp] theorem promoteSurvivor_downgradeDeadline :
    (promoteSurvivor roomId room).2.downgradeDeadline =
      room.downgradeDeadline := by
  rw [promoteSurvivor_eq]
  split <;> rfl

/-- A member of a room with its survivor promoted was a member before. -/
theorem promoteSurvivor_members
    {otherId : ClientId}
    {other : Member}
    (present : (promoteSurvivor roomId room).2.members[otherId]? =
      some other) :
    ∃ former, room.members[otherId]? = some former ∧
      (other = former ∨
        other = { former with isInitiator := true, queuedMessages := [] }) := by
  rw [promoteSurvivor_eq] at present
  split at present
  · simp only [promoteOnly, ExtTreeMap.getElem?_map,
      Option.map_eq_some_iff] at present
    obtain ⟨former, found, rfl⟩ := present
    exact ⟨former, found, Or.inr rfl⟩
  · exact ⟨other, present, Or.inl rfl⟩

/-- Dropping members changes nothing but the members. -/
theorem eraseMembers_eq (clients : List ClientId) :
    room.eraseMembers clients =
      { room with members := (room.eraseMembers clients).members } := by
  induction clients generalizing room with
  | nil => rfl
  | cons first clients inductionHypothesis =>
      have tail := inductionHypothesis (room.eraseMember first)
      simp only [eraseMembers, List.foldl_cons] at tail ⊢
      rw [tail]
      rfl

/-- Exactly the listed members are dropped. -/
theorem eraseMembers_members (clients : List ClientId) :
    (room.eraseMembers clients).members[clientId]? =
      if clientId ∈ clients then none else room.members[clientId]? := by
  induction clients generalizing room with
  | nil => rfl
  | cons first clients inductionHypothesis =>
      have tail := inductionHypothesis (room.eraseMember first)
      simp only [eraseMembers, List.foldl_cons] at tail ⊢
      rw [tail, eraseMember_members]
      grind

/-- Expiring members changes nothing but the members. -/
theorem expireMembers_eq (now : Instant) :
    (room.expireMembers roomId now).2 =
      { room with members := (room.expireMembers roomId now).2.members } := by
  unfold expireMembers
  dsimp only
  split
  · exact eraseMembers_eq room _
  · rw [promoteSurvivor_eq, eraseMembers_eq]
    split <;> rfl

/-- A member that outlives the expiry of others was a member before. -/
theorem expireMembers_members
    {now : Instant}
    {otherId : ClientId}
    {other : Member}
    (present : (room.expireMembers roomId now).2.members[otherId]? =
      some other) :
    ∃ former, room.members[otherId]? = some former ∧
      otherId ∉ room.expiredClients now ∧
      (other = former ∨
        other = { former with isInitiator := true, queuedMessages := [] }) := by
  have kept (former : Member) (found : (room.eraseMembers
      (room.expiredClients now)).members[otherId]? = some former) :
      room.members[otherId]? = some former ∧
        otherId ∉ room.expiredClients now := by
    rw [eraseMembers_members] at found
    split at found
    · cases found
    · exact ⟨found, by assumption⟩
  unfold expireMembers at present
  dsimp only at present
  split at present
  · obtain ⟨found, outside⟩ := kept other present
    exact ⟨other, found, outside, Or.inl rfl⟩
  · obtain ⟨former, found, same⟩ := promoteSurvivor_members _ _ present
    obtain ⟨found, outside⟩ := kept former found
    exact ⟨former, found, outside, same⟩

@[simp] theorem expireMembers_mode (now : Instant) :
    (room.expireMembers roomId now).2.mode =
      room.mode := by
  rw [expireMembers_eq]

@[simp] theorem expireMembers_signalEpoch (now : Instant) :
    (room.expireMembers roomId now).2.signalEpoch =
      room.signalEpoch := by
  rw [expireMembers_eq]

@[simp] theorem expireMembers_assignmentEpoch (now : Instant) :
    (room.expireMembers roomId now).2.assignmentEpoch =
      room.assignmentEpoch := by
  rw [expireMembers_eq]

@[simp] theorem expireMembers_assignedInstance (now : Instant) :
    (room.expireMembers roomId now).2.assignedInstance =
      room.assignedInstance := by
  rw [expireMembers_eq]

@[simp] theorem expireMembers_upgrade (now : Instant) :
    (room.expireMembers roomId now).2.upgrade =
      room.upgrade := by
  rw [expireMembers_eq]

@[simp] theorem expireMembers_pendingJoin (now : Instant) :
    (room.expireMembers roomId now).2.pendingJoin =
      room.pendingJoin := by
  rw [expireMembers_eq]

@[simp] theorem expireMembers_pendingLeave (now : Instant) :
    (room.expireMembers roomId now).2.pendingLeave =
      room.pendingLeave := by
  rw [expireMembers_eq]

@[simp] theorem expireMembers_downgradeDeadline (now : Instant) :
    (room.expireMembers roomId now).2.downgradeDeadline =
      room.downgradeDeadline := by
  rw [expireMembers_eq]

end Room

end V2
end Signaling
