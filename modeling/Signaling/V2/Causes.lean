import Signaling.Support.Chain
import Signaling.V2.RoomShape

/-!
# Where moves come from

Each call of the table is a chain of moves, and each of these moves is tied to
the call: to its operation, to the answer of a worker that it carries, or to
the deadlines that have passed.
-/

namespace Signaling
namespace V2

open Std (ExtTreeMap ExtTreeSet)

namespace RoomTable

/-- A worker whose reconnect grace has passed. -/
def Expires
    (table : RoomTable)
    (now : Instant)
    (instanceId : InstanceId) : Prop :=
  ∃ worker, table.workers[instanceId]? = some worker ∧
    isDue worker.disconnectDeadline now = true

end RoomTable

/-- The worker's answer is the one that the recorded command asks for. -/
def PendingCommand.Confirms
    (pending : PendingCommand)
    (instanceId : InstanceId)
    (result : Except Sfu.Error Sfu.CommandOk) : Prop :=
  match pending with
  | .syncRoom expected roomId assignmentEpoch _ =>
      expected = instanceId ∧ confirmsSync roomId assignmentEpoch result = true
  | .upgradeJoin expected roomId clientId lifecycleId assignmentEpoch =>
      expected = instanceId ∧
        confirmsJoin roomId clientId lifecycleId assignmentEpoch result = true
  | .sfuJoin expected roomId clientId lifecycleId assignmentEpoch =>
      expected = instanceId ∧
        confirmsJoin roomId clientId lifecycleId assignmentEpoch result = true
  | .sfuLeave expected roomId clientId lifecycleId assignmentEpoch =>
      expected = instanceId ∧
        confirmsLeave roomId clientId lifecycleId assignmentEpoch result = true
  | .signal => True
  | .cleanup => True

namespace Call

/-- The call delivers a worker's answer to an outstanding command on the
worker's current connection. -/
def Answers
    (call : Call)
    (table : RoomTable)
    (instanceId : InstanceId)
    (requestId : Nat)
    (pending : PendingCommand)
    (result : Except Sfu.Error Sfu.CommandOk) : Prop :=
  ∃ connectionId now,
    call.operation = .handleSfuInput (.commandResult connectionId instanceId
      ⟨requestId, result⟩ now) ∧
    table.connection? instanceId = some connectionId ∧
    table.pendingCommands[requestId]? = some pending

/-- The call delivers the confirming answer to an outstanding command. -/
def Accepts
    (call : Call)
    (table : RoomTable)
    (instanceId : InstanceId)
    (requestId : Nat)
    (pending : PendingCommand) : Prop :=
  ∃ result, call.Answers table instanceId requestId pending result ∧
    pending.Confirms instanceId result

/-- The call delivers any other answer to an outstanding command. -/
def Refuses
    (call : Call)
    (table : RoomTable)
    (instanceId : InstanceId)
    (requestId : Nat)
    (pending : PendingCommand) : Prop :=
  ∃ result, call.Answers table instanceId requestId pending result ∧
    ¬pending.Confirms instanceId result

/-- The record of the command that the call answers. -/
def answered?
    (call : Call)
    (table : RoomTable) : Option PendingCommand :=
  match call.operation with
  | .handleSfuInput (.commandResult _ _ result _) =>
      table.pendingCommands[result.requestId]?
  | _ => none

theorem Answers.answered?
    {call : Call}
    {table : RoomTable}
    {instanceId : InstanceId}
    {requestId : Nat}
    {pending : PendingCommand}
    {result : Except Sfu.Error Sfu.CommandOk}
    (answers : call.Answers table instanceId requestId pending result) :
    call.answered? table = some pending := by
  obtain ⟨_, _, asked, -, found⟩ := answers
  simp [Call.answered?, asked, found]

theorem Answers.recorded
    {call : Call}
    {table : RoomTable}
    {instanceId : InstanceId}
    {requestId : Nat}
    {pending recorded : PendingCommand}
    {result : Except Sfu.Error Sfu.CommandOk}
    (answers : call.Answers table instanceId requestId pending result)
    (outstanding : table.pendingCommands[requestId]? = some recorded) :
    pending = recorded := by
  obtain ⟨_, _, -, -, found⟩ := answers
  rw [outstanding] at found
  exact (Option.some.inj found).symm

theorem Refuses.recorded
    {call : Call}
    {table : RoomTable}
    {instanceId : InstanceId}
    {requestId : Nat}
    {pending recorded : PendingCommand}
    (refuses : call.Refuses table instanceId requestId pending)
    (outstanding : table.pendingCommands[requestId]? = some recorded) :
    pending = recorded :=
  have ⟨_, answers, _⟩ := refuses
  answers.recorded outstanding

theorem Accepts.recorded
    {call : Call}
    {table : RoomTable}
    {instanceId : InstanceId}
    {requestId : Nat}
    {pending recorded : PendingCommand}
    (accepts : call.Accepts table instanceId requestId pending)
    (outstanding : table.pendingCommands[requestId]? = some recorded) :
    pending = recorded :=
  have ⟨_, answers, _⟩ := accepts
  answers.recorded outstanding

/-- The call is a worker's first report that a room has failed. -/
def Reports
    (call : Call)
    (table : RoomTable)
    (instanceId : InstanceId)
    (roomId : RoomId) : Prop :=
  ∃ connectionId requestId error clientId lifecycleId sdpRequestId worker,
    call.operation = .handleSfuInput (.event connectionId instanceId
      ⟨requestId, .failure error (some roomId) clientId lifecycleId
        sdpRequestId⟩) ∧
    table.workers[instanceId]? = some worker ∧
    worker.connectionId = some connectionId ∧ requestId ≠ 0 ∧
    worker.seenEvents.contains requestId = false

/-- The call asks to remove a member and shows the member's token. -/
def Removes
    (call : Call)
    (table : RoomTable)
    (roomId : RoomId)
    (clientId : ClientId) : Prop :=
  ∃ authorityRequestId token member,
    call.operation = .remove authorityRequestId roomId clientId token ∧
    table.member? roomId clientId = some member ∧
    constantTimeEq (tokenBytes member.token) (tokenBytes token) = true

/-- The call asks to register a member and shows the member's token. -/
def Registers
    (call : Call)
    (table : RoomTable)
    (roomId : RoomId)
    (clientId : ClientId) : Prop :=
  ∃ token member,
    call.operation = .register roomId clientId token ∧
    table.member? roomId clientId = some member ∧
    constantTimeEq (tokenBytes member.token) (tokenBytes token) = true

end Call

/-- `Arises before call table move` ties a move taken in `table` to the call
made in `before`. -/
def Arises
    (before : RoomTable)
    (call : Call)
    (table : RoomTable)
    (move : Move) : Prop :=
  match move with
  | .create roomId clientId | .joinDirect roomId clientId =>
      table = before ∧ ∃ authorityRequestId now token, call.operation =
        .admitClient authorityRequestId now roomId clientId token
  | .beginUpgrade authorityRequestId roomId clientId
  | .beginJoin authorityRequestId roomId clientId =>
      table = before ∧ ∃ now token, call.operation =
        .admitClient authorityRequestId now roomId clientId token
  | .register roomId clientId =>
      table = before ∧ call.Registers before roomId clientId
  | .dropWithLeave roomId clientId | .dropWithGrace roomId clientId =>
      table = before ∧ ∃ now, call.operation = .deregister now roomId clientId
  | .forwardSignal roomId clientId =>
      table = before ∧ ∃ signalEpoch message room, call.operation =
          .send roomId clientId signalEpoch message ∧
        before.rooms[roomId]? = some room ∧ room.signalEpoch = signalEpoch
  | .queueMessage roomId clientId message =>
      table = before ∧ ∃ signalEpoch,
        call.operation = .send roomId clientId signalEpoch message ∧
        (before.send call.order roomId clientId signalEpoch message).1 =
          .ok (.p2p none)
  | .requestLeave authorityRequestId roomId clientId =>
      table = before ∧ call.Removes before roomId clientId ∧
        ∃ token, call.operation =
          .remove authorityRequestId roomId clientId token
  | .removeFailed roomId clientId | .removeDirect roomId clientId =>
      table = before ∧ call.Removes before roomId clientId
  | .connectWorker instanceId | .syncRoom instanceId _ =>
      ∃ connectionId requestId capacity, call.operation =
        .handleSfuInput (.register connectionId instanceId requestId capacity)
  | .noteEvent instanceId =>
      table = before ∧ ∃ connectionId event,
        call.operation =
          .handleSfuInput (.event connectionId instanceId event) ∧
        before.connection? instanceId = some connectionId
  | .reportFailure instanceId roomId =>
      table = before ∧ call.Reports before instanceId roomId
  | .disconnectWorker instanceId =>
      table = before ∧ ∃ connectionId now,
        call.operation =
          .handleSfuInput (.disconnected connectionId instanceId now) ∧
        before.connection? instanceId = some connectionId
  | .push => table = before ∧ ∃ input, call.operation = .handleSfuInput input
  | .answer requestId =>
      table = before ∧ ∃ instanceId pending result,
        call.Answers before instanceId requestId pending result
  | .refuseSync requestId _ | .abortUpgrade requestId _
  | .refuseJoin requestId _ | .refuseLeave requestId _ =>
      table = before ∧ ∃ instanceId pending,
        call.Refuses before instanceId requestId pending
  | .advanceUpgrade requestId _ | .commitUpgrade requestId _
  | .completeJoin _ requestId _ _ | .completeLeave requestId _ _ =>
      table = before ∧ ∃ instanceId pending,
        call.Accepts before instanceId requestId pending
  | .beginExpiry instanceId | .endExpiry instanceId => ∃ now,
      call.operation = .handleTimeout now ∧ before.Expires now instanceId
  | .expireRoom instanceId roomId => ∃ now,
      call.operation = .handleTimeout now ∧ before.Expires now instanceId ∧
        before.Lists instanceId roomId ∧
        (table.rooms[roomId]? = before.rooms[roomId]? ∨
          ∃ otherId, otherId ≠ instanceId ∧ before.Expires now otherId ∧
            before.Lists otherId roomId)
  | .downgrade roomId => ∃ now room,
      call.operation = .handleTimeout now ∧
        before.rooms[roomId]? = some room ∧
        table.rooms[roomId]? = some room ∧
        isDue room.downgradeDeadline now = true ∧
        (∀ instanceId,
          table.connection? instanceId = before.connection? instanceId) ∧
        ∀ instanceId, before.Expires now instanceId ->
          ¬before.Lists instanceId roomId
  | .retryLeave roomId clientId => ∃ now,
      call.operation = .handleTimeout now ∧
        (∃ member, table.member? roomId clientId = some member ∧
          isDue member.reconnectDeadline now = true) ∧
        ∃ room, before.rooms[roomId]? = some room ∧
          table.rooms[roomId]? = some room ∧
          isDue room.downgradeDeadline now = false ∧
          room.expiredSfuClient call.order roomId now = some clientId ∧
          (∀ instanceId,
            table.connection? instanceId = before.connection? instanceId) ∧
          ∀ instanceId, before.Expires now instanceId ->
            ¬before.Lists instanceId roomId
  | .clearDeadline _ | .rearmGrace _ _ | .expireMembers _ =>
      ∃ now, call.operation = .handleTimeout now
  | .setDwell => table = before ∧ ∃ dwell,
      call.operation = .setDowngradeDwell dwell
  | .pollAction => table = before ∧ call.operation = .pollAction

/-- One move, from a table and the worker being given up to the next. -/
def MoveStep
    (state : Option InstanceId × RoomTable)
    (move : Move)
    (next : Option InstanceId × RoomTable) : Prop :=
  Moved state.1 state.2 move next.1 next.2

/-- The chains of moves that a call may cause. -/
def CallChain
    (before : RoomTable)
    (call : Call) :
    Option InstanceId × RoomTable -> Option InstanceId × RoomTable -> Prop :=
  Chain MoveStep fun state move => Arises before call state.2 move

/-- The call changes nothing or makes one move. -/
def Direct
    (before : RoomTable)
    (call : Call)
    (after : RoomTable) : Prop :=
  after = before ∨ ∃ move,
    Moved none before move none after ∧ Arises before call before move

theorem Direct.chain
    {before after : RoomTable}
    {call : Call}
    (direct : Direct before call after) :
    CallChain before call (none, before) (none, after) := by
  rcases direct with rfl | ⟨move, moved, arises⟩
  · exact Chain.refl
  · exact Chain.single move moved arises

section Operations

variable
  {table : RoomTable}
  {call : Call}

theorem admitClient_direct
    {authorityRequestId : Nat}
    {now : Instant}
    {roomId : RoomId}
    {clientId : ClientId}
    {token : String}
    (asked : call.operation =
      .admitClient authorityRequestId now roomId clientId token) :
    Direct table call
      (table.admitClient authorityRequestId now roomId clientId token).2 := by
  unfold RoomTable.admitClient
  split
  · rename_i absent
    exact Or.inr ⟨_, .create clientId now token absent, rfl, _, _, _, asked⟩
  · rename_i room found
    split
    · exact Or.inl rfl
    · rename_i fresh
      simp only [Bool.not_eq_true] at fresh
      split
      · exact Or.inl rfl
      · exact Or.inl rfl
      · rename_i forwarded
        split
        · exact Or.inl rfl
        · rename_i idle
          simp only [Bool.or_eq_true, Option.isSome_iff_ne_none, not_or,
            ne_eq, not_not] at idle
          simp only [RoomTable.admitToSfu, found]
          split
          · exact Or.inl rfl
          rename_i instanceId assigned
          split
          · exact Or.inl rfl
          rename_i connectionId connected
          exact Or.inr ⟨_, .beginJoin authorityRequestId now token found fresh
            forwarded idle.1 idle.2 assigned connected, rfl, _, _, asked⟩
      · rename_i direct
        split
        · rename_i space
          exact Or.inr ⟨_, .joinDirect now token found fresh direct space, rfl,
            _, _, _, asked⟩
        · rename_i full
          split
          · exact Or.inl rfl
          · rename_i instanceId selected
            exact Or.inr ⟨_, .beginUpgrade authorityRequestId now token found
              fresh direct full selected, rfl, _, _, asked⟩

theorem register_direct
    {roomId : RoomId}
    {clientId : ClientId}
    {token : String}
    (asked : call.operation = .register roomId clientId token) :
    Direct table call
      (table.register call.order roomId clientId token).2 := by
  unfold RoomTable.register
  split
  · exact Or.inl rfl
  rename_i room found
  split
  · exact Or.inl rfl
  rename_i settled
  split
  · exact Or.inl rfl
  rename_i member present
  split
  · exact Or.inl rfl
  rename_i authentic
  split
  · exact Or.inl rfl
  rename_i unregistered
  simp only [Bool.not_eq_true, Bool.not_eq_false'] at authentic unregistered
  exact Or.inr ⟨_, .register found settled present unregistered, rfl, token,
    member, asked, by simp [RoomTable.member?, found, present], authentic⟩

/-- A leave is issued in an idle SFU room of a connected worker, or nothing
changes. -/
theorem issueSfuLeave_cases
    (table : RoomTable)
    (roomId : RoomId)
    (clientId : ClientId)
    (reason : Sfu.LeaveReason) :
    table.issueSfuLeave roomId clientId reason = (false, table) ∨
      ∃ room member instanceId connectionId,
        table.rooms[roomId]? = some room ∧ room.mode = .sfu ∧
          room.pendingLeave = none ∧ room.members[clientId]? = some member ∧
          room.assignedInstance = some instanceId ∧
          table.connection? instanceId = some connectionId ∧
          table.issueSfuLeave roomId clientId reason =
            (true, (table.setRoom roomId { room with
                pendingLeave := some ⟨none, clientId⟩ }).issueCommand
              instanceId connectionId
              (.leave ⟨roomId, clientId, member.lifecycleId,
                room.assignmentEpoch, reason⟩)
              (.sfuLeave instanceId roomId clientId member.lifecycleId
                room.assignmentEpoch)) := by
  unfold RoomTable.issueSfuLeave
  split
  · exact Or.inl rfl
  rename_i room found
  split
  · exact Or.inl rfl
  rename_i idle
  simp only [Bool.or_eq_true, decide_eq_true_eq, Option.isSome_iff_ne_none,
    not_or, ne_eq, not_not] at idle
  split
  · exact Or.inl rfl
  rename_i member present
  split
  · exact Or.inl rfl
  rename_i instanceId assigned
  split
  · exact Or.inl rfl
  rename_i connectionId connected
  exact Or.inr ⟨room, member, instanceId, connectionId, found, idle.1, idle.2,
    present, assigned, connected, rfl⟩

theorem deregister_direct
    {now : Instant}
    {roomId : RoomId}
    {clientId : ClientId}
    (asked : call.operation = .deregister now roomId clientId) :
    Direct table call (table.deregister now roomId clientId) := by
  unfold RoomTable.deregister
  split
  · exact Or.inl rfl
  rename_i room found
  split
  · exact Or.inl rfl
  rename_i member present
  split
  · exact Or.inl rfl
  rename_i registered
  simp only [Bool.not_eq_true, Bool.not_eq_false'] at registered
  have graced : Direct table call
      { table.setRoom roomId (room.insertMember clientId
          { member with registered := false }) with
        rooms := (table.setRoom roomId (room.insertMember clientId
          { member with registered := false })).rooms.modify roomId fun room =>
            room.modifyMember clientId fun member =>
              { member with
                reconnectDeadline := some (now + table.reconnectGrace) } } := by
    have moved := Moved.dropWithGrace now found present registered
    have members : (room.insertMember clientId
        { member with registered := false }).modifyMember clientId
          (fun member => { member with
            reconnectDeadline := some (now + table.reconnectGrace) }) =
        room.insertMember clientId
          { member with
            registered := false
            reconnectDeadline := some (now + table.reconnectGrace) } := by
      have same : (room.members.insert clientId
          { member with registered := false }).modify clientId
            (fun member => { member with
              reconnectDeadline := some (now + table.reconnectGrace) }) =
          room.members.insert clientId
            { member with
              registered := false
              reconnectDeadline := some (now + table.reconnectGrace) } := by
        apply ExtTreeMap.ext_getElem?
        intro otherId
        by_cases otherId = clientId <;> grind
      simp [Room.insertMember, Room.modifyMember, same]
    rw [RoomTable.modify_setRoom, members]
    exact Or.inr ⟨_, moved, rfl, now, asked⟩
  cases forwarded : decide (room.mode = .sfu) with
  | false => simpa [forwarded] using graced
  | true =>
      simp only [decide_eq_true_eq] at forwarded
      simp only [if_true]
      rcases issueSfuLeave_cases (table.setRoom roomId (room.insertMember
        clientId { member with registered := false })) roomId clientId
          .disconnected with kept | ⟨other, otherMember, instanceId,
            connectionId, otherFound, -, noLeave, otherPresent, assigned,
            connected, issued⟩
      · rw [kept]
        simpa using graced
      · simp only [RoomTable.setRoom_rooms, ExtTreeMap.getElem?_insert_self,
          Option.some.injEq] at otherFound
        subst otherFound
        simp only [Room.insertMember_members, ExtTreeMap.getElem?_insert_self,
          Option.some.injEq] at otherPresent
        subst otherPresent
        rw [issued, RoomTable.setRoom_setRoom]
        exact Or.inr ⟨_, .dropWithLeave found present registered forwarded
          noLeave assigned connected, rfl, now, asked⟩

theorem send_direct
    {roomId : RoomId}
    {clientId : ClientId}
    {signalEpoch : Nat}
    {message : String}
    (asked : call.operation = .send roomId clientId signalEpoch message) :
    Direct table call
      (table.send call.order roomId clientId signalEpoch message).2 := by
  unfold RoomTable.send
  split
  · exact Or.inl rfl
  rename_i room found
  split
  · exact Or.inl rfl
  rename_i current
  simp only [Bool.or_eq_true, decide_eq_true_eq, not_or, ne_eq, not_not]
    at current
  split
  · exact Or.inl rfl
  rename_i member present
  split
  · rename_i forwarded
    split
    · exact Or.inl rfl
    rename_i instanceId assigned
    split
    · exact Or.inl rfl
    rename_i connectionId connected
    exact Or.inr ⟨_, .forwardSignal message found present forwarded assigned
      connected, rfl, _, _, _, asked, found, current.1⟩
  · rename_i direct
    dsimp only
    split
    · exact Or.inl rfl
    · split
      · exact Or.inl rfl
      · rename_i alone _ queued accepted
        refine Or.inr ⟨_, .queueMessage found present current.2 direct accepted,
          rfl, _, asked, ?_⟩
        simp only [RoomTable.send, found, present, current, direct, alone,
          accepted, ne_eq, not_true_eq_false, decide_false, Bool.or_false,
          Bool.false_eq_true, if_false]

theorem remove_direct
    {authorityRequestId : Nat}
    {roomId : RoomId}
    {clientId : ClientId}
    {token : String}
    (asked : call.operation =
      .remove authorityRequestId roomId clientId token) :
    Direct table call
      (table.remove authorityRequestId roomId clientId token).2 := by
  unfold RoomTable.remove
  split
  · exact Or.inl rfl
  rename_i room found
  split
  · exact Or.inl rfl
  rename_i member present
  split
  · exact Or.inl rfl
  rename_i authentic
  split
  · exact Or.inl rfl
  rename_i idle
  simp only [Bool.not_eq_true, Bool.not_eq_false'] at authentic
  simp only [Bool.or_eq_true, decide_eq_true_eq, Option.isSome_iff_ne_none,
    not_or, ne_eq, not_not] at idle
  obtain ⟨⟨settled, noJoin⟩, noLeave⟩ := idle
  have removes : call.Removes table roomId clientId :=
    ⟨authorityRequestId, token, member, asked,
      by simp [RoomTable.member?, found, present], authentic⟩
  split
  · rename_i forwarded
    split
    · exact Or.inl rfl
    rename_i instanceId assigned
    split
    · exact Or.inl rfl
    rename_i connectionId connected
    exact Or.inr ⟨_, .requestLeave authorityRequestId found present forwarded
      noJoin noLeave assigned connected, rfl, removes, token, asked⟩
  · rename_i failed
    exact Or.inr ⟨_, .removeFailed found present noJoin noLeave failed, rfl,
      removes⟩
  · rename_i notSfu notFailed
    have direct : room.mode = .p2p := by
      cases mode : room.mode <;> simp_all
    exact Or.inr ⟨_, .removeDirect found present noJoin noLeave direct, rfl,
      removes⟩

/-- A worker event updates its worker's memory, reports a failure, or is
refused. -/
theorem event_direct
    {connectionId : Sfu.ConnectionId}
    {instanceId : InstanceId}
    {event : Sfu.Event}
    (asked : call.operation =
      .handleSfuInput (.event connectionId instanceId event)) :
    Direct table call (table.handleWorkerEvent call.order connectionId
      instanceId event).2 := by
  unfold RoomTable.handleWorkerEvent
  split
  · exact Or.inl rfl
  rename_i worker known
  split
  · exact Or.inl rfl
  rename_i current
  simp only [Bool.or_eq_true, decide_eq_true_eq, not_or, ne_eq, not_not]
    at current
  have connected : table.connection? instanceId = some connectionId := by
    simp [RoomTable.connection?, known, current.1]
  have noted (update : Worker -> Worker) (actions : List Action)
      (keeps : ∀ worker,
        (update worker).connectionId = worker.connectionId ∧
          (update worker).disconnectDeadline = worker.disconnectDeadline ∧
          (update worker).assignedRooms = worker.assignedRooms ∧
          (update worker).assignedClients = worker.assignedClients)
      (notices : ∀ action ∈ actions, action.Notice) :
      Direct table call
        ((table.modifyWorker instanceId update).pushActions actions) :=
    Or.inr ⟨_, .noteEvent update actions (fun worker => (keeps worker).1)
      (fun worker => (keeps worker).2.1) (fun worker => (keeps worker).2.2.1)
      (fun worker => (keeps worker).2.2.2) notices, rfl, connectionId, event,
      asked, connected⟩
  dsimp only
  split
  · exact Or.inr ⟨_, .push _ trivial, rfl, _, asked⟩
  rename_i unseen
  simp only [Bool.not_eq_true] at unseen
  split
  · rename_i health _
    have merged : (table.modifyWorker instanceId
        (Worker.remember · event.requestId)).modifyWorker instanceId
          (fun worker => { worker with
            capacity := health.capacity
            health := some health }) =
        table.modifyWorker instanceId fun worker =>
          { worker.remember event.requestId with
            capacity := health.capacity
            health := some health } := by
      have workers : (table.workers.modify instanceId
          (Worker.remember · event.requestId)).modify instanceId
            (fun worker => { worker with
              capacity := health.capacity
              health := some health }) =
          table.workers.modify instanceId fun worker =>
            { worker.remember event.requestId with
              capacity := health.capacity
              health := some health } := by
        apply ExtTreeMap.ext_getElem?
        intro otherId
        by_cases otherId = instanceId <;> grind
      simp [RoomTable.modifyWorker, workers]
    rw [merged]
    exact noted _ [_] (fun worker => by simp) (by simp [Action.Notice])
  · have remembered (actions : List Action) := noted
      (Worker.remember · event.requestId) actions fun worker => by simp
    split
    · exact remembered [] (by simp)
    split
    · exact remembered [] (by simp)
    split
    · exact remembered [] (by simp)
    · exact remembered [_, _] (by simp [Action.Notice])
  · rename_i error reported clientId lifecycleId sdpRequestId failure
    split
    · exact noted (Worker.remember · event.requestId) [_]
        (fun worker => by simp) (by simp [Action.Notice])
    · rename_i roomId
      refine Or.inr ⟨_, .reportFailure event.requestId call.order error.reason
        _ known trivial, rfl, connectionId, event.requestId, error, clientId,
        lifecycleId, sdpRequestId, worker, ?_, known, current.1, current.2,
        unseen⟩
      rw [asked, ← failure]

theorem disconnected_direct
    {connectionId : Sfu.ConnectionId}
    {instanceId : InstanceId}
    {now : Instant}
    (asked : call.operation =
      .handleSfuInput (.disconnected connectionId instanceId now)) :
    Direct table call
      (table.disconnectWorker connectionId instanceId now) := by
  unfold RoomTable.disconnectWorker
  split
  · rename_i connected
    exact Or.inr ⟨_, .disconnectWorker now, rfl, connectionId, now, asked,
      connected⟩
  · exact Or.inl rfl

/-- The result of an outstanding command is one move. -/
theorem result_direct
    {connectionId : Sfu.ConnectionId}
    {instanceId : InstanceId}
    {result : Sfu.CommandResult}
    {now : Instant}
    (asked : call.operation =
      .handleSfuInput (.commandResult connectionId instanceId result now)) :
    Direct table call (table.handleCommandResult call.order connectionId
      instanceId result now).2 := by
  unfold RoomTable.handleCommandResult
  split
  · exact Or.inl rfl
  rename_i worker known
  split
  · exact Or.inl rfl
  rename_i current
  simp only [ne_eq, not_not] at current
  have connected : table.connection? instanceId = some connectionId := by
    simp [RoomTable.connection?, known, current]
  split
  · exact Or.inl rfl
  rename_i pending outstanding
  have answers : call.Answers table instanceId result.requestId pending
      result.result := ⟨connectionId, now, asked, connected, outstanding⟩
  have idle (actions : List Action) (unawaited : ¬table.Awaits pending)
      (replays : table.Replays pending actions) :
      Direct table call
        ((table.retireCommand result.requestId).pushActions actions) :=
    Or.inr ⟨_, .answer actions outstanding unawaited replays, rfl, instanceId,
      pending, result.result, answers⟩
  have confirmed (holds : pending.Confirms instanceId result.result) :
      ∃ instanceId pending,
        call.Accepts table instanceId result.requestId pending :=
    ⟨instanceId, pending, result.result, answers, holds⟩
  have refused (fails : ¬pending.Confirms instanceId result.result) :
      ∃ instanceId pending,
        call.Refuses table instanceId result.requestId pending :=
    ⟨instanceId, pending, result.result, answers, fails⟩
  cases pending with
  | syncRoom expected roomId assignmentEpoch replay =>
      dsimp only
      split
      · rename_i fails
        refine Or.inr ⟨_, .refuseSync call.order outstanding, rfl, refused ?_⟩
        simp only [PendingCommand.Confirms]
        grind
      · rename_i holds
        simp only [Bool.or_eq_true, decide_eq_true_eq, not_or, ne_eq,
          not_not] at holds
        obtain ⟨rfl, -⟩ := holds
        exact idle _ id
          (.inr ⟨_, _, _, _, connectionId, rfl, connected, rfl⟩)
  | upgradeJoin expected roomId clientId lifecycleId assignmentEpoch =>
      dsimp only [RoomTable.upgradeJoinResult]
      have rooms : (table.retireCommand result.requestId).rooms =
        table.rooms := rfl
      split
      · rename_i fails
        cases found : table.rooms[roomId]? with
        | none =>
            simp only [RoomTable.abortUpgrade, rooms, found]
            exact idle [] (by simp [RoomTable.Awaits, found]) (.inl rfl)
        | some room =>
            cases upgrading : room.upgrade with
            | none =>
                simp only [RoomTable.abortUpgrade, rooms, found, upgrading]
                exact idle [] (by simp [RoomTable.Awaits, found, upgrading]) (.inl rfl)
            | some upgrade =>
                refine Or.inr ⟨_, .abortUpgrade _ outstanding found upgrading,
                  rfl, refused ?_⟩
                simp only [PendingCommand.Confirms]
                grind
      · rename_i holds
        have confirms : PendingCommand.Confirms (.upgradeJoin expected roomId
            clientId lifecycleId assignmentEpoch) instanceId
              result.result := by
          simp only [PendingCommand.Confirms]
          grind
        have own : expected = instanceId := confirms.1
        subst own
        simp only [rooms]
        split
        · rename_i found
          exact idle [] (by simp [RoomTable.Awaits, found]) (.inl rfl)
        rename_i room found
        split
        · rename_i upgrading
          exact idle [] (by simp [RoomTable.Awaits, found, upgrading]) (.inl rfl)
        rename_i upgrade upgrading
        unfold RoomTable.acceptUpgradeJoin
        dsimp only
        split
        · rename_i finished
          exact Or.inr ⟨_, .commitUpgrade call.order outstanding connected
            found upgrading finished, rfl, confirmed confirms⟩
        · rename_i unfinished
          exact Or.inr ⟨_, .advanceUpgrade outstanding connected found
            upgrading unfinished, rfl, confirmed confirms⟩
  | sfuJoin expected roomId clientId lifecycleId assignmentEpoch =>
      dsimp only [RoomTable.sfuJoinResult]
      have rooms : (table.retireCommand result.requestId).rooms =
        table.rooms := rfl
      simp only [rooms]
      split
      · rename_i found
        exact idle [] (by simp [RoomTable.Awaits, found]) (.inl rfl)
      rename_i room found
      split
      · rename_i joining
        exact idle [] (by simp [RoomTable.Awaits, found, joining]) (.inl rfl)
      rename_i pendingJoin joining
      split
      · rename_i holds
        simp only [Bool.and_eq_true, decide_eq_true_eq] at holds
        have confirms : PendingCommand.Confirms (.sfuJoin expected roomId
            clientId lifecycleId assignmentEpoch) instanceId
              result.result := holds
        have own : expected = instanceId := confirms.1
        subst own
        exact Or.inr ⟨_, .completeJoin outstanding found joining, rfl,
          confirmed confirms⟩
      · rename_i fails
        simp only [Bool.and_eq_true, decide_eq_true_eq] at fails
        exact Or.inr ⟨_, .refuseJoin _ outstanding found joining, rfl,
          refused fails⟩
  | sfuLeave expected roomId clientId lifecycleId assignmentEpoch =>
      dsimp only [RoomTable.sfuLeaveResult]
      have rooms : (table.retireCommand result.requestId).rooms =
        table.rooms := rfl
      simp only [rooms]
      split
      · rename_i found
        exact idle [] (by simp [RoomTable.Awaits, found]) (.inl rfl)
      rename_i room found
      split
      · rename_i leaving
        exact idle [] (by simp [RoomTable.Awaits, found, leaving]) (.inl rfl)
      rename_i pendingLeave leaving
      split
      · rename_i holds
        simp only [Bool.and_eq_true, decide_eq_true_eq] at holds
        have confirms : PendingCommand.Confirms (.sfuLeave expected roomId
            clientId lifecycleId assignmentEpoch) instanceId
              result.result := holds
        have own : expected = instanceId := confirms.1
        subst own
        exact Or.inr ⟨_, .completeLeave now outstanding found leaving, rfl,
          confirmed confirms⟩
      · rename_i fails
        simp only [Bool.and_eq_true, decide_eq_true_eq] at fails
        exact Or.inr ⟨_, .refuseLeave _ outstanding found leaving, rfl,
          refused fails⟩
  | signal => exact idle [] id (.inl rfl)
  | cleanup => exact idle [] id (.inl rfl)

/-- A resuming worker synchronizes its rooms one by one. -/
theorem syncRooms_chain
    {before : RoomTable}
    {connectionId : Sfu.ConnectionId}
    {instanceId : InstanceId}
    {requestId : Nat}
    {capacity : Sfu.Capacity}
    (asked : call.operation = .handleSfuInput
      (.register connectionId instanceId requestId capacity))
    (roomIds : List RoomId)
    (listed : ∀ roomId ∈ roomIds, table.Lists instanceId roomId)
    (connected : table.connection? instanceId = some connectionId) :
    CallChain before call (none, table) (none, roomIds.foldl
      (RoomTable.syncAssignedRoom call.order instanceId connectionId)
      table) := by
  induction roomIds generalizing table with
  | nil => exact Chain.refl
  | cons roomId roomIds inductionHypothesis =>
      have kept : (RoomTable.syncAssignedRoom call.order instanceId
          connectionId table roomId).workers = table.workers := by
        unfold RoomTable.syncAssignedRoom
        split <;> rfl
      have head : CallChain before call (none, table) (none,
          RoomTable.syncAssignedRoom call.order instanceId connectionId table
            roomId) := by
        cases found : table.rooms[roomId]? with
        | none =>
            simp only [RoomTable.syncAssignedRoom, found]
            exact Chain.refl
        | some room =>
            exact Chain.single (.syncRoom instanceId roomId)
              (Moved.syncRoom call.order found
                (listed roomId List.mem_cons_self) connected)
              ⟨connectionId, requestId, capacity, asked⟩
      refine head.trans (inductionHypothesis (fun otherId later => ?_) ?_)
      · simpa [RoomTable.Lists, kept] using
          listed otherId (List.mem_cons_of_mem _ later)
      · simpa [RoomTable.connection?, kept] using connected

theorem registerWorker_chain
    {connectionId : Sfu.ConnectionId}
    {instanceId : InstanceId}
    {requestId : Nat}
    {capacity : Sfu.Capacity}
    (asked : call.operation = .handleSfuInput
      (.register connectionId instanceId requestId capacity)) :
    CallChain table call (none, table) (none, (table.registerWorker call.order
      connectionId instanceId requestId capacity).2) := by
  unfold RoomTable.registerWorker
  split
  · exact Chain.single .push (Moved.push _ trivial)
      ⟨rfl, _, asked⟩
  dsimp only
  have syncs (actions : List Action) :
      ((table.connectWorker connectionId instanceId capacity).pushActions
        actions).syncsOf instanceId = table.syncsOf instanceId := by
    simp [RoomTable.syncsOf, RoomTable.connectWorker]
  rw [syncs]
  refine (Chain.single (.connectWorker instanceId)
    (Moved.connectWorker connectionId capacity _ ?_)
    ⟨connectionId, requestId, capacity, asked⟩).trans (syncRooms_chain asked _
      (fun roomId listed => ?_) ?_)
  · cases table.connection? instanceId with
    | none => simp [Action.Notice]
    | some old => by_cases old = connectionId <;> simp_all [Action.Notice]
  · simp only [RoomTable.Lists, RoomTable.retireAll_workers,
      RoomTable.pushActions_workers] at listed ⊢
    split at listed
    · cases listed
    · rename_i worker known
      exact ⟨worker, known, by simpa using listed⟩
  · simp [RoomTable.connection?, RoomTable.connectWorker]

end Operations

/-! ## Deadlines -/

/-- A change of one room that leaves connections and waiting workers alone and
takes at most that room off the workers' lists. -/
structure TouchesOnly
    (roomId : RoomId)
    (table after : RoomTable) : Prop where
  rooms : ∀ otherId, otherId ≠ roomId ->
    after.rooms[otherId]? = table.rooms[otherId]?
  connections : ∀ instanceId,
    after.connection? instanceId = table.connection? instanceId
  waits : ∀ instanceId, table.Waits instanceId -> after.Waits instanceId
  lists : ∀ instanceId otherId,
    after.Lists instanceId otherId -> table.Lists instanceId otherId
  kept : ∀ instanceId otherId, otherId ≠ roomId ->
    table.Lists instanceId otherId -> after.Lists instanceId otherId

namespace TouchesOnly

variable
  {table after : RoomTable}
  {roomId : RoomId}

theorem of_setRoom
    (room : Room)
    (rooms : after.rooms = table.rooms.insert roomId room)
    (workers : after.workers = table.workers) :
    TouchesOnly roomId table after where
  rooms := by rw [rooms]; grind
  connections := by simp [RoomTable.connection?, workers]
  waits := by simp [RoomTable.Waits, workers]
  lists := by simp [RoomTable.Lists, workers]
  kept := by simp [RoomTable.Lists, workers]

theorem of_same
    (rooms : after.rooms = table.rooms)
    (workers : after.workers = table.workers) :
    TouchesOnly roomId table after where
  rooms := by simp [rooms]
  connections := by simp [RoomTable.connection?, workers]
  waits := by simp [RoomTable.Waits, workers]
  lists := by simp [RoomTable.Lists, workers]
  kept := by simp [RoomTable.Lists, workers]

theorem of_setOrDropRoom
    (table : RoomTable)
    (roomId : RoomId)
    (room : Room) :
    TouchesOnly roomId table (table.setOrDropRoom roomId room) := by
  have workers : (table.setOrDropRoom roomId room).workers =
      table.workers := by
    unfold RoomTable.setOrDropRoom
    split <;> rfl
  refine
    { rooms := fun otherId other => ?_
      connections := by simp [RoomTable.connection?, workers]
      waits := by simp [RoomTable.Waits, workers]
      lists := by simp [RoomTable.Lists, workers]
      kept := by simp [RoomTable.Lists, workers] }
  unfold RoomTable.setOrDropRoom
  split <;> simp only [RoomTable.dropRoom_rooms, RoomTable.setRoom_rooms] <;>
    grind

theorem of_released
    {instanceId : InstanceId}
    {assignmentEpoch count : Nat}
    {released : Room}
    {leavers : List ClientId}
    {answers : List Action}
    (release : table.Released roomId instanceId assignmentEpoch count released
      leavers answers after) :
    TouchesOnly roomId table after where
  rooms := by rw [release.rooms]; grind
  connections := by
    intro otherId
    have kept := table.connection?_modifyWorker instanceId otherId
      (RoomTable.dischargeRoom roomId count) fun _ => rfl
    simpa [RoomTable.connection?, release.workers] using kept
  waits := by
    rintro otherId ⟨worker, known, waiting⟩
    simp only [RoomTable.Waits, release.workers]
    by_cases same : otherId = instanceId
    · subst same
      exact ⟨RoomTable.dischargeRoom roomId count worker, by grind, waiting⟩
    · exact ⟨worker, by grind, waiting⟩
  lists := by
    rintro otherId listedId ⟨worker, known, listed⟩
    simp only [release.workers] at known
    by_cases same : otherId = instanceId
    · subst same
      simp only [RoomTable.Lists]
      simp only [ExtTreeMap.getElem?_modify_self, Option.map_eq_some_iff]
        at known
      obtain ⟨former, known, rfl⟩ := known
      refine ⟨former, known, ?_⟩
      simp only [RoomTable.dischargeRoom] at listed
      grind
    · exact ⟨worker, by grind, listed⟩
  kept := by
    rintro otherId listedId other ⟨worker, known, listed⟩
    simp only [RoomTable.Lists, release.workers]
    by_cases same : otherId = instanceId
    · subst same
      refine ⟨RoomTable.dischargeRoom roomId count worker, by grind, ?_⟩
      simp only [RoomTable.dischargeRoom]
      grind
    · exact ⟨worker, by grind, listed⟩

end TouchesOnly

/-- Giving one room of a well formed table up touches only that room. -/
theorem expireRoom_touches
    {table : RoomTable}
    (order : VisitOrder)
    (roomId : RoomId)
    (wellFormed : table.WellFormed) :
    TouchesOnly roomId table (RoomTable.expireRoom order table roomId) ∧
      ∀ room, (RoomTable.expireRoom order table roomId).rooms[roomId]? =
        some room -> room.GivenUp := by
  unfold RoomTable.expireRoom
  cases found : table.rooms[roomId]? with
  | none => exact ⟨.of_same rfl rfl, by simp [found]⟩
  | some room =>
      dsimp only
      have shape := wellFormed.rooms roomId room found
      split
      · rename_i mode
        obtain ⟨upgrade, upgrading, -⟩ := shape.upgrading mode
        obtain ⟨instanceId, assigned⟩ := Option.isSome_iff_exists.1
          (shape.upgrade upgrade upgrading).2.2.1
        obtain ⟨leavers, answers, release, -⟩ := RoomTable.abortUpgrade_released
          table "WORKER_UNAVAILABLE" found upgrading assigned
        refine ⟨.of_released release, fun other stored => ?_⟩
        rw [release.rooms] at stored
        simp only [ExtTreeMap.getElem?_insert_self, Option.some.injEq] at stored
        subst stored
        have direct := (shape.release upgrading).direct rfl
        exact ⟨nofun, nofun, direct.2.2.2⟩
      · refine ⟨.of_setRoom room.fail (by
          simp [RoomTable.failExpired]) (by simp [RoomTable.failExpired]),
          fun other stored => ?_⟩
        simp only [RoomTable.failExpired, RoomTable.pushActions_rooms,
          RoomTable.setRoom_rooms, ExtTreeMap.getElem?_insert_self,
          Option.some.injEq] at stored
        subst stored
        exact ⟨nofun, nofun, rfl, rfl⟩

/-- The table while expired workers are being given up. The pairs that are
`done` are the rooms already given up together with their workers. -/
structure Expiring
    (before : RoomTable)
    (done : InstanceId -> RoomId -> Prop)
    (table : RoomTable) : Prop where
  wellFormed : table.WellFormed
  connections : ∀ instanceId,
    table.connection? instanceId = before.connection? instanceId
  lists : ∀ instanceId roomId,
    table.Lists instanceId roomId -> before.Lists instanceId roomId
  touched : ∀ roomId, table.rooms[roomId]? = before.rooms[roomId]? ∨
    ∃ instanceId, done instanceId roomId ∧ before.Lists instanceId roomId
  lost : ∀ instanceId roomId, before.Lists instanceId roomId ->
    table.Lists instanceId roomId ∨
      ∀ room, table.rooms[roomId]? = some room -> room.GivenUp

namespace Expiring

variable
  {before table : RoomTable}
  {done : InstanceId -> RoomId -> Prop}

theorem mono
    {more : InstanceId -> RoomId -> Prop}
    (expiring : Expiring before done table)
    (included : ∀ instanceId roomId,
      done instanceId roomId -> more instanceId roomId) :
    Expiring before more table :=
  { expiring with
    touched := fun roomId => (expiring.touched roomId).imp id
      fun ⟨instanceId, finished, listed⟩ =>
        ⟨instanceId, included _ _ finished, listed⟩ }

/-- Giving one room of an expiring worker up. -/
theorem expireRoom
    {instanceId : InstanceId}
    {roomId : RoomId}
    (expiring : Expiring before done table)
    (order : VisitOrder)
    (listed : table.Lists instanceId roomId) :
    Expiring before
      (fun otherId otherRoom => done otherId otherRoom ∨
        otherId = instanceId ∧ otherRoom = roomId)
      (RoomTable.expireRoom order table roomId) := by
  obtain ⟨touches, givenUp⟩ :=
    expireRoom_touches order roomId expiring.wellFormed
  have shape : (RoomTable.expireRoom order table roomId).WellFormed := by
    unfold RoomTable.expireRoom
    split
    · exact expiring.wellFormed
    · rename_i room found
      split
      · exact expiring.wellFormed.abortUpgrade roomId _
      · rename_i settled
        exact (expiring.wellFormed.setRoom
          ((expiring.wellFormed.rooms _ _ found).fail settled)).pushActions _
  refine
    { wellFormed := shape
      connections := fun otherId =>
        (touches.connections otherId).trans (expiring.connections otherId)
      lists := fun otherId otherRoom shown =>
        expiring.lists _ _ (touches.lists _ _ shown)
      touched := fun otherRoom => ?_
      lost := fun otherId otherRoom was => ?_ }
  · by_cases same : otherRoom = roomId
    · subst same
      exact Or.inr ⟨instanceId, Or.inr ⟨rfl, rfl⟩, expiring.lists _ _ listed⟩
    · rw [touches.rooms otherRoom same]
      exact (expiring.touched otherRoom).imp id
        fun ⟨otherId, finished, was⟩ => ⟨otherId, Or.inl finished, was⟩
  · by_cases same : otherRoom = roomId
    · subst same
      exact Or.inr givenUp
    · rw [touches.rooms otherRoom same]
      exact (expiring.lost otherId otherRoom was).imp
        (touches.kept otherId otherRoom same) id

end Expiring

section Deadlines

variable
  {before : RoomTable}
  {call : Call}
  {now : Instant}

/-- The rooms of one expired worker are given up one by one. -/
theorem expireRooms_chain
    (asked : call.operation = .handleTimeout now)
    {instanceId : InstanceId}
    (expires : before.Expires now instanceId)
    (remaining : List RoomId)
    (nodup : remaining.Nodup)
    {done : InstanceId -> RoomId -> Prop}
    {table : RoomTable}
    (expiring : Expiring before done table)
    (waits : table.Waits instanceId)
    (listed : ∀ roomId ∈ remaining, table.Lists instanceId roomId)
    (foreign : ∀ otherId, ∀ roomId ∈ remaining, done otherId roomId ->
      otherId ≠ instanceId ∧ before.Expires now otherId) :
    let after := remaining.foldl (RoomTable.expireRoom call.order) table
    CallChain before call (some instanceId, table) (some instanceId, after) ∧
      Expiring before
        (fun otherId roomId => done otherId roomId ∨
          otherId = instanceId ∧ roomId ∈ remaining) after ∧
      (∀ otherId, table.Waits otherId -> after.Waits otherId) ∧
      (∀ otherId roomId,
        after.Lists otherId roomId -> table.Lists otherId roomId) ∧
      (∀ roomId, roomId ∉ remaining ->
        after.rooms[roomId]? = table.rooms[roomId]?) ∧
      ∀ roomId ∈ remaining, ∀ room, after.rooms[roomId]? = some room ->
        room.GivenUp := by
  induction remaining generalizing table done with
  | nil =>
      exact ⟨Chain.refl, expiring.mono fun _ _ finished => Or.inl finished,
        fun _ waiting => waiting, fun _ _ shown => shown, by simp, by simp⟩
  | cons roomId remaining inductionHypothesis =>
      obtain ⟨fresh, nodup⟩ := List.nodup_cons.1 nodup
      have here := listed roomId List.mem_cons_self
      obtain ⟨touches, givenUp⟩ :=
        expireRoom_touches call.order roomId expiring.wellFormed
      have arises : Arises before call table (.expireRoom instanceId roomId) := by
        refine ⟨now, asked, expires, expiring.lists _ _ here,
          (expiring.touched roomId).imp id ?_⟩
        rintro ⟨otherId, finished, was⟩
        obtain ⟨other, expired⟩ :=
          foreign otherId roomId List.mem_cons_self finished
        exact ⟨otherId, other, expired, was⟩
      have head : CallChain before call (some instanceId, table)
          (some instanceId,
            RoomTable.expireRoom call.order table roomId) := by
        unfold RoomTable.expireRoom
        cases found : table.rooms[roomId]? with
        | none => exact Chain.refl
        | some room =>
            dsimp only
            split
            · rename_i upgrading
              exact Chain.single (.expireRoom instanceId roomId)
                (Moved.expireUpgrade waits here found upgrading) arises
            · rename_i settled
              exact Chain.single (.expireRoom instanceId roomId)
                (Moved.expireRoom call.order waits here found settled) arises
      obtain ⟨tail, stage, waiting, lists, others, settled⟩ :=
        inductionHypothesis nodup
        (expiring.expireRoom call.order here) (touches.waits _ waits)
        (fun otherRoom later => touches.kept _ _ (by
          rintro rfl
          exact fresh later) (listed otherRoom (List.mem_cons_of_mem _ later)))
        (fun otherId otherRoom later finished => by
          rcases finished with finished | ⟨-, rfl⟩
          · exact foreign otherId otherRoom (List.mem_cons_of_mem _ later)
              finished
          · exact absurd later fresh)
      refine ⟨head.trans tail, stage.mono fun otherId otherRoom finished => ?_,
        fun otherId shown => waiting otherId (touches.waits otherId shown),
        fun otherId otherRoom shown =>
          touches.lists _ _ (lists otherId otherRoom shown),
        fun otherRoom absent => ?_, fun otherRoom present => ?_⟩
      · rcases finished with (finished | ⟨rfl, rfl⟩) | ⟨rfl, later⟩
        · exact Or.inl finished
        · exact Or.inr ⟨rfl, List.mem_cons_self⟩
        · exact Or.inr ⟨rfl, List.mem_cons_of_mem _ later⟩
      · simp only [List.mem_cons, not_or] at absent
        exact (others otherRoom absent.2).trans (touches.rooms _ absent.1)
      · rcases List.mem_cons.1 present with rfl | later
        · intro room found
          rw [List.foldl_cons, others otherRoom fresh] at found
          exact givenUp room found
        · exact settled otherRoom later

/-- The release of a worker drops its commands and clears its record. -/
theorem releaseWorker_facts
    (table : RoomTable)
    (instanceId : InstanceId) :
    let after := table.releaseWorker instanceId
    after.rooms = table.rooms ∧
      (∀ otherId, after.connection? otherId = table.connection? otherId) ∧
      (∀ otherId, otherId ≠ instanceId -> table.Waits otherId ->
        after.Waits otherId) ∧
      (∀ otherId roomId, after.Lists otherId roomId ↔
        otherId ≠ instanceId ∧ table.Lists otherId roomId) := by
  have workers : (table.releaseWorker instanceId).workers =
      table.workers.modify instanceId fun worker =>
        { worker with
          disconnectDeadline := none
          assignedRooms := ∅
          assignedClients := 0 } := by
    simp [RoomTable.releaseWorker]
  refine ⟨by simp [RoomTable.releaseWorker], fun otherId => ?_,
    fun otherId other => ?_, fun otherId roomId => ?_⟩
  · have kept := table.connection?_modifyWorker instanceId otherId
      (fun worker => { worker with
        disconnectDeadline := none
        assignedRooms := ∅
        assignedClients := 0 }) fun _ => rfl
    simpa [RoomTable.connection?, workers] using kept
  · rintro ⟨worker, known, waiting⟩
    simp only [RoomTable.Waits, workers]
    exact ⟨worker, by grind, waiting⟩
  · simp only [RoomTable.Lists, workers]
    constructor
    · rintro ⟨worker, known, listed⟩
      by_cases same : otherId = instanceId
      · subst same
        simp only [ExtTreeMap.getElem?_modify_self, Option.map_eq_some_iff]
          at known
        obtain ⟨former, known, rfl⟩ := known
        grind
      · exact ⟨same, worker, by grind, listed⟩
    · rintro ⟨other, worker, known, listed⟩
      exact ⟨worker, by grind, listed⟩

/-- One expired worker is given up with all its rooms. -/
theorem expireWorker_chain
    (asked : call.operation = .handleTimeout now)
    {instanceId : InstanceId}
    {remaining : List InstanceId}
    (expires : before.Expires now instanceId)
    (fresh : instanceId ∉ remaining)
    {table : RoomTable}
    (expiring : Expiring before (fun otherId _ => before.Expires now otherId ∧
      otherId ∉ instanceId :: remaining) table)
    (waits : table.Waits instanceId) :
    let after := RoomTable.expireWorker call.order table instanceId
    CallChain before call (none, table) (none, after) ∧
      Expiring before (fun otherId _ => before.Expires now otherId ∧
        otherId ∉ remaining) after ∧
      (∀ otherId, otherId ≠ instanceId -> table.Waits otherId ->
        after.Waits otherId) ∧
      (∀ roomId, ¬after.Lists instanceId roomId) ∧
      ∀ otherId roomId,
        after.Lists otherId roomId -> table.Lists otherId roomId := by
  obtain ⟨worker, known, waiting⟩ := waits
  have rooms : RoomTable.expireWorker call.order table instanceId =
      ((call.order.visit (.assignedRooms instanceId)
        worker.assignedRooms.toList).foldl (RoomTable.expireRoom call.order)
          table).releaseWorker instanceId := by
    simp [RoomTable.expireWorker, known]
  obtain ⟨chain, stage, stays, lists, -, settled⟩ := expireRooms_chain asked
    expires (call.order.visit (.assignedRooms instanceId)
      worker.assignedRooms.toList)
    (HashOrder.nodup_visit _ _ (ExtTreeSet.distinct_toList.imp
      Std.ReflCmp.ne_of_cmp_ne_eq)) expiring
    ⟨worker, known, waiting⟩
    (fun roomId listed => ⟨worker, known, by simpa using listed⟩)
    (fun otherId roomId _ finished =>
      ⟨fun same => finished.2 (same ▸ List.mem_cons_self), finished.1⟩)
  generalize List.foldl _ table _ = emptied at *
  obtain ⟨sameRooms, sameConnections, otherWaits, otherLists⟩ :=
    releaseWorker_facts emptied instanceId
  have visited (roomId : RoomId) (listed : emptied.Lists instanceId roomId) :
      roomId ∈ call.order.visit (.assignedRooms instanceId)
        worker.assignedRooms.toList := by
    obtain ⟨other, found, inside⟩ := lists _ _ listed
    rw [known] at found
    cases found
    simpa using inside
  have givenUp (roomId : RoomId) (room : Room)
      (listed : emptied.Lists instanceId roomId)
      (found : emptied.rooms[roomId]? = some room) : room.GivenUp :=
    settled roomId (visited roomId listed) room found
  rw [rooms]
  refine ⟨?_, ?_, fun otherId other shown => otherWaits otherId other
    (stays otherId shown), fun roomId shown => ((otherLists _ _).1 shown).1 rfl,
    fun otherId roomId shown => lists _ _ ((otherLists _ _).1 shown).2⟩
  · refine (Chain.single (.beginExpiry instanceId)
      (Moved.beginExpiry ⟨worker, known, waiting⟩)
      ⟨now, asked, expires⟩).trans (chain.trans ?_)
    exact Chain.single (.endExpiry instanceId)
      (Moved.endExpiry (stays instanceId ⟨worker, known, waiting⟩) givenUp)
      ⟨now, asked, expires⟩
  · refine
      { wellFormed := ?_
        connections := fun otherId =>
          (sameConnections otherId).trans (stage.connections otherId)
        lists := fun otherId roomId shown =>
          stage.lists _ _ ((otherLists _ _).1 shown).2
        touched := fun roomId => ?_
        lost := fun otherId roomId was => ?_ }
    · exact (stage.wellFormed.retireAll _).modifyWorker _ _ fun _ _ => nofun
    · rw [sameRooms]
      refine (stage.touched roomId).imp id ?_
      rintro ⟨otherId, finished | ⟨rfl, -⟩, was⟩
      · exact ⟨otherId, ⟨finished.1, fun later =>
          finished.2 (List.mem_cons_of_mem _ later)⟩, was⟩
      · exact ⟨otherId, ⟨expires, fresh⟩, was⟩
    · rw [sameRooms, otherLists]
      rcases stage.lost otherId roomId was with shown | gone
      · by_cases same : otherId = instanceId
        · subst same
          exact Or.inr fun room found => givenUp roomId room shown found
        · exact Or.inl ⟨same, shown⟩
      · exact Or.inr gone

/-- All expired workers are given up. -/
theorem expireWorkers_chain
    (asked : call.operation = .handleTimeout now)
    (remaining : List InstanceId)
    (nodup : remaining.Nodup)
    (expires : ∀ instanceId ∈ remaining, before.Expires now instanceId)
    (table : RoomTable)
    (expiring : Expiring before (fun otherId _ => before.Expires now otherId ∧
      otherId ∉ remaining) table)
    (waits : ∀ instanceId ∈ remaining, table.Waits instanceId)
    (cleared : ∀ instanceId, before.Expires now instanceId ->
      instanceId ∉ remaining -> ∀ roomId, ¬table.Lists instanceId roomId) :
    let after := remaining.foldl (RoomTable.expireWorker call.order) table
    CallChain before call (none, table) (none, after) ∧
      Expiring before (fun otherId _ => before.Expires now otherId) after ∧
      ∀ instanceId, before.Expires now instanceId ->
        ∀ roomId, ¬after.Lists instanceId roomId := by
  induction remaining generalizing table with
  | nil =>
      exact ⟨Chain.refl, expiring.mono fun _ _ finished => finished.1,
        fun instanceId expired => cleared instanceId expired (by simp)⟩
  | cons instanceId remaining inductionHypothesis =>
      obtain ⟨fresh, nodup⟩ := List.nodup_cons.1 nodup
      obtain ⟨head, stage, stays, emptied, lists⟩ := expireWorker_chain asked
        (expires instanceId List.mem_cons_self) fresh expiring
          (waits instanceId List.mem_cons_self)
      obtain ⟨tail, rest⟩ := inductionHypothesis nodup
        (fun otherId later => expires otherId (List.mem_cons_of_mem _ later))
        _ stage
        (fun otherId later => stays otherId (by
          rintro rfl
          exact fresh later) (waits otherId (List.mem_cons_of_mem _ later)))
        (fun otherId expired absent roomId shown => by
          by_cases same : otherId = instanceId
          · subst same
            exact emptied roomId shown
          · exact cleared otherId expired (by simp [same, absent]) roomId
              (lists _ _ shown))
      exact ⟨head.trans tail, rest⟩

/-- The sweep touches only the room that it visits. -/
theorem sweepRoom_touches
    {table : RoomTable}
    (order : VisitOrder)
    (now : Instant)
    (promotions : List Promotion)
    (roomId : RoomId)
    (wellFormed : table.WellFormed) :
    TouchesOnly roomId table
      (RoomTable.sweepRoom order now (promotions, table) roomId).2 := by
  unfold RoomTable.sweepRoom
  dsimp only
  split
  · exact .of_same rfl rfl
  rename_i room found
  split
  · split
    · rename_i eligible
      obtain ⟨other, instanceId, initiatorClientId, others, present, forwarded,
        small, noJoin, noLeave, assigned, clients⟩ :=
          wellFormed.eligible eligible
      exact .of_released
        (RoomTable.commitDowngrade_released order present assigned clients)
    · exact .of_setRoom _ rfl rfl
  split
  · rename_i clientId expired
    rcases issueSfuLeave_cases table roomId clientId .disconnected with kept |
      ⟨other, member, instanceId, connectionId, -, -, -, -, -, -, issued⟩
    · rw [kept]
      exact .of_setRoom _ rfl rfl
    · rw [issued]
      exact .of_setRoom _ rfl rfl
  · split
    · exact .of_same rfl rfl
    · exact .of_setOrDropRoom ..

/-- The sweep visits one room by at most one move. -/
theorem sweepRoom_chain
    (asked : call.operation = .handleTimeout now)
    (table : RoomTable)
    {expired : RoomTable}
    {roomId : RoomId}
    (promotions : List Promotion)
    (expiring : Expiring before
      (fun otherId _ => before.Expires now otherId) expired)
    (cleared : ∀ instanceId, before.Expires now instanceId ->
      ∀ roomId, ¬expired.Lists instanceId roomId)
    (unvisited : table.rooms[roomId]? = expired.rooms[roomId]?)
    (connections : ∀ instanceId,
      table.connection? instanceId = before.connection? instanceId) :
    CallChain before call (none, table)
      (none, (RoomTable.sweepRoom call.order now (promotions, table)
        roomId).2) := by
  have settled (room : Room)
      (found : table.rooms[roomId]? = some room)
      (forwarded : room.mode = .sfu) :
      before.rooms[roomId]? = some room ∧ ∀ instanceId,
        before.Expires now instanceId -> ¬before.Lists instanceId roomId := by
    rw [unvisited] at found
    have kept (instanceId : InstanceId)
        (expires : before.Expires now instanceId) :
        ¬before.Lists instanceId roomId := fun was => by
      rcases expiring.lost instanceId roomId was with shown | gone
      · exact cleared instanceId expires roomId shown
      · exact (gone room found).2.1 forwarded
    rcases expiring.touched roomId with same | ⟨instanceId, expires, was⟩
    · exact ⟨by rw [← same, found], kept⟩
    · exact absurd was (kept instanceId expires)
  unfold RoomTable.sweepRoom
  dsimp only
  split
  · exact Chain.refl
  rename_i room found
  split
  · rename_i due
    split
    · rename_i eligible
      have forwarded : room.mode = .sfu := by
        simp only [RoomTable.isDowngradeEligible, found, Option.any_some,
          Bool.and_eq_true, decide_eq_true_eq] at eligible
        exact eligible.1.1.1.1.1
      obtain ⟨same, kept⟩ := settled room found forwarded
      exact Chain.single (.downgrade roomId)
        (Moved.downgrade call.order eligible)
        ⟨now, room, asked, same, found, due, connections, kept⟩
    · rename_i ineligible
      simp only [Bool.not_eq_true] at ineligible
      exact Chain.single (.clearDeadline roomId)
        (Moved.clearDeadline found ineligible) ⟨now, asked⟩
  rename_i undue
  split
  · rename_i clientId expiredClient
    obtain ⟨member, deadline, forwarded, noLeave, present, waiting, passed⟩ :
        ∃ member deadline, room.mode = .sfu ∧ room.pendingLeave = none ∧
          room.members[clientId]? = some member ∧
          member.reconnectDeadline = some deadline ∧
          isDue member.reconnectDeadline now = true := by
      unfold Room.expiredSfuClient at expiredClient
      split at expiredClient
      · rename_i idle
        simp only [Bool.and_eq_true, decide_eq_true_eq,
          Option.isNone_iff_eq_none] at idle
        have due := List.find?_some expiredClient
        cases present : room.members[clientId]? with
        | none => simp [present] at due
        | some member =>
            cases waiting : member.reconnectDeadline with
            | none => simp [present, waiting, isDue] at due
            | some deadline =>
                exact ⟨member, deadline, idle.1, idle.2, rfl, waiting,
                  by simpa [present] using due⟩
      · cases expiredClient
    rcases issueSfuLeave_cases table roomId clientId .disconnected with kept |
      ⟨other, otherMember, instanceId, connectionId, otherFound, -, -,
        otherPresent, assigned, connected, issued⟩
    · rw [kept]
      exact Chain.single (.rearmGrace roomId clientId)
        (Moved.rearmGrace now found present waiting forwarded) ⟨now, asked⟩
    · rw [found] at otherFound
      cases otherFound
      rw [present] at otherPresent
      cases otherPresent
      rw [issued]
      exact Chain.single (.retryLeave roomId clientId)
        (Moved.retryLeave found present waiting forwarded noLeave assigned
          connected)
        ⟨now, asked, ⟨member, by simp [RoomTable.member?, found, present],
          passed⟩, room, (settled room found forwarded).1, found,
          by simpa using undue, expiredClient, connections,
          (settled room found forwarded).2⟩
  · split
    · exact Chain.refl
    · rename_i direct
      simp only [ne_eq, not_not] at direct
      exact Chain.single (.expireMembers roomId)
        (Moved.expireMembers now found direct) ⟨now, asked⟩

theorem CallChain.wellFormed
    {call : Call}
    {first last : Option InstanceId × RoomTable}
    (chain : CallChain before call first last)
    (wellFormed : first.2.WellFormed) :
    last.2.WellFormed :=
  chain.invariant (fun state => state.2.WellFormed)
    (fun _ _ _ moved _ shape => shape.moved moved) wellFormed

theorem sweep_chain
    (asked : call.operation = .handleTimeout now)
    {expired : RoomTable}
    (expiring : Expiring before
      (fun otherId _ => before.Expires now otherId) expired)
    (cleared : ∀ instanceId, before.Expires now instanceId ->
      ∀ roomId, ¬expired.Lists instanceId roomId)
    (remaining : List RoomId)
    (nodup : remaining.Nodup)
    {table : RoomTable}
    (promotions : List Promotion)
    (wellFormed : table.WellFormed)
    (unvisited : ∀ roomId ∈ remaining,
      table.rooms[roomId]? = expired.rooms[roomId]?)
    (connections : ∀ instanceId,
      table.connection? instanceId = before.connection? instanceId) :
    CallChain before call (none, table)
      (none, (remaining.foldl (RoomTable.sweepRoom call.order now)
        (promotions, table)).2) := by
  induction remaining generalizing table promotions with
  | nil => exact Chain.refl
  | cons roomId remaining inductionHypothesis =>
      obtain ⟨fresh, nodup⟩ := List.nodup_cons.1 nodup
      have head := sweepRoom_chain asked table promotions expiring
        cleared (unvisited roomId List.mem_cons_self) connections
      have touches := sweepRoom_touches call.order now promotions roomId
        wellFormed
      have shape := head.wellFormed wellFormed
      rw [List.foldl_cons]
      generalize RoomTable.sweepRoom call.order now (promotions, table)
        roomId = swept at head touches shape
      obtain ⟨promotions, swept⟩ := swept
      refine head.trans (inductionHypothesis nodup promotions shape
        (fun otherId later => ?_) fun instanceId =>
          (touches.connections instanceId).trans (connections instanceId))
      have other : otherId ≠ roomId := by
        rintro rfl
        exact fresh later
      exact (touches.rooms otherId other).trans
        (unvisited otherId (List.mem_cons_of_mem _ later))

/-- The expired workers are all given up before the sweep. -/
theorem expiry_chain
    (asked : call.operation = .handleTimeout now)
    (wellFormed : before.WellFormed) :
    let expired := (before.expiredWorkers call.order now).foldl
      (RoomTable.expireWorker call.order) before
    CallChain before call (none, before) (none, expired) ∧
      Expiring before (fun otherId _ => before.Expires now otherId) expired ∧
      ∀ instanceId, before.Expires now instanceId ->
        ∀ roomId, ¬expired.Lists instanceId roomId := by
  have visited (instanceId : InstanceId) :
      instanceId ∈ before.expiredWorkers call.order now ↔
        before.Expires now instanceId := by
    simp only [RoomTable.expiredWorkers, List.mem_filter, HashOrder.mem_visit,
      ExtTreeMap.mem_keys, RoomTable.Expires]
    cases known : before.workers[instanceId]? with
    | none => simp
    | some worker =>
        simp only [Option.any_some, Option.some.injEq, exists_eq_left',
          and_iff_right_iff_imp]
        intro _
        exact ExtTreeMap.mem_iff_isSome_getElem?.2 (by simp [known])
  exact expireWorkers_chain asked
    (before.expiredWorkers call.order now)
    ((HashOrder.nodup_visit _ _ ExtTreeMap.nodup_keys).filter _)
    (fun instanceId listed => (visited instanceId).1 listed)
    before
    { wellFormed := wellFormed
      connections := fun _ => rfl
      lists := fun _ _ shown => shown
      touched := fun _ => Or.inl rfl
      lost := fun _ _ shown => Or.inl shown }
    (fun instanceId listed => by
      obtain ⟨worker, known, due⟩ := (visited instanceId).1 listed
      refine ⟨worker, known, ?_⟩
      cases waiting : worker.disconnectDeadline with
      | none => simp [isDue, waiting] at due
      | some deadline => rfl)
    (fun instanceId expires absent =>
      absurd ((visited instanceId).2 expires) absent)

theorem handleTimeout_chain
    (asked : call.operation = .handleTimeout now)
    (wellFormed : before.WellFormed) :
    CallChain before call (none, before)
      (none, (before.handleTimeout call.order now).2) := by
  obtain ⟨chain, expiring, cleared⟩ := expiry_chain asked wellFormed
  exact chain.trans (sweep_chain asked expiring cleared _
    (HashOrder.nodup_visit _ _ ExtTreeMap.nodup_keys) []
    expiring.wellFormed (fun _ _ => rfl) expiring.connections)

/-- The moves that a timeout makes. -/
def Move.Expiring : Move -> Prop
  | .beginExpiry _ | .expireRoom _ _ | .endExpiry _ | .downgrade _
  | .clearDeadline _ | .retryLeave _ _ | .rearmGrace _ _ | .expireMembers _ =>
      True
  | _ => False

theorem Arises.expiring
    {table middle : RoomTable}
    {call : Call}
    {move : Move}
    {now : Instant}
    (arises : Arises table call middle move)
    (asked : call.operation = .handleTimeout now) :
    move.Expiring := by
  cases move <;> first
    | trivial
    | (simp only [Arises, Call.Registers, Call.Removes, Call.Reports,
        Call.Accepts, Call.Refuses, Call.Answers, asked] at arises
       grind)

/-- The calls that may make several moves. -/
def Call.Sweeps (call : Call) : Prop :=
  match call.operation with
  | .handleTimeout _ => True
  | .handleSfuInput (.register ..) => True
  | _ => False

/-- Every other call makes at most one move. -/
theorem step_direct
    (table : RoomTable)
    (call : Call)
    (single : ¬call.Sweeps) :
    Direct table call (table.step call) := by
  unfold RoomTable.step
  unfold Call.Sweeps at single
  cases asked : call.operation with
  | admitClient authorityRequestId now roomId clientId admissionToken =>
      exact admitClient_direct asked
  | register roomId clientId token => exact register_direct asked
  | deregister now roomId clientId => exact deregister_direct asked
  | send roomId clientId signalEpoch message => exact send_direct asked
  | remove authorityRequestId roomId clientId token =>
      exact remove_direct asked
  | handleSfuInput input =>
      cases input with
      | register => simp [asked] at single
      | commandResult connectionId instanceId result now =>
          exact result_direct asked
      | event connectionId instanceId event => exact event_direct asked
      | disconnected connectionId instanceId now =>
          exact disconnected_direct asked
  | handleTimeout now => simp [asked] at single
  | setDowngradeDwell dwell =>
      exact Or.inr ⟨.setDwell, .setDwell dwell, rfl, dwell, asked⟩
  | pollAction => exact Or.inr ⟨.pollAction, .pollAction, rfl, asked⟩

/-- Every call of a well formed table is a chain of moves that it causes. -/
theorem step_chain
    (table : RoomTable)
    (call : Call)
    (wellFormed : table.WellFormed) :
    CallChain table call (none, table) (none, table.step call) := by
  by_cases sweeps : call.Sweeps
  · unfold RoomTable.step
    unfold Call.Sweeps at sweeps
    cases asked : call.operation with
    | handleTimeout now => exact handleTimeout_chain asked wellFormed
    | handleSfuInput input =>
        cases input with
        | register => exact registerWorker_chain asked
        | _ => simp [asked] at sweeps
    | _ => simp [asked] at sweeps
  · exact (step_direct table call sweeps).chain

end Deadlines

end V2
end Signaling
