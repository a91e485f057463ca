import Signaling.V2.Ledger

/-!
# What a call does to the records of commands

Every call polls an action, registers a worker, releases a replay, or goes
through steps of the ledger that issue no synchronization. From this follows
what every run keeps of the recorded texts and of the replays that wait.
-/

namespace Signaling
namespace V2

open Std (ExtTreeMap ExtTreeSet)
open RoomTable

theorem handed_replay
    (connectionId : Sfu.ConnectionId)
    (replay : List Sfu.Command) :
    handed (replay.map fun command => .sfu (.command connectionId command)) =
      replay.map (connectionId, ·) := by
  induction replay with
  | nil => rfl
  | cons command replay inductionHypothesis =>
      exact congrArg ((connectionId, command) :: ·) inductionHypothesis

/-- The connection on which a call registers a worker. -/
def Call.session? (call : Call) : Option Sfu.ConnectionId :=
  match call.operation with
  | .handleSfuInput (.register connectionId _ _ _) => some connectionId
  | _ => none

/-- The call may issue joins, leaves or signals of the room to the worker: it
takes a branch that does. -/
def Call.Issues
    (call : Call)
    (table : RoomTable)
    (instanceId : InstanceId)
    (roomId : RoomId) : Prop :=
  ∃ state move next, CallChain table call (none, table) state ∧
    MoveStep state move next ∧ Arises table call state.2 move ∧
      move.Commands state.2 instanceId roomId

/-- A confirmed synchronization forgets the command and emits its replay. -/
theorem step_confirmed
    {table : RoomTable}
    {call : Call}
    {instanceId expected : InstanceId}
    {requestId assignmentEpoch : Nat}
    {roomId : RoomId}
    {replay : List Sfu.Command}
    (accepts : call.Accepts table instanceId requestId
      (.syncRoom expected roomId assignmentEpoch replay)) :
    ∃ connectionId, table.connection? instanceId = some connectionId ∧
      expected = instanceId ∧
      table.step call =
        (table.retireCommand requestId).replayCommands connectionId replay := by
  obtain ⟨result, ⟨connectionId, now, asked, connected, outstanding⟩,
    same, confirms⟩ := accepts
  refine ⟨connectionId, connected, same, ?_⟩
  obtain ⟨worker, known, session⟩ := Option.bind_eq_some_iff.1 connected
  simp [RoomTable.step, asked, handleSfuInput, handleCommandResult, known,
    session, outstanding, same, confirms]

/-- A refused synchronization forgets the command and fails the room. -/
theorem step_refused
    {table : RoomTable}
    {call : Call}
    {instanceId expected : InstanceId}
    {requestId assignmentEpoch : Nat}
    {roomId : RoomId}
    {replay : List Sfu.Command}
    (refuses : call.Refuses table instanceId requestId
      (.syncRoom expected roomId assignmentEpoch replay)) :
    table.step call = (table.retireCommand requestId).failRoom call.order roomId
      "WORKER_UNAVAILABLE" := by
  obtain ⟨result, ⟨connectionId, now, asked, connected, outstanding⟩,
    differs⟩ := refuses
  obtain ⟨worker, known, session⟩ := Option.bind_eq_some_iff.1 connected
  have mismatch : expected = instanceId ->
      confirmsSync roomId assignmentEpoch result = false := by
    intro same
    simpa [PendingCommand.Confirms, same] using differs
  by_cases same : expected = instanceId
  · simp [RoomTable.step, asked, handleSfuInput, handleCommandResult, known,
      session, outstanding, same, mismatch same]
  · simp [RoomTable.step, asked, handleSfuInput, handleCommandResult, known,
      session, outstanding, same]

/-- What a call appends to the queue is what it emits. -/
theorem emitted_of_append
    {table : RoomTable}
    {call : Call}
    {new : List Action}
    (appends : call.operation ≠ .pollAction)
    (appended : (table.step call).actions = table.actions ++ new) :
    table.emitted call = new := by
  unfold RoomTable.emitted
  split
  · contradiction
  · rw [appended, List.drop_left]

/-- The steps of a call that registers no worker, polls nothing and answers no
synchronization. -/
theorem steady_ledger
    {table : RoomTable}
    {call : Call}
    (consistent : table.Consistent)
    (unregistered : call.session? = none)
    (appends : call.operation ≠ .pollAction)
    (original : ∀ instanceId requestId pending result,
      call.Answers table instanceId requestId pending result ->
      pending.isSync = false) :
    Ledger (fun instanceId command pending => pending.isSync = false ∧
        call.Issues table instanceId (commandRoomId command) ∧
          pending.Describes instanceId command.command)
      (fun _ => True) (fun _ _ => False) table (table.step call) := by
  have chain := step_chain table call consistent.wellFormed
  suffices kept : ∀ state, CallChain table call (none, table) state ->
      Ledger (fun instanceId command pending => pending.isSync = false ∧
        call.Issues table instanceId (commandRoomId command) ∧
          pending.Describes instanceId command.command)
        (fun _ => True) (fun _ _ => False) table state.2 from kept _ chain
  intro state chain
  induction chain with
  | refl => exact .refl
  | tail earlier stepped inductionHypothesis =>
      rename_i middle last
      obtain ⟨move, taken, arises⟩ := stepped
      have shape : middle.2.WellFormed :=
        CallChain.wellFormed earlier consistent.wellFormed
      have steady : move.Steady := by
        cases move with
        | connectWorker | syncRoom =>
            obtain ⟨connectionId, requestId, capacity, asked⟩ := arises
            simp [Call.session?, asked] at unregistered
        | pollAction => exact absurd arises.2 appends
        | _ => trivial
      have steps := Moved.ledger taken shape steady
        (fun requestId pending same outstanding => by
          subst same
          obtain ⟨unchanged, instanceId, recorded, result, answers⟩ := arises
          rw [unchanged] at outstanding
          have first := original instanceId requestId recorded result answers
          rwa [answers.recorded outstanding] at first)
      exact inductionHypothesis.trans (steps.mono
        (fun instanceId command pending issued => ⟨issued.1.1, ⟨middle, move,
          last, earlier, taken, arises, issued.1.2⟩, issued.2⟩)
        fun _ _ => trivial)

/-- What a call does to the records of commands. -/
inductive Filing
    (table : RoomTable)
    (call : Call) : Prop
  | polled
      (rest : List Action)
      (polls : call.operation = .pollAction)
      (stepped : table.step call = { table with actions := rest })
  | registered
      {connectionId : Sfu.ConnectionId} {instanceId : InstanceId}
      {requestId : Nat} {capacity : Sfu.Capacity}
      (asked : call.operation = .handleSfuInput
        (.register connectionId instanceId requestId capacity))
      (stepped : table.step call = (table.registerWorker call.order connectionId
        instanceId requestId capacity).2)
  | released
      {instanceId : InstanceId} {requestId : Nat} {roomId : RoomId}
      {assignmentEpoch : Nat} {replay : List Sfu.Command}
      {connectionId : Sfu.ConnectionId}
      (accepts : call.Accepts table instanceId requestId
        (.syncRoom instanceId roomId assignmentEpoch replay))
      (outstanding : table.pendingCommands[requestId]? =
        some (.syncRoom instanceId roomId assignmentEpoch replay))
      (connected : table.connection? instanceId = some connectionId)
      (stepped : table.step call =
        (table.retireCommand requestId).replayCommands connectionId replay)
  | filed
      (appends : call.operation ≠ .pollAction)
      (unregistered : call.session? = none)
      (holds : ∀ instanceId requestId pending, pending.isSync = true ->
        ¬call.Accepts table instanceId requestId pending)
      (ledger : Ledger (fun instanceId command pending =>
          pending.isSync = false ∧
            call.Issues table instanceId (commandRoomId command) ∧
              pending.Describes instanceId command.command)
        (fun _ => True) (fun _ _ => False) table (table.step call))

/-- Two answers that one call delivers are one answer. -/
theorem Call.Answers.same
    {call : Call}
    {table : RoomTable}
    {instanceId otherId : InstanceId}
    {requestId otherRequest : Nat}
    {pending other : PendingCommand}
    {result otherResult : Except Sfu.Error Sfu.CommandOk}
    (answers : call.Answers table instanceId requestId pending result)
    (others : call.Answers table otherId otherRequest other otherResult) :
    otherId = instanceId ∧ otherRequest = requestId ∧ other = pending ∧
      otherResult = result := by
  obtain ⟨_, _, asked, -, outstanding⟩ := answers
  obtain ⟨_, _, again, -, waiting⟩ := others
  rw [asked] at again
  simp only [Operation.handleSfuInput.injEq, Sfu.Input.commandResult.injEq,
    Sfu.CommandResult.mk.injEq] at again
  obtain ⟨-, rfl, ⟨rfl, rfl⟩, -⟩ := again
  rw [outstanding] at waiting
  exact ⟨rfl, rfl, (Option.some.inj waiting).symm, rfl⟩

theorem step_filing
    {table : RoomTable}
    (consistent : table.Consistent)
    (call : Call) :
    Filing table call := by
  by_cases polls : call.operation = .pollAction
  · obtain ⟨rest, stepped⟩ : ∃ rest,
        table.step call = { table with actions := rest } := by
      simp only [RoomTable.step, polls, RoomTable.pollAction]
      split
      · exact ⟨table.actions, rfl⟩
      · exact ⟨_, rfl⟩
    exact .polled rest polls stepped
  cases registering : call.session? with
  | some connectionId =>
      unfold Call.session? at registering
      split at registering
      · rename_i asked
        exact .registered asked (by simp [RoomTable.step, asked, handleSfuInput])
      · cases registering
  | none =>
      by_cases synced : ∃ instanceId requestId pending result,
        call.Answers table instanceId requestId pending result ∧
          pending.isSync = true
      · obtain ⟨instanceId, requestId, pending, result, answers, sync⟩ := synced
        obtain ⟨expected, roomId, assignmentEpoch, replay, rfl⟩ :
            ∃ expected roomId assignmentEpoch replay,
              pending = .syncRoom expected roomId assignmentEpoch replay := by
          cases pending with
          | syncRoom => exact ⟨_, _, _, _, rfl⟩
          | _ => cases sync
        by_cases confirms : (PendingCommand.syncRoom expected roomId
          assignmentEpoch replay).Confirms instanceId result
        · obtain ⟨connectionId, connected, rfl, stepped⟩ :=
            step_confirmed ⟨result, answers, confirms⟩
          have ⟨_, _, _, _, outstanding⟩ := answers
          exact .released ⟨result, answers, confirms⟩ outstanding connected
            stepped
        · have stepped := step_refused ⟨result, answers, confirms⟩
          refine .filed polls registering (fun otherId otherRequest other _
            accepts => ?_) ?_
          · obtain ⟨otherResult, others, confirmed⟩ := accepts
            obtain ⟨rfl, rfl, rfl, rfl⟩ := answers.same others
            exact confirms confirmed
          · rw [stepped]
            exact .trans (.retire trivial) (.failRoom call.order roomId _)
      · have original : ∀ instanceId requestId pending result,
            call.Answers table instanceId requestId pending result ->
            pending.isSync = false := by
          intro instanceId requestId pending result answers
          by_contra sync
          exact synced ⟨instanceId, requestId, pending, result, answers,
            by simpa using sync⟩
        refine .filed polls registering (fun instanceId requestId pending sync
          accepts => ?_) (steady_ledger consistent registering polls original)
        obtain ⟨result, answers, -⟩ := accepts
        rw [original instanceId requestId pending result answers] at sync
        cases sync

/-- A registration hands out new commands only. -/
theorem registers_fresh
    {table : RoomTable}
    {call : Call}
    {connectionId : Sfu.ConnectionId}
    {instanceId : InstanceId}
    {requestId : Nat}
    {capacity : Sfu.Capacity}
    (consistent : table.Consistent)
    (asked : call.operation = .handleSfuInput
      (.register connectionId instanceId requestId capacity)) :
    ∀ entry ∈ handed (table.emitted call),
      table.nextSfuRequestId ≤ entry.2.requestId := by
  have stepped : table.step call = (table.registerWorker call.order connectionId
      instanceId requestId capacity).2 := by
    simp [RoomTable.step, asked, handleSfuInput]
  have appends : call.operation ≠ .pollAction := by simp [asked]
  rcases registerWorker_cases table call.order connectionId instanceId requestId
    capacity with ⟨notice, -, nothing, refused⟩ | ⟨notices, nothing, bound⟩
  · have appended : (table.step call).actions = table.actions ++ [notice] := by
      rw [stepped, refused]
      rfl
    rw [emitted_of_append appends appended, nothing]
    simp
  · obtain ⟨new, appended, fresh⟩ := Ledger.fresh (Ledger.syncRooms call.order
      ((table.workers[instanceId]?.getD
        (Worker.unseen capacity)).assignedRooms.toList)
      (show (((table.connectWorker connectionId instanceId capacity).pushActions
        notices).retireAll (table.syncsOf instanceId)).connection? instanceId =
          some connectionId by
        simp [RoomTable.connection?, RoomTable.connectWorker]))
      (by simpa [RoomTable.connectWorker] using consistent.wellFormed.counter)
    have emitted : table.emitted call = notices ++ new := by
      refine emitted_of_append appends ?_
      rw [stepped, bound, appended]
      simp [RoomTable.connectWorker]
    rw [emitted, handed_append, nothing, List.nil_append]
    simpa [RoomTable.connectWorker] using fresh

/-- A replay that a call releases is handed out on the worker's connection. -/
theorem handed_of_accepts
    {table : RoomTable}
    {call : Call}
    {instanceId : InstanceId}
    {requestId assignmentEpoch : Nat}
    {roomId : RoomId}
    {replay : List Sfu.Command}
    (accepts : call.Accepts table instanceId requestId
      (.syncRoom instanceId roomId assignmentEpoch replay)) :
    ∃ connectionId, table.connection? instanceId = some connectionId ∧
      handed (table.emitted call) = replay.map (connectionId, ·) := by
  obtain ⟨connectionId, connected, -, stepped⟩ := step_confirmed accepts
  have ⟨_, ⟨_, _, asked, _⟩, _⟩ := accepts
  have appended : (table.step call).actions = table.actions ++
      replay.map fun command => .sfu (.command connectionId command) := by
    rw [stepped]
    simp [RoomTable.replayCommands]
  refine ⟨connectionId, connected, ?_⟩
  rw [emitted_of_append (by simp [asked]) appended, handed_replay]

/-- A command that is handed out again comes from a replay that the call
releases on the connection. -/
theorem handed_again
    {table : RoomTable}
    {call : Call}
    {connectionId : Sfu.ConnectionId}
    {command : Sfu.Command}
    (consistent : table.Consistent)
    (again : (connectionId, command) ∈ handed (table.emitted call))
    (older : command.requestId < table.nextSfuRequestId) :
    ∃ instanceId requestId roomId assignmentEpoch replay,
      call.Accepts table instanceId requestId
        (.syncRoom instanceId roomId assignmentEpoch replay) ∧
      table.connection? instanceId = some connectionId ∧ command ∈ replay := by
  cases step_filing consistent call with
  | polled rest polls stepped => simp [RoomTable.emitted, polls, handed] at again
  | registered asked stepped =>
      exact absurd older (Nat.not_lt.2 (registers_fresh consistent asked _ again))
  | released accepts outstanding connected stepped =>
      obtain ⟨carrier, session, all⟩ := handed_of_accepts accepts
      rw [all, List.mem_map] at again
      obtain ⟨held, listed, same⟩ := again
      cases same
      exact ⟨_, _, _, _, _, accepts, session, listed⟩
  | filed appends unregistered holds steps =>
      obtain ⟨new, appended, fresh⟩ := steps.fresh consistent.wellFormed.counter
      rw [emitted_of_append appends appended] at again
      exact absurd older (Nat.not_lt.2 (fresh _ again))

/-! ## Recorded texts and replays -/

/-- The text of an outstanding command carries its number, and the replay
behind a synchronization holds earlier commands of its room and worker. -/
structure Filed (table : RoomTable) : Prop where
  texts : ∀ (requestId : Nat) (command : Sfu.Command),
    table.unacknowledgedCommands[requestId]? = some command ->
    command.requestId = requestId ∧ requestId < table.nextSfuRequestId ∧
      ∃ pending, table.pendingCommands[requestId]? = some pending ∧
        pending.isSync = commandIsSync command.command
  replays : ∀ (requestId : Nat) instanceId roomId assignmentEpoch replay,
    table.pendingCommands[requestId]? =
      some (.syncRoom instanceId roomId assignmentEpoch replay) ->
    ∀ command ∈ replay, command.requestId < table.nextSfuRequestId ∧
      commandRoomId command = roomId ∧
      commandIsSync command.command = false ∧
      ∀ owner, table.commandWorkers[command.requestId]? = some owner ->
        owner = instanceId

namespace Filed

variable {table after : RoomTable}

theorem new (reconnectGrace : Duration) :
    Filed (RoomTable.new reconnectGrace) where
  texts := by simp
  replays := by simp

theorem silent
    (filed : Filed table)
    (same : ∀ requestId, SameCommand table after requestId)
    (next : after.nextSfuRequestId = table.nextSfuRequestId) :
    Filed after where
  texts requestId command text := by
    rw [(same requestId).2.2] at text
    rw [(same requestId).1, next]
    exact filed.texts requestId command text
  replays requestId instanceId roomId assignmentEpoch replay outstanding command
      listed := by
    rw [(same requestId).1] at outstanding
    rw [next, (same command.requestId).2.1]
    exact filed.replays requestId instanceId roomId assignmentEpoch replay
      outstanding command listed

theorem pushActions
    (filed : Filed table)
    (actions : List Action) :
    Filed (table.pushActions actions) :=
  filed.silent (fun _ => by simp [SameCommand]) (by simp)

theorem connect
    (filed : Filed table)
    (connectionId : Sfu.ConnectionId)
    (instanceId : InstanceId)
    (capacity : Sfu.Capacity) :
    Filed (table.connectWorker connectionId instanceId capacity) :=
  filed.silent (fun _ => ⟨rfl, rfl, rfl⟩) rfl

theorem retire
    (filed : Filed table)
    (answered : Nat) :
    Filed (table.retireCommand answered) where
  texts requestId command text := by
    simp only [retireCommand_unacknowledgedCommands, ExtTreeMap.getElem?_erase]
      at text
    split at text
    · cases text
    · rename_i other
      obtain ⟨same, below, pending, outstanding, agrees⟩ :=
        filed.texts requestId command text
      refine ⟨same, below, pending, ?_, agrees⟩
      rw [retireCommand_pendingCommands, ExtTreeMap.getElem?_erase, if_neg other]
      exact outstanding
  replays requestId instanceId roomId assignmentEpoch replay outstanding command
      listed := by
    simp only [retireCommand_pendingCommands, ExtTreeMap.getElem?_erase]
      at outstanding
    split at outstanding
    · cases outstanding
    obtain ⟨below, about, original, owned⟩ := filed.replays requestId instanceId
      roomId assignmentEpoch replay outstanding command listed
    refine ⟨below, about, original, fun owner named => owned owner ?_⟩
    simp only [retireCommand_commandWorkers, ExtTreeMap.getElem?_erase] at named
    split at named
    · cases named
    · exact named

theorem retireAll
    (filed : Filed table)
    (requestIds : List Nat) :
    Filed (table.retireAll requestIds) := by
  induction requestIds generalizing table with
  | nil => exact filed
  | cons requestId requestIds inductionHypothesis =>
      exact inductionHypothesis (filed.retire requestId)

theorem issued_next
    {instanceId : InstanceId}
    {connectionId : Sfu.ConnectionId}
    {command : Sfu.CommandKind}
    {pending : PendingCommand}
    (unspent : (table.issueCommand instanceId connectionId command
      pending).nextSfuRequestId < u64Max) :
    (table.issueCommand instanceId connectionId command
      pending).nextSfuRequestId = table.nextSfuRequestId + 1 := by
  simp only [issueCommand_nextSfuRequestId, saturatingAdd, u64Max]
    at unspent ⊢
  omega

theorem extend
    {instanceId : InstanceId}
    {connectionId : Sfu.ConnectionId}
    {command : Sfu.CommandKind}
    {pending : PendingCommand}
    (filed : Filed table)
    (agrees : pending.isSync = commandIsSync command)
    (unspent : (table.issueCommand instanceId connectionId command
      pending).nextSfuRequestId < u64Max)
    (replays : ∀ expected roomId assignmentEpoch replay,
      pending = .syncRoom expected roomId assignmentEpoch replay ->
      ∀ command ∈ replay, command.requestId < table.nextSfuRequestId ∧
        commandRoomId command = roomId ∧
        commandIsSync command.command = false ∧
        ∀ owner, table.commandWorkers[command.requestId]? = some owner ->
          owner = expected) :
    Filed (table.issueCommand instanceId connectionId command pending) := by
  have grown := issued_next unspent
  constructor
  · intro requestId recorded text
    rw [grown]
    simp only [issueCommand_unacknowledgedCommands,
      issueCommand_pendingCommands, ExtTreeMap.getElem?_insert] at text ⊢
    split at text
    · rename_i same
      cases text
      have same := Std.LawfulEqCmp.eq_of_compare same
      subst same
      exact ⟨rfl, Nat.lt_succ_self _, pending, by simp, agrees⟩
    · rename_i other
      obtain ⟨same, below, record, outstanding, kind⟩ :=
        filed.texts requestId recorded text
      exact ⟨same, Nat.lt_succ_of_lt below, record,
        by rw [if_neg other]; exact outstanding, kind⟩
  · intro requestId otherId roomId assignmentEpoch replay outstanding held
      waits
    rw [grown]
    have kept : held.requestId < table.nextSfuRequestId ∧
        commandRoomId held = roomId ∧
        commandIsSync held.command = false ∧
        ∀ owner, table.commandWorkers[held.requestId]? = some owner ->
          owner = otherId := by
      simp only [issueCommand_pendingCommands, ExtTreeMap.getElem?_insert]
        at outstanding
      split at outstanding
      · exact replays otherId roomId assignmentEpoch replay
          (Option.some.inj outstanding) held waits
      · exact filed.replays requestId otherId roomId assignmentEpoch replay
          outstanding held waits
    obtain ⟨below, about, original, owned⟩ := kept
    refine ⟨Nat.lt_succ_of_lt below, about, original, fun owner named =>
      owned owner ?_⟩
    have other : ¬compare table.nextSfuRequestId held.requestId = .eq := by
      rw [compare_eq_iff_eq]
      exact below.ne'
    rwa [issueCommand_commandWorkers, ExtTreeMap.getElem?_insert,
      if_neg other] at named

/-- A replay holds commands of its room and worker that were issued before, and
no synchronization. -/
theorem replayFor
    (filed : Filed table)
    (order : VisitOrder)
    (instanceId : InstanceId)
    (roomId : RoomId) :
    ∀ command ∈ table.replayFor order instanceId roomId,
      command.requestId < table.nextSfuRequestId ∧
        commandRoomId command = roomId ∧
        commandIsSync command.command = false ∧
        ∀ owner, table.commandWorkers[command.requestId]? = some owner ->
          owner = instanceId := by
  intro command listed
  simp only [RoomTable.replayFor, List.mem_filterMap, List.mem_filter,
    Bool.and_eq_true, Bool.not_eq_true', Option.filter_eq_some_iff,
    decide_eq_true_eq, HashOrder.mem_visit] at listed
  obtain ⟨⟨requestId, worker⟩, ⟨recorded, mine, original⟩, text, about⟩ := listed
  obtain ⟨same, below, pending, outstanding, agrees⟩ :=
    filed.texts requestId command text
  subst same
  refine ⟨below, about, by simpa [outstanding, agrees] using original,
    fun owner named => ?_⟩
  have first := ExtTreeMap.mem_toList_iff_getElem?_eq_some.1 recorded
  rw [named] at first
  cases first
  exact mine

/-- A room that is present is synchronized by one more command. -/
theorem syncAssignedRoom_eq
    {roomId : RoomId}
    {room : Room}
    (order : VisitOrder)
    (instanceId : InstanceId)
    (connectionId : Sfu.ConnectionId)
    (found : table.rooms[roomId]? = some room) :
    ∃ members, syncAssignedRoom order instanceId connectionId table roomId =
      table.issueCommand instanceId connectionId
        (.syncRoom ⟨roomId, room.assignmentEpoch, members⟩)
        (.syncRoom instanceId roomId room.assignmentEpoch
          (table.replayFor order instanceId roomId)) :=
  ⟨_, by simp only [syncAssignedRoom, found]; rfl⟩

/-- The numbers that the synchronizations of a registration leave room for. -/
theorem syncRooms_next_le
    (order : VisitOrder)
    (instanceId : InstanceId)
    (connectionId : Sfu.ConnectionId)
    (roomIds : List RoomId)
    (bounded : table.nextSfuRequestId ≤ u64Max) :
    table.nextSfuRequestId ≤ (roomIds.foldl (syncAssignedRoom order instanceId
        connectionId) table).nextSfuRequestId ∧
      (roomIds.foldl (syncAssignedRoom order instanceId connectionId)
        table).nextSfuRequestId ≤ u64Max := by
  induction roomIds generalizing table with
  | nil => exact ⟨Nat.le_refl _, bounded⟩
  | cons roomId roomIds inductionHypothesis =>
      rw [List.foldl_cons]
      cases found : table.rooms[roomId]? with
      | none =>
          simp only [syncAssignedRoom, found]
          exact inductionHypothesis bounded
      | some room =>
          obtain ⟨members, asked⟩ := syncAssignedRoom_eq order instanceId
            connectionId found
          have grown := table.issueCommand_next_le instanceId connectionId
            (.syncRoom ⟨roomId, room.assignmentEpoch, members⟩)
            (.syncRoom instanceId roomId room.assignmentEpoch
              (table.replayFor order instanceId roomId)) bounded
          obtain ⟨older, within⟩ := inductionHypothesis grown.2
          rw [asked]
          exact ⟨grown.1.trans older, within⟩

/-- The synchronizations of a registration change no room and no worker. -/
theorem syncRooms_kept
    {order : VisitOrder}
    {instanceId : InstanceId}
    {connectionId : Sfu.ConnectionId}
    (roomIds : List RoomId) :
    (roomIds.foldl (syncAssignedRoom order instanceId connectionId)
        table).rooms = table.rooms ∧
      (roomIds.foldl (syncAssignedRoom order instanceId connectionId)
        table).workers = table.workers := by
  induction roomIds generalizing table with
  | nil => exact ⟨rfl, rfl⟩
  | cons roomId roomIds inductionHypothesis =>
      rw [List.foldl_cons]
      obtain ⟨rooms, workers⟩ := @inductionHypothesis
        (table.syncAssignedRoom order instanceId connectionId roomId)
      rw [rooms, workers]
      unfold RoomTable.syncAssignedRoom
      split <;> exact ⟨rfl, rfl⟩

/-- The synchronizations of a registration leave older commands alone. -/
theorem syncRooms_same
    {order : VisitOrder}
    {instanceId : InstanceId}
    {connectionId : Sfu.ConnectionId}
    (roomIds : List RoomId)
    (bounded : table.nextSfuRequestId ≤ u64Max)
    {requestId : Nat}
    (older : requestId < table.nextSfuRequestId) :
    SameCommand table (roomIds.foldl
      (syncAssignedRoom order instanceId connectionId) table) requestId := by
  induction roomIds generalizing table with
  | nil => exact ⟨rfl, rfl, rfl⟩
  | cons roomId roomIds inductionHypothesis =>
      rw [List.foldl_cons]
      cases found : table.rooms[roomId]? with
      | none =>
          simp only [syncAssignedRoom, found]
          exact inductionHypothesis bounded older
      | some room =>
          obtain ⟨members, asked⟩ := syncAssignedRoom_eq order instanceId
            connectionId found
          have grown := table.issueCommand_next_le instanceId connectionId
            (.syncRoom ⟨roomId, room.assignmentEpoch, members⟩)
            (.syncRoom instanceId roomId room.assignmentEpoch
              (table.replayFor order instanceId roomId)) bounded
          rw [asked]
          obtain ⟨pending, worker, text⟩ := inductionHypothesis grown.2
            (lt_of_lt_of_le older grown.1)
          have other : ¬table.nextSfuRequestId = requestId := older.ne'
          simp only [SameCommand, pending, worker, text,
            issueCommand_pendingCommands, issueCommand_commandWorkers,
            issueCommand_unacknowledgedCommands, ExtTreeMap.getElem?_insert,
            compare_eq_iff_eq, if_neg other, and_self]

theorem syncRooms
    {order : VisitOrder}
    {instanceId : InstanceId}
    {connectionId : Sfu.ConnectionId}
    (roomIds : List RoomId)
    (filed : Filed table)
    (bounded : table.nextSfuRequestId ≤ u64Max)
    (unspent : (roomIds.foldl (syncAssignedRoom order instanceId connectionId)
      table).nextSfuRequestId < u64Max) :
    Filed (roomIds.foldl (syncAssignedRoom order instanceId connectionId)
      table) := by
  induction roomIds generalizing table with
  | nil => exact filed
  | cons roomId roomIds inductionHypothesis =>
      rw [List.foldl_cons] at unspent ⊢
      cases found : table.rooms[roomId]? with
      | none =>
          simp only [syncAssignedRoom, found] at unspent ⊢
          exact inductionHypothesis filed bounded unspent
      | some room =>
          obtain ⟨members, asked⟩ := syncAssignedRoom_eq order instanceId
            connectionId found
          rw [asked] at unspent ⊢
          have grown := table.issueCommand_next_le instanceId connectionId
            (.syncRoom ⟨roomId, room.assignmentEpoch, members⟩)
            (.syncRoom instanceId roomId room.assignmentEpoch
              (table.replayFor order instanceId roomId)) bounded
          refine inductionHypothesis (filed.extend rfl (lt_of_le_of_lt
            (syncRooms_next_le order instanceId connectionId roomIds grown.2).1
              unspent) ?_) grown.2 unspent
          intro expected otherRoom assignmentEpoch replay same
          cases same
          exact filed.replayFor order instanceId roomId

theorem ledger
    {issues : InstanceId -> Sfu.Command -> PendingCommand -> Prop}
    {retires : Nat -> Prop}
    (filed : Filed table)
    (steps : Ledger issues retires (fun _ _ => False) table after)
    (bounded : table.nextSfuRequestId ≤ u64Max)
    (unspent : after.nextSfuRequestId < u64Max)
    (original : ∀ instanceId command pending,
      issues instanceId command pending -> pending.isSync = false) :
    Filed after := by
  induction steps with
  | refl => exact filed
  | tail earlier step inductionHypothesis =>
      have within := (Ledger.next_le earlier bounded).2
      have grown := (Ledger.next_le (Relation.ReflTransGen.single step)
        within).1
      have kept := inductionHypothesis (by omega)
      cases step with
      | silent new same next connections queued nothing =>
          exact kept.silent same next
      | connect capacity allowed => exact allowed.elim
      | issue connected agrees allowed =>
          refine kept.extend agrees unspent ?_
          rintro expected roomId assignmentEpoch replay rfl
          cases original _ _ _ allowed
      | retire allowed => exact kept.retire _

/-- Every call keeps the records filed. -/
theorem step
    {call : Call}
    (filed : Filed table)
    (consistent : table.Consistent)
    (unspent : (table.step call).nextSfuRequestId < u64Max) :
    Filed (table.step call) := by
  have bounded := consistent.wellFormed.counter
  cases step_filing consistent call with
  | polled rest polls stepped =>
      rw [stepped]
      exact filed.silent (fun _ => ⟨rfl, rfl, rfl⟩) rfl
  | registered asked stepped =>
      rename_i connectionId instanceId requestId capacity
      rw [stepped] at unspent ⊢
      rcases registerWorker_cases table call.order connectionId instanceId
        requestId capacity with ⟨notice, -, -, refused⟩ | ⟨notices, -, bound⟩
      · rw [refused]
        exact filed.pushActions [notice]
      · rw [bound] at unspent ⊢
        exact (((filed.connect connectionId instanceId capacity).pushActions
          notices).retireAll (table.syncsOf instanceId)).syncRooms _
            (by simpa [RoomTable.connectWorker] using bounded) unspent
  | released accepts outstanding connected stepped =>
      rw [stepped]
      exact (filed.retire _).pushActions _
  | filed _ _ _ steps =>
      exact filed.ledger steps bounded unspent fun _ _ _ issued => issued.1

end Filed

/-- The records are filed along every run whose numbers last. -/
theorem filed_of_run
    {reconnectGrace : Duration}
    {history : History}
    {table : RoomTable}
    (run : (machine reconnectGrace).Run history table)
    (unspent : table.nextSfuRequestId < u64Max) :
    Filed table := by
  have free : Machine.Guarded (fun _ _ => True) history := fun _ _ => trivial
  have kept := run.history_invariant
    (fun _ table => table.Consistent ∧
      (table.nextSfuRequestId < u64Max -> Filed table))
    (fun state starts => by
      cases starts
      exact ⟨Consistent.new reconnectGrace, fun _ => Filed.new _⟩)
    (fun _ table call _ _ kept => ⟨kept.1.step call, fun unspent =>
      (kept.2 (lt_of_le_of_lt (kept.1.next_le call) unspent)).step kept.1
        unspent⟩) free
  exact kept.2 unspent

end V2
end Signaling
