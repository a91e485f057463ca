import Signaling.V2.Emissions
import Signaling.V2.Order

/-!
# A refused upgrade

While the worker of an upgrade confirms one join after the other, calls about
other rooms leave the upgrading room alone. When the worker refuses a join, the
room is again what it was before the admission, and the worker is asked to leave
the clients that it had joined.
-/

namespace Signaling
namespace V2

open Std (ExtTreeMap ExtTreeSet)
open RoomTable

/-- The room that a recorded command is about. -/
def PendingCommand.room? : PendingCommand -> Option RoomId
  | .syncRoom _ roomId _ _ | .upgradeJoin _ roomId _ _ _
  | .sfuJoin _ roomId _ _ _ | .sfuLeave _ roomId _ _ _ => some roomId
  | .signal | .cleanup => none

/-- The room that a call of a client names. -/
def Operation.room? : Operation -> Option RoomId
  | .admitClient _ _ roomId _ _ | .register roomId _ _
  | .deregister _ roomId _ | .send roomId _ _ _ | .remove _ roomId _ _ =>
      some roomId
  | _ => none

/-- The call concerns the room: it names the room, answers one of its commands,
reports its failure, or comes when the grace of its worker has passed. -/
inductive Call.Concerns
    (call : Call)
    (table : RoomTable)
    (roomId : RoomId) : Prop
  | names (named : call.operation.room? = some roomId)
  | answers
      {instanceId : InstanceId} {requestId : Nat} {pending : PendingCommand}
      {result : Except Sfu.Error Sfu.CommandOk}
      (answers : call.Answers table instanceId requestId pending result)
      (about : pending.room? = some roomId)
  | reports
      {instanceId : InstanceId}
      (reports : call.Reports table instanceId roomId)
  | expires
      {now : Instant} {instanceId : InstanceId}
      (asked : call.operation = .handleTimeout now)
      (expires : table.Expires now instanceId)
      (lists : table.Lists instanceId roomId)

/-- The join that the upgrade of a room waits for. -/
def RoomTable.awaitedJoin?
    (table : RoomTable)
    (roomId : RoomId) : Option PendingCommand := do
  let room ← table.rooms[roomId]?
  let upgrade ← room.upgrade
  let clientId ← upgrade.orderedClients[upgrade.nextClient]?
  let member ← room.members[clientId]?
  let instanceId ← room.assignedInstance
  return .upgradeJoin instanceId roomId clientId member.lifecycleId
    room.assignmentEpoch

/-- After the admission the worker has confirmed the given number of joins of
the room, and nothing else has concerned the room. -/
inductive Underway
    (roomId : RoomId)
    (instanceId : InstanceId)
    (start : RoomTable)
    (admission : Call) :
    Nat -> History -> RoomTable -> Prop
  | begins :
      Underway roomId instanceId start admission 0 [(start, admission)]
        (start.step admission)
  | aside
      {confirmed : Nat} {history : History} {table : RoomTable}
      (call : Call)
      (earlier : Underway roomId instanceId start admission confirmed history
        table)
      (elsewhere : ¬call.Concerns table roomId) :
      Underway roomId instanceId start admission confirmed
        ((table, call) :: history) (table.step call)
  | confirms
      {confirmed : Nat} {history : History} {table : RoomTable} {call : Call}
      {requestId : Nat} {pending : PendingCommand}
      (earlier : Underway roomId instanceId start admission confirmed history
        table)
      (unfinished : confirmed < 2)
      (accepts : call.Accepts table instanceId requestId pending)
      (awaited : table.awaitedJoin? roomId = some pending) :
      Underway roomId instanceId start admission (confirmed + 1)
        ((table, call) :: history) (table.step call)

namespace Room

/-- The room apart from the deadline of its downgrade. -/
def SameButDeadline (room other : Room) : Prop :=
  ∃ deadline, other = { room with downgradeDeadline := deadline }

theorem SameButDeadline.refl (room : Room) : room.SameButDeadline room :=
  ⟨room.downgradeDeadline, rfl⟩

theorem SameButDeadline.trans
    {room middle after : Room}
    (earlier : room.SameButDeadline middle)
    (later : middle.SameButDeadline after) :
    room.SameButDeadline after := by
  obtain ⟨_, rfl⟩ := earlier
  obtain ⟨deadline, rfl⟩ := later
  exact ⟨deadline, rfl⟩

end Room

/-! ## What is held back for a room -/

/-- Every recorded synchronization holds back commands of its own room only. -/
def RoomTable.HoldsOwn (table : RoomTable) : Prop :=
  ∀ (requestId : Nat) instanceId roomId assignmentEpoch replay,
    table.pendingCommands[requestId]? =
      some (.syncRoom instanceId roomId assignmentEpoch replay) ->
    ∀ command ∈ replay, commandRoomId command = roomId

namespace Ledger

variable
  {issues : InstanceId -> Sfu.Command -> PendingCommand -> Prop}
  {retires : Nat -> Prop}
  {connects : InstanceId -> Sfu.ConnectionId -> Prop}
  {table after : RoomTable}

/-- Everything that is handed out was issued. -/
theorem issued
    (ledger : Ledger issues retires connects table after) :
    ∃ new, after.actions = table.actions ++ new ∧
      ∀ entry ∈ handed new, ∃ instanceId pending,
        issues instanceId entry.2 pending := by
  induction ledger with
  | refl => exact ⟨[], by simp, by simp [handed]⟩
  | tail earlier step inductionHypothesis =>
      rename_i middle last
      obtain ⟨new, appended, all⟩ := inductionHypothesis
      cases step with
      | silent more same next connections queued nothing =>
          refine ⟨new ++ more, by rw [queued, appended, List.append_assoc], ?_⟩
          rwa [handed_append, nothing, List.append_nil]
      | connect capacity allowed => exact ⟨new, appended, all⟩
      | retire allowed => exact ⟨new, appended, all⟩
      | issue connected agrees allowed =>
          rename_i instanceId connectionId command pending
          refine ⟨new ++ [.sfu (.command connectionId
            ⟨middle.nextSfuRequestId, command⟩)], ?_, ?_⟩
          · rw [issueCommand_actions, appended, List.append_assoc]
          · intro entry listed
            rw [handed_append, List.mem_append] at listed
            rcases listed with older | last
            · exact all entry older
            · rw [List.mem_singleton.1 last]
              exact ⟨instanceId, pending, allowed⟩

/-- Records that are issued hold back commands of their own room. -/
theorem holdsOwn
    (ledger : Ledger issues retires connects table after)
    (own : ∀ instanceId command pending, issues instanceId command pending ->
      pending.isSync = true -> pending.Gathers instanceId command.command)
    (holds : table.HoldsOwn) :
    after.HoldsOwn := by
  induction ledger with
  | refl => exact holds
  | tail earlier step inductionHypothesis =>
      intro requestId instanceId roomId assignmentEpoch replay outstanding
      cases step with
      | silent new same next connections queued nothing =>
          rw [(same requestId).1] at outstanding
          exact inductionHypothesis _ _ _ _ _ outstanding
      | connect capacity allowed =>
          exact inductionHypothesis _ _ _ _ _ outstanding
      | retire allowed =>
          rw [retireCommand_pendingCommands, ExtTreeMap.getElem?_erase]
            at outstanding
          split at outstanding
          · cases outstanding
          · exact inductionHypothesis _ _ _ _ _ outstanding
      | issue connected agrees allowed =>
          rw [issueCommand_pendingCommands, ExtTreeMap.getElem?_insert]
            at outstanding
          split at outstanding
          · obtain rfl := Option.some.inj outstanding
            obtain ⟨_, _, _, _, -, same, gathered⟩ := own _ _ _ allowed rfl
            obtain ⟨-, rfl, -, rfl⟩ := PendingCommand.syncRoom.inj same
            exact gathered
          · exact inductionHypothesis _ _ _ _ _ outstanding

end Ledger

/-- A registration goes through the ledger: it binds the worker to its
connection, forgets old synchronizations and asks for new ones. -/
theorem registerWorker_ledger
    (table : RoomTable)
    (order : VisitOrder)
    (connectionId : Sfu.ConnectionId)
    (instanceId : InstanceId)
    (requestId : Nat)
    (capacity : Sfu.Capacity) :
    Ledger (fun instanceId command pending =>
        pending.Gathers instanceId command.command)
      (fun _ => True) (fun _ _ => True) table
      (table.registerWorker order connectionId instanceId requestId
        capacity).2 := by
  rcases registerWorker_cases table order connectionId instanceId requestId
    capacity with ⟨notice, -, nothing, refused⟩ | ⟨notices, nothing, bound⟩
  · rw [refused]
    exact .pushActions [notice] nothing
  · rw [bound]
    refine (Relation.ReflTransGen.single (@Files.connect _ _ _ table instanceId
      connectionId capacity trivial)).trans ((Ledger.pushActions notices nothing).trans
        ((Ledger.retireAll (table.syncsOf instanceId) fun _ _ =>
          trivial).trans ?_))
    refine Relation.ReflTransGen.mono (fun before next step => ?_) _ _
      (Ledger.syncRooms order _ (by
        simp [RoomTable.connection?, RoomTable.connectWorker]))
    cases step with
    | silent new same nextId connections queued nothing =>
        exact .silent new same nextId connections queued nothing
    | connect capacity allowed => exact allowed.elim
    | issue session agrees allowed => exact .issue session agrees allowed
    | retire allowed => exact .retire trivial

theorem RoomTable.HoldsOwn.step
    {table : RoomTable}
    {call : Call}
    (holds : table.HoldsOwn)
    (consistent : table.Consistent) :
    (table.step call).HoldsOwn := by
  cases step_filing consistent call with
  | polled rest polls stepped =>
      rw [stepped]
      exact holds
  | registered asked stepped =>
      rw [stepped]
      exact (registerWorker_ledger ..).holdsOwn (fun _ _ _ gathers _ => gathers)
        holds
  | released accepts outstanding connected stepped =>
      rw [stepped]
      intro requestId instanceId roomId assignmentEpoch replay recorded
      simp only [replayCommands, pushActions_pendingCommands,
        retireCommand_pendingCommands, ExtTreeMap.getElem?_erase] at recorded
      split at recorded
      · cases recorded
      · exact holds _ _ _ _ _ recorded
  | filed appends unregistered held steps =>
      refine steps.holdsOwn (fun _ _ pending issued sync => ?_) holds
      rw [issued.1] at sync
      cases sync

theorem holdsOwn_of_run
    {reconnectGrace : Duration}
    {history : History}
    {table : RoomTable}
    (run : (machine reconnectGrace).Run history table) :
    table.HoldsOwn := by
  have reachable : (machine reconnectGrace).Reachable table := ⟨history, run⟩
  have kept := @Machine.Reachable.invariant _ _ _
    (fun table => RoomTable.Consistent table ∧ RoomTable.HoldsOwn table)
    (fun state (starts : state = RoomTable.new reconnectGrace) => by
      subst starts
      exact ⟨Consistent.new reconnectGrace, by simp [RoomTable.HoldsOwn]⟩)
    (fun state call kept => ⟨kept.1.step call, kept.2.step kept.1⟩)
    table reachable
  exact kept.2

/-! ## Calls that do not concern the room -/

section Aside

variable
  {table : RoomTable}
  {call : Call}
  {roomId : RoomId}
  {room : Room}

/-- The answered command is about the room when its record says so. -/
theorem Call.Accepts.concerns
    {instanceId : InstanceId}
    {requestId : Nat}
    {pending recorded : PendingCommand}
    (accepts : call.Accepts table instanceId requestId pending)
    (outstanding : table.pendingCommands[requestId]? = some recorded)
    (about : recorded.room? = some roomId) :
    call.Concerns table roomId := by
  obtain rfl := accepts.recorded outstanding
  obtain ⟨result, answers, -⟩ := accepts
  exact .answers answers about

theorem Call.Refuses.concerns
    {instanceId : InstanceId}
    {requestId : Nat}
    {pending recorded : PendingCommand}
    (refuses : call.Refuses table instanceId requestId pending)
    (outstanding : table.pendingCommands[requestId]? = some recorded)
    (about : recorded.room? = some roomId) :
    call.Concerns table roomId := by
  obtain rfl := refuses.recorded outstanding
  obtain ⟨result, answers, -⟩ := refuses
  exact .answers answers about

/-- A move of a call aside leaves the upgrading room as it was; at most it clears
the deadline of a downgrade. -/
theorem aside_move
    {phase phase' : Option InstanceId}
    {middle next : RoomTable}
    {move : Move}
    (elsewhere : ¬call.Concerns table roomId)
    (taken : Moved phase middle move phase' next)
    (arises : Arises table call middle move)
    (wellFormed : middle.WellFormed)
    (found : middle.rooms[roomId]? = some room)
    (mode : room.mode = .upgrading) :
    (∃ after, next.rooms[roomId]? = some after ∧ room.SameButDeadline after) ∧
      (move.room? = some roomId -> move = .clearDeadline roomId) := by
  have moved := taken.room wellFormed roomId
  have shape := wellFormed.rooms roomId room found
  obtain ⟨upgrade, running, -⟩ := shape.upgrading mode
  obtain ⟨-, -, -, noJoin, noLeave, -⟩ := shape.upgrade upgrade running
  rw [found] at moved
  generalize was : some room = before at moved
  generalize next.rooms[roomId]? = result at moved ⊢
  cases moved with
  | kept other =>
      cases was
      refine ⟨⟨room, rfl, .refl room⟩, fun about => ?_⟩
      exact absurd about (other.resolve_right nofun)
  | clearDeadline =>
      cases was
      exact ⟨⟨_, rfl, none, rfl⟩, fun _ => rfl⟩
  | dropWithGrace deadline present registered =>
      obtain ⟨-, now, asked⟩ := arises
      exact absurd (.names (by simp [Operation.room?, asked])) elsewhere
  | advanceUpgrade requestId advancing =>
      obtain ⟨rfl, instanceId, pending, accepts⟩ := arises
      cases taken with
      | advanceUpgrade outstanding =>
          exact absurd (accepts.concerns outstanding rfl) elsewhere
  | commitUpgrade requestId committing =>
      obtain ⟨rfl, instanceId, pending, accepts⟩ := arises
      cases taken with
      | commitUpgrade order outstanding =>
          exact absurd (accepts.concerns outstanding rfl) elsewhere
  | abortUpgrade requestId aborting =>
      obtain ⟨rfl, instanceId, pending, refuses⟩ := arises
      cases taken with
      | abortUpgrade reason outstanding =>
          exact absurd (refuses.concerns outstanding rfl) elsewhere
  | refuseSync requestId =>
      obtain ⟨rfl, instanceId, pending, refuses⟩ := arises
      cases taken with
      | refuseSync order outstanding =>
          exact absurd (refuses.concerns outstanding rfl) elsewhere
  | reportFailure instanceId =>
      obtain ⟨rfl, reports⟩ := arises
      exact absurd (.reports reports) elsewhere
  | expireUpgrade instanceId =>
      obtain ⟨now, asked, expires, lists, -⟩ := arises
      exact absurd (.expires asked expires lists) elsewhere
  | expireRoom instanceId settled =>
      cases was
      exact absurd mode settled
  | create => cases was
  | joinDirect _ _ _ _ _ direct | beginUpgrade _ _ _ _ _ _ _ direct
  | removeDirect _ _ _ direct | expireMembers _ direct =>
      cases was
      simp [mode] at direct
  | beginJoin _ _ _ _ _ forwarded | dropWithLeave _ _ forwarded
  | requestLeave _ forwarded | downgrade forwarded | retryLeave _ _ forwarded
  | rearmGrace _ _ _ forwarded =>
      cases was
      simp [mode] at forwarded
  | register settled | queueMessage _ settled =>
      cases was
      exact absurd mode settled
  | removeFailed _ _ _ failed =>
      cases was
      simp [mode] at failed
  | completeJoin instanceId requestId joining | refuseJoin requestId joining =>
      cases was
      simp [noJoin] at joining
  | completeLeave requestId deadline leaving | refuseLeave requestId leaving =>
      cases was
      simp [noLeave] at leaving

/-- A chain of moves of a call aside leaves the upgrading room as it was. -/
theorem aside_chain
    {state : Option InstanceId × RoomTable}
    (elsewhere : ¬call.Concerns table roomId)
    (chain : CallChain table call (none, table) state)
    (wellFormed : table.WellFormed)
    (found : table.rooms[roomId]? = some room)
    (mode : room.mode = .upgrading) :
    ∃ after, state.2.rooms[roomId]? = some after ∧
      room.SameButDeadline after := by
  have kept := Chain.invariant (fun state => state.2.WellFormed ∧
      ∃ after, state.2.rooms[roomId]? = some after ∧ room.SameButDeadline after)
    (fun state move next taken arises ⟨shape, stored, here, same⟩ => by
      have still : stored.mode = .upgrading := by
        obtain ⟨_, rfl⟩ := same
        exact mode
      obtain ⟨⟨after, there, later⟩, -⟩ := aside_move elsewhere taken arises
        shape here still
      exact ⟨shape.moved taken, after, there, same.trans later⟩)
    chain ⟨wellFormed, room, found, .refl room⟩
  exact kept.2

/-- A move hands out commands of the room that it changes, or forwards a signal.
-/
theorem Move.Commands.about
    {move : Move}
    {instanceId : InstanceId}
    (commands : move.Commands table instanceId roomId) :
    move.room? = some roomId ∨
      ∃ clientId, move = .forwardSignal roomId clientId := by
  cases move with
  | forwardSignal subject clientId =>
      obtain ⟨rfl, -⟩ := commands
      exact Or.inr ⟨clientId, rfl⟩
  | beginUpgrade | beginJoin | dropWithLeave | requestLeave | advanceUpgrade
  | abortUpgrade | downgrade | retryLeave | expireRoom =>
      obtain ⟨rfl, -⟩ := commands
      exact Or.inl rfl
  | _ => exact commands.elim

/-- A move of a call aside hands out no command of the upgrading room. -/
theorem aside_commands
    {phase phase' : Option InstanceId}
    {middle next : RoomTable}
    {move : Move}
    {instanceId : InstanceId}
    (elsewhere : ¬call.Concerns table roomId)
    (taken : Moved phase middle move phase' next)
    (arises : Arises table call middle move)
    (wellFormed : middle.WellFormed)
    (found : middle.rooms[roomId]? = some room)
    (mode : room.mode = .upgrading) :
    ¬move.Commands middle instanceId roomId := by
  intro commands
  rcases Move.Commands.about commands with about | ⟨clientId, rfl⟩
  · obtain rfl :=
      (aside_move elsewhere taken arises wellFormed found mode).2 about
    exact commands
  · obtain ⟨-, signalEpoch, message, _, asked, -⟩ := arises
    exact elsewhere (.names (by simp [Operation.room?, asked]))

/-- The texts of the joins, leaves and signals of a room among some commands. -/
def orders
    (roomId : RoomId)
    (sent : List (Sfu.ConnectionId × Sfu.Command)) : List Sfu.CommandKind :=
  (sent.filter fun entry => !commandIsSync entry.2.command
    && commandRoomId entry.2 = roomId).map (·.2.command)

/-- A call aside hands out no join, leave or signal of the upgrading room. -/
theorem aside_orders
    (elsewhere : ¬call.Concerns table roomId)
    (consistent : table.Consistent)
    (own : table.HoldsOwn)
    (found : table.rooms[roomId]? = some room)
    (mode : room.mode = .upgrading) :
    orders roomId (handed (table.emitted call)) = [] := by
  have silent {new : List Action}
      (other : ∀ entry ∈ handed new, commandIsSync entry.2.command = true ∨
        commandRoomId entry.2 ≠ roomId) :
      orders roomId (handed new) = [] := by
    simp only [orders, List.map_eq_nil_iff, List.filter_eq_nil_iff]
    intro entry listed
    rcases other entry listed with sync | foreign
    · simp [sync]
    · simp [foreign]
  cases step_filing consistent call with
  | polled rest polls stepped =>
      rw [show table.emitted call = [] by simp [RoomTable.emitted, polls]]
      rfl
  | registered asked stepped =>
      obtain ⟨new, appended, issued⟩ := (registerWorker_ledger ..).issued
      rw [← stepped] at appended
      rw [emitted_of_append (by simp [asked]) appended]
      refine silent fun entry listed => Or.inl ?_
      obtain ⟨_, _, _, _, _, _, text, -⟩ := issued entry listed
      rw [text]
      rfl
  | released accepts outstanding connected stepped =>
      obtain ⟨connectionId, -, released⟩ := handed_of_accepts accepts
      refine silent fun entry listed => Or.inr ?_
      rw [released] at listed
      obtain ⟨command, held, rfl⟩ := List.mem_map.1 listed
      rintro rfl
      rw [own _ _ _ _ _ outstanding command held] at elsewhere
      exact elsewhere (accepts.concerns outstanding rfl)
  | filed appends unregistered held steps =>
      obtain ⟨new, appended, issued⟩ := steps.issued
      rw [emitted_of_append appends appended]
      refine silent fun entry listed => Or.inr ?_
      rintro same
      obtain ⟨instanceId, pending, -, ⟨state, move, next, chain, taken, arises,
        commands⟩, -⟩ := issued entry listed
      obtain ⟨stored, here, deadline, rfl⟩ := aside_chain elsewhere chain
        consistent.wellFormed found mode
      exact aside_commands elsewhere taken arises
        (CallChain.wellFormed chain consistent.wellFormed) here mode
        (same ▸ commands)

/-- The room is waiting to answer the admission request. -/
def Room.Owes (room : Room) (authorityRequestId : Nat) : Prop :=
  (∃ upgrade, room.upgrade = some upgrade ∧
    upgrade.authorityRequestId = authorityRequestId) ∨
  ∃ join, room.pendingJoin = some join ∧
    join.authorityRequestId = authorityRequestId

/-- A move answers an admission that the room it changes owes an answer to. -/
theorem Emits.owes
    {middle : RoomTable}
    {move : Move}
    {actions : List Action}
    {authorityRequestId : Nat}
    {result : Except String Admission}
    (emits : Emits middle move actions)
    (answered : .admissionCompleted authorityRequestId result ∈ actions) :
    ∃ subject owing, move.room? = some subject ∧
      middle.rooms[subject]? = some owing ∧ owing.Owes authorityRequestId := by
  have rolled {subject : RoomId} {owing : Room} {upgrade : Upgrade}
      {reason : String}
      (running : owing.upgrade = some upgrade)
      (rolls : RollsBack middle subject owing upgrade reason actions) :
      owing.Owes authorityRequestId := by
    obtain ⟨leaves, answers, rfl, plain, answer, -⟩ := rolls
    rcases List.mem_append.1 answered with leave | last
    · exact (plain _ leave).elim
    · rcases answer with rfl | rfl
      · cases last
      · obtain ⟨rfl, -⟩ := Action.admissionCompleted.inj
          (List.mem_singleton.1 last)
        exact Or.inl ⟨upgrade, running, rfl⟩
  have failed {order : VisitOrder} {subject : RoomId} {reason : String}
      (listed : .admissionCompleted authorityRequestId result ∈
        failureActions middle order subject reason) : False := by
    unfold failureActions at listed
    split at listed <;> simp at listed
  have removed {leave : PendingLeave} {subject : RoomId} {clientId : ClientId}
      {ended : Except String Unit}
      (listed : .admissionCompleted authorityRequestId result ∈
        removalActions leave subject clientId ended) : False := by
    unfold removalActions at listed
    split at listed <;> simp at listed
  cases move with
  | dropWithLeave | requestLeave | retryLeave =>
      obtain ⟨_, _, _, _, -, -, -, -, action, rfl, plain, -⟩ := emits
      rw [← List.mem_singleton.1 answered] at plain
      exact plain.elim
  | reportFailure instanceId subject =>
      obtain ⟨order, reason, ack, plain, rfl⟩ := emits
      rcases List.mem_append.1 answered with failure | last
      · exact (failed failure).elim
      · rw [← List.mem_singleton.1 last] at plain
        exact plain.elim
  | refuseSync requestId subject =>
      obtain ⟨order, rfl⟩ := emits
      exact (failed answered).elim
  | commitUpgrade requestId subject =>
      obtain ⟨owing, upgrade, order, found, running, rfl⟩ := emits
      refine ⟨subject, owing, rfl, found, Or.inl ⟨upgrade, running, ?_⟩⟩
      split at answered
      · cases answered
      · simp only [commitActions, List.mem_cons, List.not_mem_nil, or_false,
          reduceCtorEq, false_or] at answered
        exact (Action.admissionCompleted.inj answered).1.symm
  | abortUpgrade requestId subject =>
      obtain ⟨owing, upgrade, reason, found, running, rolls⟩ := emits
      exact ⟨subject, owing, rfl, found, rolled running rolls⟩
  | completeJoin instanceId requestId subject clientId =>
      obtain ⟨owing, join, found, joining, rfl⟩ := emits
      refine ⟨subject, owing, rfl, found, Or.inr ⟨join, joining, ?_⟩⟩
      split at answered
      · cases answered
      · exact (Action.admissionCompleted.inj
          (List.mem_singleton.1 answered)).1.symm
  | refuseJoin requestId subject =>
      obtain ⟨owing, join, reason, found, joining, rfl⟩ := emits
      exact ⟨subject, owing, rfl, found, Or.inr ⟨join, joining,
        (Action.admissionCompleted.inj
          (List.mem_singleton.1 answered)).1.symm⟩⟩
  | completeLeave requestId subject clientId =>
      obtain ⟨_, leave, -, -, rfl⟩ := emits
      exact (removed answered).elim
  | refuseLeave requestId subject =>
      obtain ⟨_, leave, _, _, -, -, rfl⟩ := emits
      exact (removed answered).elim
  | expireRoom instanceId subject =>
      obtain ⟨owing, found, ⟨-, upgrade, running, rolls⟩ | ⟨-, order, rfl⟩⟩ :=
        emits
      · exact ⟨subject, owing, rfl, found, rolled running rolls⟩
      · refine ⟨subject, owing, rfl, found, Or.inr ?_⟩
        simp only [expiryActions, List.mem_append] at answered
        rcases answered with (join | leave) | last
        · split at join
          · cases join
          · next joining =>
              exact ⟨_, joining, (Action.admissionCompleted.inj
                (List.mem_singleton.1 join)).1.symm⟩
        · split at leave
          · cases leave
          · exact (removed leave).elim
        · simp at last
  | downgrade subject =>
      obtain ⟨_, _, _, _, leaves, -, -, -, rfl, plain, -⟩ := emits
      rcases List.mem_append.1 answered with leave | last
      · exact (plain _ leave).elim
      · simp at last
  | _ => exact (emits _ answered).elim

/-- What a room owes it owed before the move, unless the move begins it. -/
theorem RoomMoved.owes
    {move : Move}
    {before : Option Room}
    {after : Room}
    {authorityRequestId : Nat}
    (moved : RoomMoved roomId move before (some after))
    (owes : after.Owes authorityRequestId) :
    (∃ former, before = some former ∧ former.Owes authorityRequestId) ∨
      (∃ clientId, move = .beginUpgrade authorityRequestId roomId clientId) ∨
      ∃ clientId, move = .beginJoin authorityRequestId roomId clientId := by
  have same {former : Room}
      (upgrade : after.upgrade = former.upgrade ∨ after.upgrade = none)
      (join : after.pendingJoin = former.pendingJoin ∨
        after.pendingJoin = none) :
      former.Owes authorityRequestId := by
    refine owes.imp (fun ⟨running, stored, id⟩ => ?_)
      fun ⟨joining, stored, id⟩ => ?_
    · rcases upgrade with kept | gone
      · exact ⟨running, kept ▸ stored, id⟩
      · simp [gone] at stored
    · rcases join with kept | gone
      · exact ⟨joining, kept ▸ stored, id⟩
      · simp [gone] at stored
  generalize becomes : some after = result at moved
  cases moved with
  | kept =>
      cases becomes
      exact Or.inl ⟨after, rfl, owes⟩
  | create =>
      cases becomes
      simp [Room.Owes, Room.create] at owes
  | @beginUpgrade former clientId requestId =>
      cases becomes
      rcases owes with ⟨upgrade, running, rfl⟩ | ⟨join, joining, id⟩
      · obtain rfl := Option.some.inj running
        exact Or.inr (Or.inl ⟨clientId, rfl⟩)
      · exact Or.inl ⟨former, rfl, Or.inr ⟨join, joining, id⟩⟩
  | @beginJoin former clientId requestId =>
      cases becomes
      rcases owes with ⟨upgrade, running, id⟩ | ⟨join, joining, rfl⟩
      · exact Or.inl ⟨former, rfl, Or.inl ⟨upgrade, running, id⟩⟩
      · obtain rfl := Option.some.inj joining
        exact Or.inr (Or.inr ⟨clientId, rfl⟩)
  | advanceUpgrade requestId upgrading =>
      cases becomes
      refine Or.inl ⟨_, rfl, owes.imp_left ?_⟩
      rintro ⟨upgrade, running, rfl⟩
      obtain rfl := Option.some.inj running
      exact ⟨_, upgrading, rfl⟩
  | register =>
      cases becomes
      exact Or.inl ⟨_, rfl, same (by simp) (by simp)⟩
  | removeDirect | expireMembers =>
      obtain rfl := Room.eq_of_stored becomes.symm
      exact Or.inl ⟨_, rfl, same (by simp) (by simp)⟩
  | removeFailed | completeLeave =>
      obtain rfl := Room.eq_of_stored becomes.symm
      exact Or.inl ⟨_, rfl, same (Or.inl rfl) (Or.inl rfl)⟩
  | _ =>
      -- The records are kept or dropped.
      cases becomes
      refine Or.inl ⟨_, rfl, same ?_ ?_⟩ <;>
        first | exact Or.inl rfl | exact Or.inr rfl

/-- Only a call that sweeps makes a move in a table that it has changed. -/
theorem Arises.settled
    {middle : RoomTable}
    {move : Move}
    (arises : Arises table call middle move) :
    middle = table ∨ call.Sweeps := by
  cases move with
  | connectWorker | syncRoom =>
      obtain ⟨connectionId, requestId, capacity, asked⟩ := arises
      exact Or.inr (by simp [Call.Sweeps, asked])
  | beginExpiry | expireRoom | endExpiry | clearDeadline | rearmGrace
  | expireMembers =>
      have ⟨now, asked⟩ : ∃ now, call.operation = .handleTimeout now := by
        grind [Arises]
      exact Or.inr (by simp [Call.Sweeps, asked])
  | downgrade =>
      obtain ⟨now, _, asked, -⟩ := arises
      exact Or.inr (by simp [Call.Sweeps, asked])
  | retryLeave =>
      obtain ⟨now, asked, -⟩ := arises
      exact Or.inr (by simp [Call.Sweeps, asked])
  | _ => exact Or.inl arises.1

/-- The answers of a call aside are owed by other rooms. -/
theorem aside_answers
    {authorityRequestId : Nat}
    {result : Except String Admission}
    (elsewhere : ¬call.Concerns table roomId)
    (consistent : table.Consistent)
    (found : table.rooms[roomId]? = some room)
    (mode : room.mode = .upgrading)
    (answered : .admissionCompleted authorityRequestId result ∈
      table.emitted call) :
    ∃ otherId other, otherId ≠ roomId ∧ table.rooms[otherId]? = some other ∧
      other.Owes authorityRequestId := by
  by_cases appends : call.operation = .pollAction
  · simp [RoomTable.emitted, appends] at answered
  have kept := consistent.emitted_invariant
    (fun _ middle actions =>
      (∃ stored, middle.rooms[roomId]? = some stored ∧
        room.SameButDeadline stored) ∧
      (call.Sweeps -> ∀ otherId stored, otherId ≠ roomId ->
        middle.rooms[otherId]? = some stored -> stored.Owes authorityRequestId ->
        ∃ other, table.rooms[otherId]? = some other ∧
          other.Owes authorityRequestId) ∧
      (.admissionCompleted authorityRequestId result ∈ actions ->
        ∃ otherId other, otherId ≠ roomId ∧
          table.rooms[otherId]? = some other ∧ other.Owes authorityRequestId))
    appends
    (fun phase middle earlier move phase' next actions taken arises sound emits
      sofar => by
      obtain ⟨⟨stored, here, same⟩, origin, past⟩ := sofar
      have still : stored.mode = .upgrading := by
        obtain ⟨_, rfl⟩ := same
        exact mode
      obtain ⟨⟨after, there, later⟩, spared⟩ := aside_move elsewhere taken arises
        sound.wellFormed here still
      refine ⟨⟨after, there, same.trans later⟩, fun sweeps otherId stored other
        holds owes => ?_, fun listed => ?_⟩
      · have moved := taken.room sound.wellFormed otherId
        rw [holds] at moved
        rcases moved.owes owes with ⟨former, was, owed⟩ | ⟨clientId, rfl⟩ |
          ⟨clientId, rfl⟩
        · exact origin sweeps otherId former other was owed
        · obtain ⟨-, now, token, asked⟩ := arises
          simp [Call.Sweeps, asked] at sweeps
        · obtain ⟨-, now, token, asked⟩ := arises
          simp [Call.Sweeps, asked] at sweeps
      · rcases List.mem_append.1 listed with before | last
        · exact past before
        · obtain ⟨subject, owing, about, holds, owes⟩ := emits.owes last
          have other : subject ≠ roomId := by
            rintro rfl
            obtain rfl := spared about
            exact emits _ last
          rcases arises.settled with rfl | sweeps
          · exact ⟨subject, owing, other, holds, owes⟩
          · obtain ⟨former, was, owed⟩ :=
              origin sweeps subject owing other holds owes
            exact ⟨subject, former, other, was, owed⟩)
    ⟨⟨room, found, .refl room⟩, fun _ otherId stored _ was owed =>
      ⟨stored, was, owed⟩, by simp⟩
  exact kept.2.2 answered

end Aside

/-! ## The stages of an upgrade -/

/-- What an upgrade asks the worker for: the joins of the former members, in
order, and of the client that joins the room, under fresh lifecycles. -/
structure UpgradePlan where
  authorityRequestId : Nat
  joiningClientId : ClientId
  instanceId : InstanceId
  assignmentEpoch : Nat
  lifecycle : ClientId -> Nat
  clients : List ClientId

namespace UpgradePlan

def order (plan : UpgradePlan) : List ClientId :=
  plan.clients ++ [plan.joiningClientId]

/-- The join of a client, as the worker is asked for it. -/
def join
    (plan : UpgradePlan)
    (roomId : RoomId)
    (clientId : ClientId) : Sfu.CommandKind :=
  .join ⟨roomId, clientId, plan.lifecycle clientId, plan.assignmentEpoch⟩

/-- The leave that takes the join of a client back. -/
def leave
    (plan : UpgradePlan)
    (roomId : RoomId)
    (clientId : ClientId) : Sfu.CommandKind :=
  .leave ⟨roomId, clientId, plan.lifecycle clientId, plan.assignmentEpoch,
    .roomClosed⟩

end UpgradePlan

theorem orders_join
    (plan : UpgradePlan)
    (roomId : RoomId)
    (clientId : ClientId)
    (connectionId : Sfu.ConnectionId)
    (requestId : Nat) :
    orders roomId (handed [.sfu (.command connectionId
      ⟨requestId, plan.join roomId clientId⟩)]) =
        [plan.join roomId clientId] := by
  simp [orders, handed, Action.command?, commandIsSync, commandRoomId,
    UpgradePlan.join]

/-- The client is a member as it was one before, but for the lifecycle, which is
that of the upgrade. -/
def Room.Relives
    (former room : Room)
    (plan : UpgradePlan)
    (clientId : ClientId) : Prop :=
  room.members[clientId]? = former.members[clientId]?.map fun member =>
    { member with lifecycleId := plan.lifecycle clientId }

/-- The upgrading room when the given number of joins has been confirmed. -/
structure Room.Stage
    (former : Room)
    (plan : UpgradePlan)
    (confirmed : Nat)
    (room : Room) : Prop where
  mode : room.mode = .upgrading
  signalEpoch : room.signalEpoch = former.signalEpoch
  assignmentEpoch : room.assignmentEpoch = plan.assignmentEpoch
  assigned : room.assignedInstance = some plan.instanceId
  upgrade : room.upgrade = some
    ⟨plan.authorityRequestId, plan.joiningClientId, plan.order,
      plan.order.take confirmed, confirmed⟩
  members : ∀ clientId : ClientId, clientId ≠ plan.joiningClientId ->
    former.Relives room plan clientId
  joining : ∃ member, room.members[plan.joiningClientId]? = some member ∧
    member.lifecycleId = plan.lifecycle plan.joiningClientId

theorem Room.Stage.same
    {former room after : Room}
    {plan : UpgradePlan}
    {confirmed : Nat}
    (stage : former.Stage plan confirmed room)
    (same : room.SameButDeadline after) :
    former.Stage plan confirmed after := by
  obtain ⟨deadline, rfl⟩ := same
  exact ⟨stage.mode, stage.signalEpoch, stage.assignmentEpoch, stage.assigned,
    stage.upgrade, stage.members, stage.joining⟩

section Stages

variable
  {table : RoomTable}
  {call : Call}
  {roomId : RoomId}
  {former room : Room}
  {plan : UpgradePlan}
  {confirmed : Nat}

/-- The clients of the plan are the former members. -/
structure UpgradePlan.Covers
    (plan : UpgradePlan)
    (former : Room) : Prop where
  clients : plan.clients.Perm former.members.keys
  joining : plan.joiningClientId ∉ former.members

theorem Room.Stage.member
    {clientId : ClientId}
    (stage : former.Stage plan confirmed room)
    (covers : plan.Covers former)
    (listed : clientId ∈ plan.order) :
    ∃ member, room.members[clientId]? = some member ∧
      member.lifecycleId = plan.lifecycle clientId := by
  rcases List.mem_append.1 listed with joined | last
  · have inside : clientId ∈ former.members :=
      ExtTreeMap.mem_keys.1 (covers.clients.subset joined)
    have other : clientId ≠ plan.joiningClientId := by
      rintro rfl
      exact covers.joining inside
    obtain ⟨member, found⟩ := Option.isSome_iff_exists.1
      (ExtTreeMap.mem_iff_isSome_getElem?.1 inside)
    have relives := stage.members clientId other
    rw [Room.Relives, found] at relives
    exact ⟨_, relives, rfl⟩
  · rw [List.mem_singleton.1 last]
    exact stage.joining

/-- The admission starts the upgrade and asks for the first join. -/
theorem begins_stage
    {authorityRequestId : Nat}
    {now : Instant}
    {joiningClientId : ClientId}
    {token : String}
    {instanceId : InstanceId}
    (asked : call.operation =
      .admitClient authorityRequestId now roomId joiningClientId token)
    (found : table.rooms[roomId]? = some former)
    (direct : former.mode = .p2p)
    (pair : former.members.size = 2)
    (third : former.members.contains joiningClientId = false)
    (selected : table.selectWorker 3 = some instanceId) :
    ∃ plan : UpgradePlan, plan.authorityRequestId = authorityRequestId ∧
      plan.joiningClientId = joiningClientId ∧ plan.instanceId = instanceId ∧
      plan.Covers former ∧
      (∃ room, (table.step call).rooms[roomId]? = some room ∧
        former.Stage plan 0 room) ∧
      orders roomId (handed (table.emitted call)) =
        (plan.order.take 1).map (plan.join roomId) ∧
      ∀ action ∈ table.emitted call, action.Plain := by
  have full : ¬former.members.size < maxP2pMembers := by
    simp [pair, maxP2pMembers]
  obtain ⟨lifecycle, counters, lifecycleId, first, joining, connectionId, head,
    present, connected, begun⟩ := beginUpgrade_eq authorityRequestId now token
      roomId third full selected
  have absent : joiningClientId ∉ former.members := by
    rw [← ExtTreeMap.contains_iff_mem, third]
    exact Bool.false_ne_true
  have stepped : table.step call = (table.beginUpgrade authorityRequestId now
      roomId former joiningClientId token instanceId).2 := by
    simp [RoomTable.step, asked, admitClient, found, third, direct, full,
      selected]
  have appended : (table.step call).actions = table.actions ++
      [.sfu (.command connectionId ⟨table.nextSfuRequestId,
        .join ⟨roomId, first, joining.lifecycleId,
          saturatingAdd former.assignmentEpoch 1⟩⟩)] := by
    rw [stepped, begun]
    rfl
  have emitted := emitted_of_append (by simp [asked]) appended
  generalize newMember now table.reconnectGrace token false lifecycleId =
    member at *
  let plan : UpgradePlan :=
    { authorityRequestId := authorityRequestId
      joiningClientId := joiningClientId
      instanceId := instanceId
      assignmentEpoch := saturatingAdd former.assignmentEpoch 1
      lifecycle := lifecycle
      clients := (former.insertMember joiningClientId member).members.keys.filter
        fun candidate => decide (candidate ≠ joiningClientId) }
  have order : upgradeOrder (former.insertMember joiningClientId member)
      joiningClientId = plan.order := rfl
  have lived (clientId : ClientId) :
      (former.startUpgrade authorityRequestId joiningClientId member lifecycle
        instanceId).members[clientId]? =
      (former.insertMember joiningClientId member).members[clientId]?.map
        fun member => { member with lifecycleId := lifecycle clientId } := by
    simp [Room.startUpgrade, Room.relive, ExtTreeMap.getElem?_map]
  refine ⟨plan, rfl, rfl, rfl, ⟨?_, absent⟩,
    ⟨former.startUpgrade authorityRequestId joiningClientId member lifecycle
      instanceId, ?_, ?_⟩, ?_, ?_⟩
  · refine (List.perm_ext_iff_of_nodup (ExtTreeMap.nodup_keys.filter _)
      ExtTreeMap.nodup_keys).2 fun clientId => ?_
    simp only [List.mem_filter, ExtTreeMap.mem_keys, Room.insertMember_members,
      ExtTreeMap.mem_insert, Std.compare_eq_iff_eq, decide_eq_true_eq]
    constructor
    · rintro ⟨rfl | inside, other⟩
      · exact absurd rfl other
      · exact inside
    · intro inside
      refine ⟨Or.inr inside, ?_⟩
      rintro rfl
      exact absent inside
  · rw [stepped, begun]
    simp only [issueCommand_rooms, modifyWorker_rooms, setRoom_rooms,
      ExtTreeMap.getElem?_insert_self]
  · refine ⟨rfl, rfl, rfl, rfl, rfl, fun clientId other => ?_, ?_⟩
    · rw [Room.Relives, lived, Room.insertMember_members,
        ExtTreeMap.getElem?_insert, if_neg (by simpa using Ne.symm other)]
    · exact ⟨{ member with lifecycleId := lifecycle joiningClientId }, by
        rw [lived]
        simp [Room.insertMember_members, plan], rfl⟩
  · rw [order] at head
    obtain ⟨rest, listed⟩ : ∃ rest, plan.order = first :: rest := by
      cases whole : plan.order with
      | nil => simp [whole] at head
      | cons other rest =>
          rw [whole] at head
          exact ⟨rest, by rw [Option.some.inj head]⟩
    have lifecycleOf : joining.lifecycleId = lifecycle first := by
      rw [lived] at present
      obtain ⟨_, -, rfl⟩ := Option.map_eq_some_iff.1 present
      rfl
    rw [emitted, listed, lifecycleOf]
    exact orders_join plan roomId first connectionId table.nextSfuRequestId
  · rw [emitted]
    simp [Action.Plain]

/-- A confirmed join that does not complete the upgrade makes the table ask for
the next one. -/
theorem step_advances
    {instanceId : InstanceId}
    {requestId lifecycleId assignmentEpoch : Nat}
    {clientId : ClientId}
    {upgrade : Upgrade}
    (accepts : call.Accepts table instanceId requestId
      (.upgradeJoin instanceId roomId clientId lifecycleId assignmentEpoch))
    (found : table.rooms[roomId]? = some room)
    (running : room.upgrade = some upgrade)
    (unfinished : upgrade.nextClient + 1 ≠ upgrade.orderedClients.length) :
    table.step call = (((table.retireCommand requestId).setRoom roomId
      (room.advanceUpgrade upgrade clientId)).issueNextUpgradeJoin roomId).2 := by
  obtain ⟨result, ⟨connectionId, now, asked, connected, outstanding⟩,
    -, confirms⟩ := accepts
  obtain ⟨worker, known, session⟩ := Option.bind_eq_some_iff.1 connected
  simp [RoomTable.step, asked, handleSfuInput, handleCommandResult, known,
    session, outstanding, upgradeJoinResult, confirms, found, running,
    acceptUpgradeJoin, unfinished]

/-- A refused join takes the upgrade back. -/
theorem step_aborts
    {instanceId expected : InstanceId}
    {requestId lifecycleId assignmentEpoch : Nat}
    {clientId : ClientId}
    (refuses : call.Refuses table instanceId requestId
      (.upgradeJoin expected roomId clientId lifecycleId assignmentEpoch)) :
    ∃ reason connectionId, table.connection? instanceId = some connectionId ∧
      table.step call =
        ((table.retireCommand requestId).abortUpgrade roomId reason).2 := by
  obtain ⟨result, ⟨connectionId, now, asked, connected, outstanding⟩,
    differs⟩ := refuses
  refine ⟨resultReason result, connectionId, connected, ?_⟩
  obtain ⟨worker, known, session⟩ := Option.bind_eq_some_iff.1 connected
  have mismatch : expected = instanceId ->
      confirmsJoin roomId clientId lifecycleId assignmentEpoch result = false := by
    intro same
    simpa [PendingCommand.Confirms, same] using differs
  by_cases same : expected = instanceId
  · simp [RoomTable.step, asked, handleSfuInput, handleCommandResult, known,
      session, outstanding, upgradeJoinResult, same, mismatch same]
  · simp [RoomTable.step, asked, handleSfuInput, handleCommandResult, known,
      session, outstanding, upgradeJoinResult, same]

/-- The upgrade of a room at this stage. -/
def UpgradePlan.upgrade (plan : UpgradePlan) (confirmed : Nat) : Upgrade where
  authorityRequestId := plan.authorityRequestId
  joiningClientId := plan.joiningClientId
  orderedClients := plan.order
  joinedClients := plan.order.take confirmed
  nextClient := confirmed

theorem Room.Stage.advance
    (stage : former.Stage plan confirmed room)
    (here : confirmed < plan.order.length) :
    former.Stage plan (confirmed + 1)
      (room.advanceUpgrade (plan.upgrade confirmed) plan.order[confirmed]) where
  mode := stage.mode
  signalEpoch := stage.signalEpoch
  assignmentEpoch := stage.assignmentEpoch
  assigned := stage.assigned
  members := stage.members
  joining := stage.joining
  upgrade := by
    simp only [Room.advanceUpgrade, UpgradePlan.upgrade, Option.some.injEq,
      Upgrade.mk.injEq, true_and, and_true]
    exact List.take_append_getElem here

/-- At each stage the table asks for the next join of the plan. -/
theorem Room.Stage.issues
    {connectionId : Sfu.ConnectionId}
    (stage : former.Stage plan confirmed room)
    (covers : plan.Covers former)
    (found : table.rooms[roomId]? = some room)
    (here : confirmed < plan.order.length)
    (connected : table.connection? plan.instanceId = some connectionId) :
    table.issueNextUpgradeJoin roomId =
      (.ok (), table.issueCommand plan.instanceId connectionId
        (plan.join roomId plan.order[confirmed])
        (.upgradeJoin plan.instanceId roomId plan.order[confirmed]
          (plan.lifecycle plan.order[confirmed]) plan.assignmentEpoch)) := by
  obtain ⟨member, present, lived⟩ := stage.member covers (List.getElem_mem here)
  simp [issueNextUpgradeJoin, found, stage.upgrade, List.getElem?_eq_getElem here,
    present, stage.assigned, connected, lived, stage.assignmentEpoch,
    UpgradePlan.join]

/-- The join that is awaited is the next one of the plan. -/
theorem Room.Stage.awaits
    {pending : PendingCommand}
    (stage : former.Stage plan confirmed room)
    (covers : plan.Covers former)
    (found : table.rooms[roomId]? = some room)
    (here : confirmed < plan.order.length)
    (awaited : table.awaitedJoin? roomId = some pending) :
    pending = .upgradeJoin plan.instanceId roomId plan.order[confirmed]
      (plan.lifecycle plan.order[confirmed]) plan.assignmentEpoch := by
  obtain ⟨member, present, lived⟩ := stage.member covers (List.getElem_mem here)
  simpa [RoomTable.awaitedJoin?, found, stage.upgrade, stage.assigned,
    List.getElem?_eq_getElem here, present, lived,
    stage.assignmentEpoch] using awaited.symm

/-- The confirmation of the join that is awaited leads to the next stage. -/
theorem confirms_stage
    {requestId : Nat}
    {pending : PendingCommand}
    (stage : former.Stage plan confirmed room)
    (covers : plan.Covers former)
    (three : plan.order.length = 3)
    (unfinished : confirmed < 2)
    (found : table.rooms[roomId]? = some room)
    (accepts : call.Accepts table plan.instanceId requestId pending)
    (awaited : table.awaitedJoin? roomId = some pending) :
    (∃ after, (table.step call).rooms[roomId]? = some after ∧
        former.Stage plan (confirmed + 1) after) ∧
      orders roomId (handed (table.emitted call)) =
        ((plan.order.drop (confirmed + 1)).take 1).map (plan.join roomId) ∧
      ∀ action ∈ table.emitted call, action.Plain := by
  have here : confirmed < plan.order.length := by omega
  have there : confirmed + 1 < plan.order.length := by omega
  obtain rfl := stage.awaits covers found here awaited
  have stepped := step_advances accepts found stage.upgrade
    (by simp only [three]; omega)
  obtain ⟨result, ⟨connectionId, now, asked, connected, outstanding⟩, -⟩ :=
    accepts
  have next := stage.advance here
  have advanced : ((table.retireCommand requestId).setRoom roomId
      (room.advanceUpgrade (plan.upgrade confirmed)
        plan.order[confirmed])).rooms[roomId]? =
      some (room.advanceUpgrade (plan.upgrade confirmed)
        plan.order[confirmed]) := by
    simp
  have issued := stepped.trans (congrArg Prod.snd
    (next.issues covers advanced there connected))
  have appended : (table.step call).actions = table.actions ++
      [.sfu (.command connectionId ⟨table.nextSfuRequestId,
        plan.join roomId plan.order[confirmed + 1]⟩)] := by
    rw [issued]
    rfl
  have emitted := emitted_of_append (by simp [asked]) appended
  refine ⟨⟨_, ?_, next⟩, ?_, ?_⟩
  · rw [issued]
    exact advanced
  · rw [emitted, orders_join, List.drop_eq_getElem_cons there]
    rfl
  · rw [emitted]
    simp [Action.Plain]

/-- The leaves of joined clients that are still members, in their order. -/
theorem leaveJoined_hands
    {instanceId : InstanceId}
    {connectionId : Sfu.ConnectionId}
    (joined : List ClientId)
    (present : ∀ clientId ∈ joined, ∃ member,
      table.member? roomId clientId = some member ∧
        member.lifecycleId = plan.lifecycle clientId) :
    ∃ after new,
      leaveJoined instanceId connectionId roomId plan.assignmentEpoch joined
        table = (.ok (), after) ∧
      after.rooms = table.rooms ∧ after.workers = table.workers ∧
      after.actions = table.actions ++ new ∧
      (∀ action ∈ new, action.Plain) ∧
      (handed new).map (fun entry => (entry.1, entry.2.command)) =
        joined.map fun clientId => (connectionId, plan.leave roomId clientId) := by
  induction joined generalizing table with
  | nil => exact ⟨table, [], rfl, rfl, rfl, by simp, by simp, rfl⟩
  | cons clientId joined inductionHypothesis =>
      obtain ⟨member, found, lived⟩ := present clientId List.mem_cons_self
      obtain ⟨after, new, left, rooms, workers, appended, plain, leaves⟩ :=
        @inductionHypothesis (table.issueCommand instanceId connectionId
          (plan.leave roomId clientId) .cleanup)
          fun otherId listed => present otherId (List.mem_cons_of_mem _ listed)
      refine ⟨after, .sfu (.command connectionId ⟨table.nextSfuRequestId,
        plan.leave roomId clientId⟩) :: new, ?_, rooms, workers, ?_, ?_, ?_⟩
      · rw [leaveJoined, found]
        simp only [lived]
        exact left
      · rw [appended, issueCommand_actions, List.append_assoc]
        rfl
      · simpa [Action.Plain] using plain
      · simpa [handed, Action.command?] using leaves

/-- The room is P2P again, with its former members and signal epoch and without
a trace of the upgrade. -/
structure Room.RolledBack
    (former restored : Room)
    (plan : UpgradePlan) : Prop where
  mode : restored.mode = .p2p
  signalEpoch : restored.signalEpoch = former.signalEpoch
  upgrade : restored.upgrade = none
  assigned : restored.assignedInstance = none
  members : ∀ clientId : ClientId, former.Relives restored plan clientId

theorem Room.Stage.release
    (stage : former.Stage plan confirmed room)
    (covers : plan.Covers former) :
    former.RolledBack (room.release plan.joiningClientId) plan where
  mode := rfl
  signalEpoch := stage.signalEpoch
  upgrade := rfl
  assigned := rfl
  members := by
    intro clientId
    have erased : (room.release plan.joiningClientId).members =
        room.members.erase plan.joiningClientId := rfl
    rw [Room.Relives, erased, ExtTreeMap.getElem?_erase]
    split
    · next same =>
        obtain rfl := Std.LawfulEqCmp.eq_of_compare same
        have absent := covers.joining
        rw [ExtTreeMap.mem_iff_isSome_getElem?, Bool.not_eq_true,
          Option.isSome_eq_false_iff, Option.isNone_iff_eq_none] at absent
        rw [absent]
        rfl
    · next other =>
        exact stage.members clientId fun same => other (by simp [same])

/-- The admission that an action answers. -/
def Action.admission? : Action -> Option (Nat × Except String Admission)
  | .admissionCompleted authorityRequestId result =>
      some (authorityRequestId, result)
  | _ => none

theorem Action.Plain.admission?
    {action : Action}
    (plain : action.Plain) :
    action.admission? = none := by
  cases action with
  | sfu | deliver => rfl
  | _ => exact plain.elim

/-- The refusal of a join takes the room back, leaves the clients joined so far
and answers the admission with an error. -/
theorem aborts_stage
    {expected : InstanceId}
    {requestId lifecycleId assignmentEpoch : Nat}
    {clientId : ClientId}
    (stage : former.Stage plan confirmed room)
    (covers : plan.Covers former)
    (few : confirmed ≤ plan.clients.length)
    (found : table.rooms[roomId]? = some room)
    (refuses : call.Refuses table plan.instanceId requestId
      (.upgradeJoin expected roomId clientId lifecycleId assignmentEpoch)) :
    ∃ restored connectionId error,
      (table.step call).rooms[roomId]? = some restored ∧
      former.RolledBack restored plan ∧
      ¬(table.step call).Lists plan.instanceId roomId ∧
      table.connection? plan.instanceId = some connectionId ∧
      (handed (table.emitted call)).map
          (fun entry => (entry.1, entry.2.command)) =
        (plan.clients.take confirmed).map
          (fun clientId => (connectionId, plan.leave roomId clientId)) ∧
      (table.emitted call).filterMap Action.admission? =
        [(plan.authorityRequestId, .error error)] := by
  obtain ⟨reason, connectionId, connected, stepped⟩ := step_aborts refuses
  have rolled := stage.release covers
  obtain ⟨after, new, left, rooms, workers, appended, plain, leaves⟩ :=
    @leaveJoined_hands (((table.retireCommand requestId).setRoom roomId
        (room.release plan.joiningClientId)).modifyWorker plan.instanceId
          (dischargeRoom roomId 3)) roomId plan plan.instanceId connectionId
      (plan.clients.take confirmed) fun joined listed => by
        have inside := List.mem_of_mem_take listed
        have was : joined ∈ former.members :=
          ExtTreeMap.mem_keys.1 (covers.clients.subset inside)
        obtain ⟨member, present⟩ := Option.isSome_iff_exists.1
          (ExtTreeMap.mem_iff_isSome_getElem?.1 was)
        have relives := rolled.members joined
        rw [Room.Relives, present] at relives
        exact ⟨_, by simpa [member?] using relives, rfl⟩
  have joined : plan.order.take confirmed = plan.clients.take confirmed :=
    List.take_append_of_le_length few
  have aborted := abortUpgrade_eq (table.retireCommand requestId) reason found
    stage.upgrade stage.assigned
  rw [show (table.retireCommand requestId).connection? plan.instanceId =
      some connectionId from connected] at aborted
  dsimp only at aborted
  rw [stage.assignmentEpoch, joined, left] at aborted
  have result := stepped.trans (congrArg Prod.snd aborted)
  have emitted : table.emitted call = new ++ [.admissionCompleted
      plan.authorityRequestId (.error
        (if reason.isEmpty then "WORKER_UNAVAILABLE" else reason))] := by
    obtain ⟨_, ⟨_, _, asked, -⟩, -⟩ := refuses
    refine emitted_of_append (by simp [asked]) ?_
    rw [result]
    simp [appended, abortAnswer]
  refine ⟨room.release plan.joiningClientId, connectionId,
    if reason.isEmpty then "WORKER_UNAVAILABLE" else reason, ?_, rolled, ?_,
    connected, ?_, ?_⟩
  · rw [result]
    simp [rooms]
  · rw [result]
    rintro ⟨worker, known, listed⟩
    simp only [pushAction_workers, workers, modifyWorker_workers,
      ExtTreeMap.getElem?_modify_self, Option.map_eq_some_iff] at known
    obtain ⟨former, -, rfl⟩ := known
    simp [dischargeRoom] at listed
  · rw [emitted, handed_append, List.map_append, leaves]
    simp [handed, Action.command?]
  · have nobody : new.filterMap Action.admission? = [] :=
      List.filterMap_eq_nil_iff.2 fun action listed =>
        (plain action listed).admission?
    rw [emitted, List.filterMap_append, nobody]
    rfl

end Stages

/-- What holds at each stage of an upgrade that its worker carries on. -/
structure Follows
    (roomId : RoomId)
    (former : Room)
    (plan : UpgradePlan)
    (confirmed : Nat)
    (history : History)
    (table : RoomTable) : Prop where
  few : confirmed ≤ 2
  stage : ∃ room, table.rooms[roomId]? = some room ∧
    former.Stage plan confirmed room
  orders : orders roomId (sentIn history) =
    (plan.order.take (confirmed + 1)).map (plan.join roomId)
  unanswered : ∀ event ∈ history, ∀ result,
    .admissionCompleted plan.authorityRequestId result ∈
      event.1.emitted event.2 ->
    ∃ otherId other, otherId ≠ roomId ∧
      event.1.rooms[otherId]? = some other ∧
      other.Owes plan.authorityRequestId

@[simp] theorem orders_append
    (roomId : RoomId)
    (first second : List (Sfu.ConnectionId × Sfu.Command)) :
    orders roomId (first ++ second) =
      orders roomId first ++ orders roomId second := by
  simp [orders]

/-- The history of an upgrade continues the run that it starts from. -/
theorem Underway.run
    {reconnectGrace : Duration}
    {earlier history : History}
    {start table : RoomTable}
    {admission : Call}
    {roomId : RoomId}
    {instanceId : InstanceId}
    {confirmed : Nat}
    (underway : Underway roomId instanceId start admission confirmed history
      table)
    (run : (RoomTable.machine reconnectGrace).Run earlier start) :
    (RoomTable.machine reconnectGrace).Run (history ++ earlier) table := by
  induction underway with
  | begins => exact .next admission run
  | aside call _ _ inductionHypothesis => exact .next call inductionHypothesis
  | confirms _ _ _ _ inductionHypothesis => exact .next _ inductionHypothesis

theorem Underway.follows
    {reconnectGrace : Duration}
    {earlier history : History}
    {start table : RoomTable}
    {admission : Call}
    {roomId : RoomId}
    {former : Room}
    {plan : UpgradePlan}
    {confirmed : Nat}
    (underway : Underway roomId plan.instanceId start admission confirmed
      history table)
    (run : (RoomTable.machine reconnectGrace).Run earlier start)
    (covers : plan.Covers former)
    (three : plan.order.length = 3)
    (begins : Follows roomId former plan 0 [(start, admission)]
      (start.step admission)) :
    Follows roomId former plan confirmed history table := by
  induction underway with
  | begins => exact begins
  | @aside confirmed history table call before elsewhere inductionHypothesis =>
      have ran := before.run run
      have consistent := consistent_of_run ran
      obtain ⟨few, ⟨room, found, stage⟩, asked, unanswered⟩ := inductionHypothesis
      have chain := step_chain table call consistent.wellFormed
      obtain ⟨after, becomes, same⟩ := aside_chain elsewhere chain
        consistent.wellFormed found stage.mode
      refine ⟨few, ⟨after, becomes, stage.same same⟩, ?_, ?_⟩
      · rw [sentIn, orders_append, aside_orders elsewhere consistent
          (holdsOwn_of_run ran) found stage.mode, List.append_nil]
        exact asked
      · intro event listed result answered
        rcases List.mem_cons.1 listed with rfl | older
        · exact aside_answers elsewhere consistent found stage.mode answered
        · exact unanswered event older result answered
  | @confirms confirmed history table call requestId pending before unfinished
      accepts awaited inductionHypothesis =>
      obtain ⟨few, ⟨room, found, stage⟩, asked, unanswered⟩ := inductionHypothesis
      obtain ⟨next, joins, plain⟩ := confirms_stage stage covers three unfinished
        found accepts awaited
      refine ⟨unfinished, next, ?_, ?_⟩
      · rw [sentIn, orders_append, asked, joins, ← List.map_append,
          ← List.take_add]
      · intro event listed result answered
        rcases List.mem_cons.1 listed with rfl | older
        · exact (plain _ answered).elim
        · exact unanswered event older result answered

/-- A refused upgrade restores the room. The admission of a third client starts
an upgrade; the worker confirms up to two of the joins and refuses one, while
other calls go on elsewhere. The room then is P2P with its two former members as
they were, up to their lifecycles, and its signal epoch; the worker has the room
on no list; the only answer to the admission that the room yields is the error;
and the worker, which was asked for one join more than it confirmed, is asked to
leave exactly the clients that it joined, under the lifecycle and the assignment
epoch of their joins. -/
theorem refused_upgrade_restored
    {reconnectGrace : Duration}
    {earlier history : History}
    {start last : RoomTable}
    {admission refusal : Call}
    {authorityRequestId : Nat}
    {now : Instant}
    {roomId : RoomId}
    {joiningClientId clientId : ClientId}
    {token : String}
    {former : Room}
    {instanceId expected : InstanceId}
    {confirmed requestId lifecycleId assignmentEpoch : Nat}
    (run : (RoomTable.machine reconnectGrace).Run earlier start)
    (asked : admission.operation =
      .admitClient authorityRequestId now roomId joiningClientId token)
    (found : start.rooms[roomId]? = some former)
    (direct : former.mode = .p2p)
    (pair : former.members.size = 2)
    (third : former.members.contains joiningClientId = false)
    (selected : start.selectWorker 3 = some instanceId)
    (underway : Underway roomId instanceId start admission confirmed history
      last)
    (refuses : refusal.Refuses last instanceId requestId
      (.upgradeJoin expected roomId clientId lifecycleId assignmentEpoch)) :
    ∃ (plan : UpgradePlan) (restored : Room)
      (connectionId : Sfu.ConnectionId) (error : String),
      plan.clients.Perm former.members.keys ∧
      (last.step refusal).rooms[roomId]? = some restored ∧
      former.RolledBack restored plan ∧
      ¬(last.step refusal).Lists instanceId roomId ∧
      (last.emitted refusal).filterMap Action.admission? =
        [(authorityRequestId, .error error)] ∧
      (∀ event ∈ history, ∀ result,
        .admissionCompleted authorityRequestId result ∈
          event.1.emitted event.2 ->
        ∃ otherId other, otherId ≠ roomId ∧
          event.1.rooms[otherId]? = some other ∧
          other.Owes authorityRequestId) ∧
      orders roomId (sentIn history) =
        ((plan.clients ++ [joiningClientId]).take (confirmed + 1)).map
          (plan.join roomId) ∧
      last.connection? instanceId = some connectionId ∧
      (handed (last.emitted refusal)).map
          (fun entry => (entry.1, entry.2.command)) =
        (plan.clients.take confirmed).map
          fun clientId => (connectionId, plan.leave roomId clientId) := by
  obtain ⟨plan, rfl, rfl, rfl, covers, stage, joins, plain⟩ :=
    begins_stage asked found direct pair third selected
  have two : plan.clients.length = 2 := by
    rw [covers.clients.length_eq, ExtTreeMap.length_keys, pair]
  have follows := underway.follows run covers (by simp [UpgradePlan.order, two])
    { few := Nat.zero_le 2
      stage := stage
      orders := by simpa [sentIn] using joins
      unanswered := by
        intro event listed result answered
        obtain rfl := List.mem_singleton.1 listed
        exact (plain _ answered).elim }
  obtain ⟨room, present, reached⟩ := follows.stage
  obtain ⟨restored, connectionId, error, becomes, rolled, unlisted, connected,
    leaves, answers⟩ := aborts_stage reached covers (two ▸ follows.few) present
      refuses
  exact ⟨plan, restored, connectionId, error, covers.clients, becomes, rolled,
    unlisted, answers, follows.unanswered, follows.orders, connected, leaves⟩

/-- A room with two members and a worker that can carry it. -/
def pairedTable : RoomTable :=
  (RoomTable.played 0 (upgradingOperations.take 4)).2

/-- The third client is admitted, the first join is confirmed, an action is
taken off the queue, and the second join is refused. -/
def upgradeCalls : List Call :=
  [⟨.admitClient 3 0 exampleRoomId 3 "third", .sorted⟩,
    ⟨joined 1 1 2, .sorted⟩, ⟨.pollAction, .sorted⟩, ⟨refused 2, .sorted⟩]

theorem refused_upgrade_restored_second :
    ∃ restored : Room,
      ((upgradeCalls.foldl RoomTable.step pairedTable).rooms[exampleRoomId]?) =
        some restored ∧ restored.mode = .p2p := by
  obtain ⟨former, found⟩ : ∃ former,
      pairedTable.rooms[exampleRoomId]? = some former :=
    Option.isSome_iff_exists.1 (by decide +kernel)
  have checked : (pairedTable.rooms[exampleRoomId]?).any (fun room =>
      room.mode = .p2p && room.members.size = 2 && !room.members.contains 3) =
        true := by
    decide +kernel
  rw [found] at checked
  simp only [Option.any_some, Bool.and_eq_true, decide_eq_true_eq,
    Bool.not_eq_true'] at checked
  obtain ⟨⟨direct, pair⟩, third⟩ := checked
  have begun : Underway exampleRoomId "sfu" pairedTable
      ⟨.admitClient 3 0 exampleRoomId 3 "third", .sorted⟩ 0
      [(pairedTable, ⟨.admitClient 3 0 exampleRoomId 3 "third", .sorted⟩)]
      (pairedTable.step ⟨.admitClient 3 0 exampleRoomId 3 "third", .sorted⟩) :=
    .begins
  have confirmed := begun.confirms (by decide)
    (show Call.Accepts ⟨joined 1 1 2, .sorted⟩ _ "sfu" 1
      (.upgradeJoin "sfu" exampleRoomId 1 2 1) from
      ⟨_, ⟨1, 0, rfl, by decide +kernel, by decide +kernel⟩, rfl, by decide⟩)
    (by decide +kernel)
  have polled := confirmed.aside ⟨.pollAction, .sorted⟩ (by
    rintro (⟨named⟩ | ⟨⟨_, _, asked, -⟩, -⟩ |
      ⟨⟨_, _, _, _, _, _, _, asked, -⟩⟩ | ⟨asked, -, -⟩)
    · cases named
    all_goals cases asked)
  obtain ⟨plan, restored, -, -, -, stored, rolled, -⟩ :=
    refused_upgrade_restored
      (RoomTable.played_run 0 (upgradingOperations.take 4)) rfl found direct
      pair third (by decide +kernel) polled
      (show Call.Refuses ⟨refused 2, .sorted⟩ _ "sfu" 2
        (.upgradeJoin "sfu" exampleRoomId 2 2 1) from
        ⟨_, ⟨1, 0, rfl, by decide +kernel, by decide +kernel⟩, nofun⟩)
  exact ⟨restored, stored, rolled.mode⟩

end V2
end Signaling
