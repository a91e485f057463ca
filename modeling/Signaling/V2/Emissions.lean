import Signaling.V2.RoomMoves

/-!
# What a move announces and asks for

The actions that each move appends to the queue. Moves that answer the
authority or change the mode of a room announce exactly that; every other move
appends plain actions only. A transition command that is outstanding after a
move was outstanding before it or is the one that the move issues.
-/

namespace Signaling
namespace V2

open Std (ExtTreeMap ExtTreeSet)
open RoomTable

/-- A leave of one member is handed to a worker's connection. -/
def Action.IsLeave
    (action : Action)
    (connectionId : Sfu.ConnectionId)
    (roomId : RoomId)
    (clientId lifecycleId : Nat) : Prop :=
  ∃ requestId assignmentEpoch reason,
    action = .sfu (.command connectionId ⟨requestId, .leave ⟨roomId, clientId,
      lifecycleId, assignmentEpoch, reason⟩⟩)

/-- The announcement of a room's failure; an absent room has none. -/
def failureActions
    (table : RoomTable)
    (order : VisitOrder)
    (roomId : RoomId)
    (reason : String) : List Action :=
  match table.rooms[roomId]? with
  | none => []
  | some room => [.roomFailed roomId (room.clients order roomId) reason]

/-- The actions of a rollback: leaves of the clients already joined, and the
answer to the admission. -/
def RollsBack
    (table : RoomTable)
    (roomId : RoomId)
    (room : Room)
    (upgrade : Upgrade)
    (reason : String)
    (actions : List Action) : Prop :=
  ∃ leaves answers,
    actions = leaves ++ answers ∧
    (∀ action ∈ leaves, action.Plain) ∧
    (answers = [] ∨ answers = [abortAnswer upgrade reason]) ∧
    ((∀ clientId ∈ upgrade.joinedClients,
        clientId ≠ upgrade.joiningClientId ∧
          room.members[clientId]?.isSome) ->
      answers = [abortAnswer upgrade reason] ∧
        ∀ instanceId connectionId,
          room.assignedInstance = some instanceId ->
          table.connection? instanceId = some connectionId ->
          ∀ clientId ∈ upgrade.joinedClients, ∀ member : Member,
            room.members[clientId]? = some member ->
            ∃ action ∈ leaves, action.IsLeave connectionId roomId clientId
              member.lifecycleId)

/-- The answers to the transitions of a room that its expired worker leaves
behind, and the announcement of its failure. -/
def expiryActions
    (order : VisitOrder)
    (roomId : RoomId)
    (room : Room) : List Action :=
  (match room.pendingJoin with
    | none => []
    | some join => [.admissionCompleted join.authorityRequestId
        (.error "WORKER_UNAVAILABLE")]) ++
  (match room.pendingLeave with
    | none => []
    | some leave => removalActions leave roomId leave.clientId
        (.error "WORKER_UNAVAILABLE")) ++
  [.roomFailed roomId (room.fail.clients order roomId) "WORKER_UNAVAILABLE"]

/-- `Emits table move actions` describes the actions that the move, taken in
`table`, appends to the queue. -/
def Emits
    (table : RoomTable)
    (move : Move)
    (actions : List Action) : Prop :=
  match move with
  | .dropWithLeave roomId clientId | .requestLeave _ roomId clientId
  | .retryLeave roomId clientId => ∃ room member instanceId connectionId,
      table.rooms[roomId]? = some room ∧
        room.members[clientId]? = some member ∧
        room.assignedInstance = some instanceId ∧
        table.connection? instanceId = some connectionId ∧
        ∃ action, actions = [action] ∧ action.Plain ∧
          action.IsLeave connectionId roomId clientId member.lifecycleId
  | .reportFailure _ roomId => ∃ order reason ack,
      ack.Plain ∧ actions = failureActions table order roomId reason ++ [ack]
  | .refuseSync _ roomId => ∃ order,
      actions = failureActions table order roomId "WORKER_UNAVAILABLE"
  | .commitUpgrade _ roomId => ∃ room upgrade order,
      table.rooms[roomId]? = some room ∧ room.upgrade = some upgrade ∧
        actions = match room.members[upgrade.joiningClientId]? with
          | none => []
          | some joining => commitActions order roomId room upgrade joining
  | .abortUpgrade _ roomId => ∃ room upgrade reason,
      table.rooms[roomId]? = some room ∧ room.upgrade = some upgrade ∧
        RollsBack table roomId room upgrade reason actions
  | .completeJoin _ _ roomId clientId => ∃ room pendingJoin,
      table.rooms[roomId]? = some room ∧ room.pendingJoin = some pendingJoin ∧
        actions = match room.members[clientId]? with
          | none => []
          | some member => [.admissionCompleted pendingJoin.authorityRequestId
              (.ok
                { mode := .sfu
                  signalEpoch := room.signalEpoch
                  admissionToken := member.token
                  isInitiator := none })]
  | .refuseJoin _ roomId => ∃ room pendingJoin reason,
      table.rooms[roomId]? = some room ∧ room.pendingJoin = some pendingJoin ∧
        actions = [.admissionCompleted pendingJoin.authorityRequestId
          (.error reason)]
  | .completeLeave _ roomId clientId => ∃ room pendingLeave,
      table.rooms[roomId]? = some room ∧
        room.pendingLeave = some pendingLeave ∧
        actions = removalActions pendingLeave roomId clientId (.ok ())
  | .refuseLeave _ roomId => ∃ room pendingLeave clientId reason,
      table.rooms[roomId]? = some room ∧
        room.pendingLeave = some pendingLeave ∧
        actions = removalActions pendingLeave roomId clientId (.error reason)
  | .expireRoom _ roomId => ∃ room, table.rooms[roomId]? = some room ∧
      ((room.mode = .upgrading ∧ ∃ upgrade, room.upgrade = some upgrade ∧
          RollsBack table roomId room upgrade "WORKER_UNAVAILABLE" actions) ∨
        (room.mode ≠ .upgrading ∧ ∃ order,
          actions = expiryActions order roomId room))
  | .downgrade roomId => ∃ room instanceId initiatorClientId others leaves,
      table.rooms[roomId]? = some room ∧
        room.assignedInstance = some instanceId ∧
        room.members.keys = initiatorClientId :: others ∧
        actions = leaves ++ [.downgraded roomId
          (saturatingAdd room.signalEpoch 1) initiatorClientId
            room.members.keys] ∧
        (∀ action ∈ leaves, action.Plain) ∧
        ∀ connectionId, table.connection? instanceId = some connectionId ->
          ∀ (clientId : ClientId) (member : Member),
            room.members[clientId]? = some member ->
            ∃ action ∈ leaves, action.IsLeave connectionId roomId clientId
              member.lifecycleId
  | _ => ∀ action ∈ actions, action.Plain

/-- A rollback releases its room with the actions of one. -/
theorem rollsBack_of_released
    {table after : RoomTable}
    {roomId : RoomId}
    {room : Room}
    {upgrade : Upgrade}
    {instanceId : InstanceId}
    {reason : String}
    {leavers : List ClientId}
    {answers : List Action}
    (carried : room.assignedInstance = some instanceId)
    (release : Released table roomId instanceId room.assignmentEpoch 3
      (room.release upgrade.joiningClientId) leavers answers after)
    (answered : answers = [] ∨ answers = [abortAnswer upgrade reason])
    (complete : (∀ clientId ∈ upgrade.joinedClients,
        clientId ≠ upgrade.joiningClientId ∧
          room.members[clientId]?.isSome) ->
      leavers = upgrade.joinedClients ∧
        answers = [abortAnswer upgrade reason]) :
    ∃ actions, after.actions = table.actions ++ actions ∧
      RollsBack table roomId room upgrade reason actions := by
  obtain ⟨leaves, appended, commands, issued⟩ := release.actions
  refine ⟨leaves ++ answers, by rw [appended, List.append_assoc], leaves,
    answers, rfl, fun action present => ?_, answered, fun all => ?_⟩
  · obtain ⟨_, _, _, -, rfl⟩ := commands action present
    trivial
  · obtain ⟨rfl, same⟩ := complete all
    refine ⟨same, fun carrier connectionId assigned connected clientId joined
      member present => ?_⟩
    rw [carried] at assigned
    cases assigned
    have stays : (room.release upgrade.joiningClientId).members[clientId]? =
        some member := by
      simp only [Room.release, Room.rollBack, Room.eraseMember]
      have other := (all clientId joined).1
      grind
    obtain ⟨issuedId, listed⟩ :=
      issued connectionId connected clientId joined member stays
    exact ⟨_, listed, issuedId, _, _, rfl⟩

/-- Every move but taking an action off the queue appends what it announces. -/
theorem Moved.emits
    {phase phase' : Option InstanceId}
    {table table' : RoomTable}
    {move : Move}
    (taken : Moved phase table move phase' table')
    (wellFormed : table.WellFormed)
    (appends : move ≠ .pollAction) :
    ∃ actions, table'.actions = table.actions ++ actions ∧
      Emits table move actions := by
  have nothing {after : RoomTable} (same : after.actions = table.actions) :
      ∃ actions, after.actions = table.actions ++ actions ∧
        ∀ action ∈ actions, action.Plain :=
    ⟨[], by simp [same], by simp⟩
  have failed {before : RoomTable} (order : VisitOrder) (roomId : RoomId)
      (reason : String)
      (rooms : before.rooms = table.rooms)
      (actions : before.actions = table.actions) :
      (before.failRoom order roomId reason).actions =
        table.actions ++ failureActions table order roomId reason := by
    unfold RoomTable.failRoom failureActions
    rw [rooms]
    cases table.rooms[roomId]? <;> simp [actions]
  cases taken with
  | create | joinDirect | register | dropWithGrace | queueMessage
  | disconnectWorker | clearDeadline | rearmGrace | setDwell | beginExpiry =>
      exact nothing rfl
  | removeFailed | removeDirect | expireMembers =>
      refine nothing ?_
      unfold RoomTable.setOrDropRoom
      split <;> rfl
  | beginUpgrade authorityRequestId now token found fresh direct full selected =>
      rename_i roomId room clientId instanceId
      obtain ⟨lifecycle, counters, lifecycleId, first, joining, connectionId,
        head, present, connected, begun⟩ := beginUpgrade_eq authorityRequestId
          now token roomId fresh full selected
      rw [begun]
      exact ⟨[_], issueCommand_actions .., by simp [Emits, Action.Plain]⟩
  | beginJoin | forwardSignal =>
      exact ⟨[_], issueCommand_actions .., by simp [Emits, Action.Plain]⟩
  | dropWithLeave found present registered forwarded noLeave assigned
      connected =>
      exact ⟨[_], issueCommand_actions .., _, _, _, _, found, present, assigned,
        connected, _, rfl, trivial, _, _, _, rfl⟩
  | requestLeave authorityRequestId found present forwarded noJoin noLeave
      assigned connected =>
      exact ⟨[_], issueCommand_actions .., _, _, _, _, found, present, assigned,
        connected, _, rfl, trivial, _, _, _, rfl⟩
  | retryLeave found present waiting forwarded noLeave assigned connected =>
      exact ⟨[_], issueCommand_actions .., _, _, _, _, found, present, assigned,
        connected, _, rfl, trivial, _, _, _, rfl⟩
  | connectWorker connectionId capacity actions notices =>
      exact ⟨actions, by simp [RoomTable.connectWorker],
        fun action present => (notices action present).plain⟩
  | syncRoom order found listed connected =>
      simp only [syncAssignedRoom, found]
      exact ⟨[_], issueCommand_actions .., by simp [Emits, Action.Plain]⟩
  | noteEvent update actions keepsConnection keepsDeadline keepsRooms
      keepsClients notices =>
      exact ⟨actions, by simp,
        fun action present => (notices action present).plain⟩
  | reportFailure requestId order reason ack known notice =>
      refine ⟨_, ?_, order, reason, ack, notice.plain, rfl⟩
      simp only [pushAction_actions]
      rw [failed order _ reason (by simp) (by simp), List.append_assoc]
  | push action notice =>
      exact ⟨[action], rfl, by simpa [Emits] using notice.plain⟩
  | answer actions outstanding idle replays =>
      exact ⟨actions, by simp, replays.plain⟩
  | refuseSync order outstanding =>
      exact ⟨_, failed order _ _ rfl rfl, order, rfl⟩
  | advanceUpgrade outstanding connected found upgrading unfinished =>
      rename_i requestId instanceId roomId clientId lifecycleId
        assignmentEpoch room upgrade connectionId
      rcases RoomTable.issueNextUpgradeJoin_cases
        ((table.retireCommand requestId).setRoom roomId
          (room.advanceUpgrade upgrade clientId)) roomId with ⟨error, same⟩ |
        ⟨_, _, _, _, _, _, -, -, -, -, -, -, issued⟩
      · rw [same]
        exact nothing rfl
      · rw [issued]
        exact ⟨[_], issueCommand_actions .., by simp [Emits, Action.Plain]⟩
  | commitUpgrade order outstanding connected found upgrading finished =>
      rename_i requestId instanceId roomId clientId lifecycleId
        assignmentEpoch room upgrade connectionId
      refine ⟨_, ?_, room, upgrade, order, found, upgrading, rfl⟩
      rw [commitUpgrade_eq order (room.advanceUpgrade upgrade clientId)
        (by simp) rfl]
      simp only [Room.advanceUpgrade]
      cases room.members[upgrade.joiningClientId]? with
      | none => simp
      | some joining =>
          simp only [pushActions_actions]
          rfl
  | abortUpgrade reason outstanding found upgrading =>
      rename_i requestId instanceId roomId clientId lifecycleId
        assignmentEpoch room upgrade
      obtain ⟨carrier, carried⟩ := Option.isSome_iff_exists.1
        ((wellFormed.rooms roomId room found).upgrade upgrade upgrading).2.2.1
      obtain ⟨leavers, answers, release, answered, complete⟩ :=
        abortUpgrade_released (table.retireCommand requestId) reason
          found upgrading carried
      obtain ⟨actions, appended, rolled⟩ := rollsBack_of_released carried release
        answered fun all => ⟨(complete all).1, (complete all).2.1⟩
      exact ⟨actions, appended, room, upgrade, reason, found, upgrading, rolled⟩
  | completeJoin outstanding found joining =>
      rename_i requestId instanceId roomId clientId lifecycleId
        assignmentEpoch room pendingJoin
      refine ⟨_, ?_, room, pendingJoin, found, joining, rfl⟩
      rw [completeJoin_eq]
      cases room.members[clientId]? <;> simp
  | refuseJoin reason outstanding found joining =>
      exact ⟨_, rfl, _, _, _, found, joining, rfl⟩
  | completeLeave now outstanding found leaving =>
      rename_i requestId instanceId roomId clientId lifecycleId
        assignmentEpoch room pendingLeave
      obtain ⟨deadline, -, complete⟩ := completeLeave_eq
        (table.retireCommand requestId) instanceId roomId room clientId
          pendingLeave now
      refine ⟨_, ?_, room, pendingLeave, found, leaving, rfl⟩
      rw [complete]
      split <;> simp
  | refuseLeave reason outstanding found leaving =>
      rename_i requestId instanceId roomId clientId lifecycleId
        assignmentEpoch room pendingLeave
      refine ⟨removalActions pendingLeave roomId clientId (.error reason), ?_,
        room, pendingLeave, clientId, reason, found, leaving, rfl⟩
      rw [removalAnswer_eq]
      simp
  | expireUpgrade waits listed found upgrading =>
      rename_i instanceId roomId room
      obtain ⟨upgrade, running, -⟩ :=
        (wellFormed.rooms roomId room found).upgrading upgrading
      obtain ⟨carrier, carried⟩ := Option.isSome_iff_exists.1
        ((wellFormed.rooms roomId room found).upgrade upgrade running).2.2.1
      obtain ⟨leavers, answers, release, answered, complete⟩ :=
        abortUpgrade_released table "WORKER_UNAVAILABLE" found running carried
      obtain ⟨actions, appended, rolled⟩ := rollsBack_of_released carried release
        answered fun all => ⟨(complete all).1, (complete all).2.1⟩
      exact ⟨actions, appended, room, found,
        Or.inl ⟨upgrading, upgrade, running, rolled⟩⟩
  | expireRoom order waits listed found settled =>
      rename_i instanceId roomId room
      refine ⟨expiryActions order roomId room, ?_, room, found,
        Or.inr ⟨settled, order, rfl⟩⟩
      exact pushActions_actions ..
  | endExpiry waits settled => exact nothing (by simp [releaseWorker])
  | downgrade order eligible =>
      obtain ⟨room, instanceId, initiatorClientId, others, found, forwarded,
        small, noJoin, noLeave, carried, clients⟩ :=
          wellFormed.eligible eligible
      obtain ⟨leaves, appended, commands, issued⟩ :=
        (commitDowngrade_released order found carried clients).actions
      refine ⟨_, by rw [appended, List.append_assoc], room, instanceId,
        initiatorClientId, others, leaves, found, carried, clients, rfl,
        fun action present => ?_, fun connectionId connected clientId member
          present => ?_⟩
      · obtain ⟨_, _, _, -, rfl⟩ := commands action present
        trivial
      · obtain ⟨issuedId, listed⟩ := issued connectionId connected clientId
          (by simp only [ExtTreeMap.mem_keys]; grind)
          { member with
            isInitiator := decide (clientId = initiatorClientId)
            queuedMessages := [] }
          (by simp [Room.commitP2p, present])
        exact ⟨_, listed, issuedId, _, _, rfl⟩
  | pollAction => exact absurd rfl appends

/-- The transition command that a move issues. -/
def Issues
    (table : RoomTable)
    (move : Move)
    (pending : PendingCommand) : Prop :=
  match move with
  | .beginUpgrade _ roomId _ | .advanceUpgrade _ roomId =>
      pending.transition? = some (.upgrade, roomId)
  | .beginJoin _ roomId clientId => ∃ room instanceId,
      table.rooms[roomId]? = some room ∧
        room.assignedInstance = some instanceId ∧
        pending = .sfuJoin instanceId roomId clientId
          (table.nextLifecycle roomId clientId).1 room.assignmentEpoch
  | .dropWithLeave roomId clientId | .requestLeave _ roomId clientId
  | .retryLeave roomId clientId => ∃ room member instanceId,
      table.rooms[roomId]? = some room ∧
        room.members[clientId]? = some member ∧
        room.assignedInstance = some instanceId ∧
        pending = .sfuLeave instanceId roomId clientId member.lifecycleId
          room.assignmentEpoch
  | _ => False

/-- An outstanding transition command was outstanding before the move, unless
the move has issued it. -/
theorem Moved.outstanding
    {phase phase' : Option InstanceId}
    {table table' : RoomTable}
    {move : Move}
    (taken : Moved phase table move phase' table')
    (wellFormed : table.WellFormed)
    {requestId : Nat}
    {pending : PendingCommand}
    (found : table'.pendingCommands[requestId]? = some pending)
    (transition : pending.transition?.isSome) :
    table.pendingCommands[requestId]? = some pending ∨
      requestId = table.nextSfuRequestId ∧ Issues table move pending := by
  have retired (answered : Nat)
      (found : (table.retireCommand answered).pendingCommands[requestId]? =
        some pending) :
      table.pendingCommands[requestId]? = some pending := by
    rw [retireCommand_pendingCommands] at found
    grind
  have failed {before : RoomTable} {order : VisitOrder} {roomId : RoomId}
      {reason : String}
      (found : (before.failRoom order roomId reason).pendingCommands[
        requestId]? = some pending) :
      before.pendingCommands[requestId]? = some pending := by
    unfold RoomTable.failRoom at found
    split at found <;> exact found
  have issued {before : RoomTable} {instanceId : InstanceId}
      {connectionId : Sfu.ConnectionId} {command : Sfu.CommandKind}
      {asked : PendingCommand}
      (same : before.pendingCommands = table.pendingCommands)
      (next : before.nextSfuRequestId = table.nextSfuRequestId)
      (found : (before.issueCommand instanceId connectionId command
        asked).pendingCommands[requestId]? = some pending) :
      table.pendingCommands[requestId]? = some pending ∨
        requestId = table.nextSfuRequestId ∧ pending = asked := by
    rw [issueCommand_pendingCommands, same, next] at found
    grind
  have released {before after : RoomTable} {roomId : RoomId}
      {instanceId : InstanceId} {assignmentEpoch count : Nat} {room : Room}
      {leavers : List ClientId} {answers : List Action}
      (release : before.Released roomId instanceId assignmentEpoch count room
        leavers answers after)
      (found : after.pendingCommands[requestId]? = some pending) :
      before.pendingCommands[requestId]? = some pending := by
    rcases release.command requestId with same | cleanup
    · rw [← same.1, found]
    · rw [cleanup.1] at found
      cases found
      simp [PendingCommand.transition?] at transition
  cases taken with
  | create | joinDirect | register | dropWithGrace | queueMessage
  | disconnectWorker | push | clearDeadline | rearmGrace | setDwell
  | beginExpiry => exact Or.inl found
  | removeFailed | removeDirect | expireMembers =>
      unfold RoomTable.setOrDropRoom at found
      split at found <;> exact Or.inl found
  | beginUpgrade authorityRequestId now token present fresh direct full
      selected =>
      obtain ⟨lifecycle, counters, lifecycleId, first, joining, connectionId,
        head, listed, connected, begun⟩ := beginUpgrade_eq authorityRequestId
          now token _ fresh full selected
      rw [begun] at found
      refine (issued (by rfl) (by rfl) found).imp id ?_
      rintro ⟨rfl, rfl⟩
      exact ⟨rfl, rfl⟩
  | beginJoin authorityRequestId now token present fresh forwarded noJoin
      noLeave assigned connected =>
      refine (issued (by rfl) (by rfl) found).imp id ?_
      rintro ⟨rfl, rfl⟩
      exact ⟨rfl, _, _, present, assigned, rfl⟩
  | forwardSignal =>
      refine (issued (by rfl) (by rfl) found).imp id ?_
      rintro ⟨rfl, rfl⟩
      simp [PendingCommand.transition?] at transition
  | dropWithLeave present listed registered forwarded noLeave assigned
      connected =>
      refine (issued (by rfl) (by rfl) found).imp id ?_
      rintro ⟨rfl, rfl⟩
      exact ⟨rfl, _, _, _, present, listed, assigned, rfl⟩
  | requestLeave authorityRequestId present listed forwarded noJoin noLeave
      assigned connected =>
      refine (issued (by rfl) (by rfl) found).imp id ?_
      rintro ⟨rfl, rfl⟩
      exact ⟨rfl, _, _, _, present, listed, assigned, rfl⟩
  | retryLeave present listed waiting forwarded noLeave assigned connected =>
      refine (issued (by rfl) (by rfl) found).imp id ?_
      rintro ⟨rfl, rfl⟩
      exact ⟨rfl, _, _, _, present, listed, assigned, rfl⟩
  | connectWorker connectionId capacity actions plain =>
      rw [retireAll_pendingCommands] at found
      split at found
      · cases found
      · exact Or.inl (by simpa [RoomTable.connectWorker] using found)
  | syncRoom order present listed connected =>
      simp only [syncAssignedRoom, present] at found
      refine (issued rfl rfl found).imp id ?_
      rintro ⟨rfl, rfl⟩
      simp [PendingCommand.transition?] at transition
  | noteEvent => exact Or.inl (by simpa using found)
  | reportFailure =>
      rw [pushAction_pendingCommands] at found
      have kept := failed found
      exact Or.inl kept
  | answer => exact Or.inl (retired _ (by simpa using found))
  | refuseSync => exact Or.inl (retired _ (failed found))
  | advanceUpgrade answered connected present upgrading unfinished =>
      rename_i answeredId instanceId roomId clientId lifecycleId
        assignmentEpoch room upgrade connectionId
      rcases RoomTable.issueNextUpgradeJoin_cases
        ((table.retireCommand answeredId).setRoom roomId
          (room.advanceUpgrade upgrade clientId)) roomId with ⟨error, same⟩ |
        ⟨_, _, _, _, _, _, -, -, -, -, -, -, asked⟩
      · rw [same] at found
        exact Or.inl (retired answeredId found)
      · rw [asked, issueCommand_pendingCommands, setRoom_pendingCommands,
          setRoom_nextSfuRequestId, retireCommand_nextSfuRequestId,
          ExtTreeMap.getElem?_insert] at found
        split at found
        · rename_i same
          cases found
          exact Or.inr ⟨(by simpa using same : _ = _).symm, rfl⟩
        · exact Or.inl (retired answeredId found)
  | commitUpgrade order answered connected present upgrading finished =>
      rename_i answeredId instanceId roomId clientId lifecycleId
        assignmentEpoch room upgrade connectionId
      rw [commitUpgrade_eq order (room.advanceUpgrade upgrade clientId)
        (by simp) rfl] at found
      split at found <;>
        exact Or.inl (retired answeredId (by simpa using found))
  | abortUpgrade reason answered present upgrading =>
      rename_i answeredId instanceId roomId clientId lifecycleId
        assignmentEpoch room upgrade
      obtain ⟨carrier, carried⟩ := Option.isSome_iff_exists.1
        ((wellFormed.rooms roomId room present).upgrade upgrade upgrading).2.2.1
      obtain ⟨leavers, answers, release, -⟩ := abortUpgrade_released (table.retireCommand answeredId) reason present upgrading
          carried
      exact Or.inl (retired answeredId (released release found))
  | completeJoin answered present joining =>
      rw [completeJoin_eq] at found
      split at found <;> exact Or.inl (retired _ (by simpa using found))
  | refuseJoin => exact Or.inl (retired _ found)
  | completeLeave now answered present leaving =>
      rename_i answeredId instanceId roomId clientId lifecycleId
        assignmentEpoch room pendingLeave
      obtain ⟨deadline, -, complete⟩ := completeLeave_eq
        (table.retireCommand answeredId) instanceId roomId room clientId
          pendingLeave now
      rw [complete] at found
      refine Or.inl (retired answeredId ?_)
      split at found <;> simpa using found
  | refuseLeave =>
      rw [removalAnswer_eq] at found
      exact Or.inl (retired _ (by simpa using found))
  | expireUpgrade waits listed present upgrading =>
      rename_i instanceId roomId room
      obtain ⟨upgrade, running, -⟩ :=
        (wellFormed.rooms roomId room present).upgrading upgrading
      obtain ⟨carrier, carried⟩ := Option.isSome_iff_exists.1
        ((wellFormed.rooms roomId room present).upgrade upgrade running).2.2.1
      obtain ⟨leavers, answers, release, -⟩ :=
        abortUpgrade_released table "WORKER_UNAVAILABLE" present running carried
      exact Or.inl (released release found)
  | expireRoom order waits listed present settled =>
      exact Or.inl (by simpa [failExpired] using found)
  | endExpiry waits settled =>
      simp only [releaseWorker, modifyWorker_pendingCommands,
        retireAll_pendingCommands] at found
      split at found
      · cases found
      · exact Or.inl found
  | downgrade order eligible =>
      obtain ⟨room, instanceId, initiatorClientId, others, present, forwarded,
        small, noJoin, noLeave, carried, clients⟩ :=
          wellFormed.eligible eligible
      exact Or.inl (released
        (commitDowngrade_released order present carried clients) found)
  | pollAction =>
      unfold RoomTable.pollAction at found
      split at found <;> exact Or.inl found

/-- A fact about the table and the actions that the call has appended so far
holds of the actions of the whole call when every move carries it on. -/
theorem RoomTable.Consistent.emitted_invariant
    {table : RoomTable}
    {call : Call}
    (holds : Option InstanceId -> RoomTable -> List Action -> Prop)
    (consistent : table.Consistent)
    (appends : call.operation ≠ .pollAction)
    (preserved : ∀ phase middle earlier move phase' next actions,
      Moved phase middle move phase' next -> Arises table call middle move ->
      middle.Consistent -> Emits middle move actions ->
      holds phase middle earlier -> holds phase' next (earlier ++ actions))
    (initial : holds none table []) :
    holds none (table.step call) (table.emitted call) := by
  obtain ⟨new, appended, kept⟩ := consistent.step_invariant
    (fun phase middle => ∃ new : List Action,
      middle.actions = table.actions ++ new ∧ holds phase middle new)
    (fun phase middle move phase' next taken arises middleConsistent before => by
      obtain ⟨earlier, appended, kept⟩ := before
      obtain ⟨actions, emitted, emits⟩ := taken.emits middleConsistent.wellFormed
        (by
          rintro rfl
          exact appends arises.2)
      exact ⟨earlier ++ actions,
        by rw [emitted, appended, List.append_assoc],
        preserved phase middle earlier move phase' next actions taken arises
          middleConsistent emits kept⟩)
    ⟨[], by simp, initial⟩
  have emitted : table.emitted call = new := by
    unfold RoomTable.emitted
    split
    · contradiction
    · rw [appended, List.drop_left]
  exact emitted ▸ kept

/-- One of the actions that the move, taken in `table`, appends to the queue, with
what it reports. -/
inductive Emission (table : RoomTable) : Move -> Action -> Prop
  | plain
      {move : Move} {action : Action}
      (plain : action.Plain) :
      Emission table move action
  | refused
      {move : Move}
      (authorityRequestId : Nat) (error : String) :
      Emission table move (.admissionCompleted authorityRequestId
        (.error error))
  | unremoved
      {move : Move}
      (authorityRequestId : Nat) (roomId : RoomId) (clientId : ClientId)
      (error : String) :
      Emission table move (.removalCompleted authorityRequestId roomId clientId
        (.error error))
  | failed
      {move : Move}
      (roomId : RoomId) (clients : List ClientId) (reason : String) :
      Emission table move (.roomFailed roomId clients reason)
  | upgraded
      {requestId : Nat} {roomId : RoomId} {room : Room}
      (clients : List ClientId)
      (found : table.rooms[roomId]? = some room) :
      Emission table (.commitUpgrade requestId roomId)
        (.upgraded roomId (saturatingAdd room.signalEpoch 1) clients)
  | forwarded
      {requestId : Nat} {roomId : RoomId} {room : Room} {upgrade : Upgrade}
      {joining : Member}
      (found : table.rooms[roomId]? = some room)
      (upgrading : room.upgrade = some upgrade)
      (present : room.members[upgrade.joiningClientId]? = some joining) :
      Emission table (.commitUpgrade requestId roomId)
        (.admissionCompleted upgrade.authorityRequestId (.ok
          { mode := .sfu
            signalEpoch := saturatingAdd room.signalEpoch 1
            admissionToken := joining.token
            isInitiator := none }))
  | joined
      {instanceId : InstanceId} {requestId : Nat} {roomId : RoomId}
      {clientId : ClientId} {room : Room} {join : PendingJoin} {member : Member}
      (found : table.rooms[roomId]? = some room)
      (joining : room.pendingJoin = some join)
      (present : room.members[clientId]? = some member) :
      Emission table
        (.completeJoin instanceId requestId roomId clientId)
        (.admissionCompleted join.authorityRequestId (.ok
          { mode := .sfu
            signalEpoch := room.signalEpoch
            admissionToken := member.token
            isInitiator := none }))
  | left
      {requestId : Nat} {roomId : RoomId} {clientId : ClientId}
      (authorityRequestId : Nat) :
      Emission table (.completeLeave requestId roomId clientId)
        (.removalCompleted authorityRequestId roomId clientId (.ok ()))
  | downgraded
      {roomId : RoomId} {room : Room}
      (initiatorClientId : ClientId) (clients : List ClientId)
      (found : table.rooms[roomId]? = some room) :
      Emission table (.downgrade roomId)
        (.downgraded roomId (saturatingAdd room.signalEpoch 1)
          initiatorClientId clients)

/-- What a move emits is a list of emissions. -/
theorem Emits.emission
    {table : RoomTable}
    {move : Move}
    {actions : List Action}
    {action : Action}
    (emits : Emits table move actions)
    (listed : action ∈ actions) :
    Emission table move action := by
  have rolled {room : Room} {upgrade : Upgrade} {subject : RoomId}
      {reason : String}
      (rolls : RollsBack table subject room upgrade reason actions) :
      Emission table move action := by
    obtain ⟨leaves, answers, rfl, plain, answered, -⟩ := rolls
    rcases List.mem_append.1 listed with left | answer
    · exact .plain (plain action left)
    · rcases answered with rfl | rfl
      · cases answer
      · cases List.mem_singleton.1 answer
        exact .refused _ _
  have failed {order : VisitOrder} {subject : RoomId} {reason : String}
      (failure : action ∈ failureActions table order subject reason) :
      Emission table move action := by
    unfold failureActions at failure
    split at failure
    · cases failure
    · cases List.mem_singleton.1 failure
      exact .failed _ _ _
  have unremoved {leave : PendingLeave} {subject : RoomId} {leaver : ClientId}
      {reason : String}
      (answer : action ∈ removalActions leave subject leaver (.error reason)) :
      Emission table move action := by
    unfold removalActions at answer
    split at answer
    · cases answer
    · cases List.mem_singleton.1 answer
      exact .unremoved _ _ _ _
  cases move with
  | dropWithLeave | requestLeave | retryLeave =>
      obtain ⟨_, _, _, _, -, -, -, -, leave, rfl, plain, -⟩ := emits
      cases List.mem_singleton.1 listed
      exact .plain plain
  | reportFailure =>
      obtain ⟨order, reason, ack, plain, rfl⟩ := emits
      rcases List.mem_append.1 listed with failure | last
      · exact failed failure
      · cases List.mem_singleton.1 last
        exact .plain plain
  | refuseSync =>
      obtain ⟨order, rfl⟩ := emits
      exact failed listed
  | commitUpgrade =>
      obtain ⟨room, upgrade, order, found, upgrading, rfl⟩ := emits
      split at listed
      · cases listed
      · next joining present =>
          rcases List.mem_pair.1 listed with rfl | rfl
          · exact .upgraded _ found
          · exact .forwarded found upgrading present
  | abortUpgrade =>
      obtain ⟨room, upgrade, reason, -, -, rolls⟩ := emits
      exact rolled rolls
  | completeJoin =>
      obtain ⟨room, join, found, joining, rfl⟩ := emits
      split at listed
      · cases listed
      · next member present =>
          cases List.mem_singleton.1 listed
          exact .joined found joining present
  | refuseJoin =>
      obtain ⟨room, join, reason, -, -, rfl⟩ := emits
      cases List.mem_singleton.1 listed
      exact .refused _ _
  | completeLeave =>
      obtain ⟨room, leave, -, -, rfl⟩ := emits
      unfold removalActions at listed
      split at listed
      · cases listed
      · cases List.mem_singleton.1 listed
        exact .left _
  | refuseLeave =>
      obtain ⟨room, leave, leaver, reason, -, -, rfl⟩ := emits
      exact unremoved listed
  | expireRoom =>
      obtain ⟨room, -, ⟨-, upgrade, -, rolls⟩ | ⟨-, order, rfl⟩⟩ := emits
      · exact rolled rolls
      · simp only [expiryActions, List.mem_append] at listed
        rcases listed with (joined | left) | last
        · split at joined
          · cases joined
          · cases List.mem_singleton.1 joined
            exact .refused _ _
        · split at left
          · cases left
          · exact unremoved left
        · cases List.mem_singleton.1 last
          exact .failed _ _ _
  | downgrade =>
      obtain ⟨room, _, _, _, leaves, found, -, -, rfl, plain, -⟩ := emits
      rcases List.mem_append.1 listed with left | last
      · exact .plain (plain action left)
      · cases List.mem_singleton.1 last
        exact .downgraded _ _ found
  | _ => exact .plain (emits action listed)

end V2
end Signaling
