import Signaling.V2.Memberships

/-!
# Worker events

A worker repeats an event until it is acknowledged, and the table remembers the
latest events of each worker. An event that is refused leaves the table as it
was, except that a signal is remembered before the membership it names is looked
up.
-/

namespace Signaling
namespace V2

open Std (ExtTreeMap ExtTreeSet)
open RoomTable

/-- A memory of events: the ids, and the ids in the order of their arrival. -/
abbrev EventMemory := ExtTreeSet Nat × List Nat

/-- The remembered events are those in the order of their arrival, each once. -/
structure EventMemory.Sound (memory : EventMemory) : Prop where
  distinct : memory.2.Nodup
  ordered : ∀ requestId,
    memory.1.contains requestId = true ↔ requestId ∈ memory.2

theorem EventMemory.Sound.empty : EventMemory.Sound (∅, []) where
  distinct := List.nodup_nil
  ordered := by simp

namespace Worker

/-- The events that a worker's record remembers. -/
def memory (worker : Worker) : EventMemory :=
  (worker.seenEvents, worker.seenEventOrder)

variable
  {worker : Worker}
  {requestId : Nat}

/-- A new event is remembered in place of at most the oldest one. -/
theorem remember_spec
    (sound : worker.memory.Sound)
    (fresh : worker.seenEvents.contains requestId = false) :
    (worker.remember requestId).memory.Sound ∧
      (worker.remember requestId).seenEvents.contains requestId = true ∧
      ∀ otherId, (worker.remember requestId).seenEvents.contains otherId = true ->
        otherId = requestId ∨ worker.seenEvents.contains otherId = true := by
  obtain ⟨distinct, ordered⟩ := sound
  simp only [memory] at distinct ordered ⊢
  have new : requestId ∉ worker.seenEventOrder := by
    rw [← ordered, fresh]
    nofun
  have inserted (otherId : Nat) :
      (worker.seenEvents.insert requestId).contains otherId = true ↔
        otherId = requestId ∨ worker.seenEvents.contains otherId = true := by
    grind
  unfold remember
  dsimp only
  split
  · cases order : worker.seenEventOrder with
    | nil => simp_all [eventDedupCapacity]
    | cons oldest rest =>
        rw [order] at distinct new
        obtain ⟨first, distinct⟩ := List.nodup_cons.1 distinct
        simp only [List.mem_cons, not_or] at new
        simp only [List.cons_append]
        have kept (otherId : Nat) :
            ((worker.seenEvents.insert requestId).erase oldest).contains
              otherId = true ↔ otherId ≠ oldest ∧
                (otherId = requestId ∨
                  worker.seenEvents.contains otherId = true) := by
          grind
        refine ⟨⟨?_, fun otherId => ?_⟩, ?_, fun otherId present => ?_⟩
        · exact List.nodup_append.2 ⟨distinct, by simp, by
            rintro _ listed _ last rfl
            exact new.2 (List.mem_singleton.1 last ▸ listed)⟩
        · rw [kept, ordered, order]
          grind
        · rw [kept]
          exact ⟨new.1, Or.inl rfl⟩
        · exact ((kept otherId).1 present).2
  · refine ⟨⟨?_, fun otherId => ?_⟩, (inserted _).2 (Or.inl rfl),
      fun otherId present => (inserted otherId).1 present⟩
    · exact List.nodup_append.2 ⟨distinct, by simp, by
        rintro _ listed _ last rfl
        exact new (List.mem_singleton.1 last ▸ listed)⟩
    · rw [inserted, ordered]
      simp [or_comm]

end Worker

namespace RoomTable

/-- The events that a worker's record remembers; an unknown worker has none. -/
def remembered
    (table : RoomTable)
    (instanceId : InstanceId) : EventMemory :=
  (table.workers[instanceId]?).elim (∅, []) Worker.memory

/-- The table remembers an event of a worker. -/
def Knows
    (table : RoomTable)
    (instanceId : InstanceId)
    (requestId : Nat) : Prop :=
  (table.remembered instanceId).1.contains requestId = true

end RoomTable

/-- A call delivers an event of a worker, for the first time as far as the table
remembers, on the worker's current session. -/
def Call.Presents
    (call : Call)
    (table : RoomTable)
    (instanceId : InstanceId)
    (requestId : Nat)
    (event : Sfu.EventKind) : Prop :=
  ∃ connectionId,
    call.operation =
      .handleSfuInput (.event connectionId instanceId ⟨requestId, event⟩) ∧
    table.connection? instanceId = some connectionId ∧ requestId ≠ 0 ∧
    ¬table.Knows instanceId requestId

/-- The signal names a present SFU membership that the worker carries. -/
def RoomTable.Serves
    (table : RoomTable)
    (instanceId : InstanceId)
    (signal : Sfu.Signal) : Prop :=
  ∃ (room : Room) (member : Member),
    table.rooms[signal.roomId]? = some room ∧
    room.members[signal.clientId]? = some member ∧
    room.mode = .sfu ∧
    room.assignedInstance = some instanceId ∧
    room.assignmentEpoch = signal.assignmentEpoch ∧
    member.lifecycleId = signal.lifecycleId

instance
    (table : RoomTable)
    (instanceId : InstanceId)
    (signal : Sfu.Signal) : Decidable (table.Serves instanceId signal) :=
  decidable_of_iff ((table.rooms[signal.roomId]?.any fun room =>
      room.members[signal.clientId]?.any fun member =>
        decide (room.mode = .sfu ∧ room.assignedInstance = some instanceId ∧
          room.assignmentEpoch = signal.assignmentEpoch ∧
          member.lifecycleId = signal.lifecycleId)) = true)
    (by simp [RoomTable.Serves, Option.any_eq_true])

/-- The call presents a signal that names no membership the worker carries. -/
def Call.Misaddresses
    (call : Call)
    (table : RoomTable) : Prop :=
  ∃ instanceId requestId signal,
    call.Presents table instanceId requestId (.signal signal) ∧
    ¬table.Serves instanceId signal

namespace RoomTable

variable
  {table after : RoomTable}
  {instanceId : InstanceId}

theorem remembered_of_workers
    (workers : after.workers = table.workers) :
    after.remembered instanceId = table.remembered instanceId := by
  simp only [remembered, workers]

/-- A change of a worker's record that keeps its events keeps the memory. -/
theorem remembered_of_modify
    (changedId : InstanceId)
    (update : Worker -> Worker)
    (workers : after.workers = table.workers.modify changedId update)
    (events : ∀ worker, (update worker).seenEvents = worker.seenEvents)
    (order : ∀ worker,
      (update worker).seenEventOrder = worker.seenEventOrder) :
    after.remembered instanceId = table.remembered instanceId := by
  simp only [remembered, workers]
  by_cases same : instanceId = changedId
  · subst same
    rw [ExtTreeMap.getElem?_modify_self]
    cases table.workers[instanceId]? <;> simp [Worker.memory, events, order]
  · rw [ExtTreeMap.getElem?_modify, if_neg (by simpa using Ne.symm same)]

end RoomTable

/-- The moves of a worker's event. -/
def Move.Notes : Move -> Prop
  | .noteEvent _ | .reportFailure _ _ => True
  | _ => False

/-- Every other move keeps the memory of events. -/
theorem Moved.remembered_kept
    {phase phase' : Option InstanceId}
    {table table' : RoomTable}
    {move : Move}
    (taken : Moved phase table move phase' table')
    (wellFormed : table.WellFormed)
    (silent : ¬move.Notes)
    (instanceId : InstanceId) :
    table'.remembered instanceId = table.remembered instanceId := by
  have failed {before : RoomTable} {order : VisitOrder} {roomId : RoomId}
      {reason : String} :
      (before.failRoom order roomId reason).workers = before.workers := by
    unfold RoomTable.failRoom
    split <;> rfl
  have released (before : RoomTable) {roomId : RoomId} {carrier : InstanceId}
      {assignmentEpoch count : Nat} {room : Room} {leavers : List ClientId}
      {answers : List Action}
      (release : before.Released roomId carrier assignmentEpoch count room
        leavers answers table') :
      table'.remembered instanceId = before.remembered instanceId :=
    remembered_of_modify _ _ release.workers (fun _ => rfl) fun _ => rfl
  cases taken with
  | create | joinDirect | register | dropWithGrace | queueMessage
  | clearDeadline | rearmGrace | setDwell | beginExpiry | dropWithLeave
  | forwardSignal | requestLeave | push | retryLeave | refuseJoin
  | beginJoin => exact remembered_of_workers rfl
  | removeFailed | removeDirect | expireMembers =>
      refine remembered_of_workers ?_
      unfold RoomTable.setOrDropRoom
      split <;> rfl
  | beginUpgrade authorityRequestId now token found vacant direct full selected =>
      rename_i roomId room clientId carrier
      obtain ⟨lifecycle, counters, lifecycleId, first, joining, connectionId,
        -, -, -, begun⟩ := beginUpgrade_eq authorityRequestId now token roomId
          vacant full selected
      rw [begun]
      exact remembered_of_modify _ _ rfl (fun _ => rfl) fun _ => rfl
  | connectWorker connectionId capacity actions notices =>
      rename_i connectedId
      simp only [remembered, retireAll_workers, pushActions_workers,
        RoomTable.connectWorker]
      by_cases same : instanceId = connectedId
      · subst same
        rw [ExtTreeMap.getElem?_insert_self]
        cases table.workers[instanceId]? <;> rfl
      · rw [ExtTreeMap.getElem?_insert, if_neg (by simpa using Ne.symm same)]
  | syncRoom order found listed connected =>
      simp only [syncAssignedRoom, found]
      exact remembered_of_workers rfl
  | noteEvent | reportFailure => exact absurd trivial silent
  | disconnectWorker =>
      exact remembered_of_modify _ _ rfl (fun _ => rfl) fun _ => rfl
  | answer => exact remembered_of_workers (by simp)
  | refuseSync => exact remembered_of_workers failed
  | advanceUpgrade outstanding connected found upgrading unfinished =>
      rename_i requestId carrier roomId clientId lifecycleId assignmentEpoch room
        upgrade connectionId
      rcases issueNextUpgradeJoin_cases
        ((table.retireCommand requestId).setRoom roomId
          (room.advanceUpgrade upgrade clientId)) roomId with ⟨error, same⟩ |
        ⟨_, _, _, _, _, _, -, -, -, -, -, -, issued⟩
      · rw [same]
        exact remembered_of_workers rfl
      · rw [issued]
        exact remembered_of_workers rfl
  | commitUpgrade order outstanding connected found upgrading finished =>
      rename_i requestId carrier roomId clientId lifecycleId assignmentEpoch room
        upgrade connectionId
      rw [commitUpgrade_eq order (room.advanceUpgrade upgrade clientId)
        (by simp) rfl]
      split <;> exact remembered_of_workers (by simp)
  | abortUpgrade reason outstanding found upgrading =>
      rename_i requestId carrier roomId clientId lifecycleId assignmentEpoch room
        upgrade
      obtain ⟨carrier, carried⟩ := Option.isSome_iff_exists.1
        ((wellFormed.rooms roomId room found).upgrade upgrade upgrading).2.2.1
      obtain ⟨leavers, answers, release, -⟩ := abortUpgrade_released
        (table.retireCommand requestId) reason found upgrading carried
      exact released (table.retireCommand requestId) release
  | completeJoin outstanding found joining =>
      rw [completeJoin_eq]
      split <;> exact remembered_of_modify _ _ rfl (fun _ => rfl) fun _ => rfl
  | completeLeave now outstanding found leaving =>
      rename_i requestId carrier roomId clientId lifecycleId assignmentEpoch room
        pendingLeave
      obtain ⟨deadline, -, complete⟩ := completeLeave_eq
        (table.retireCommand requestId) carrier roomId room clientId
          pendingLeave now
      rw [complete]
      split <;> exact remembered_of_modify carrier
        (dischargeMember roomId (room.members.erase clientId).isEmpty) (by simp)
        (fun _ => rfl) fun _ => rfl
  | refuseLeave =>
      rw [removalAnswer_eq]
      exact remembered_of_workers (by simp)
  | expireUpgrade waits listed found upgrading =>
      rename_i carrier roomId room
      obtain ⟨upgrade, running, -⟩ :=
        (wellFormed.rooms roomId room found).upgrading upgrading
      obtain ⟨carrier, carried⟩ := Option.isSome_iff_exists.1
        ((wellFormed.rooms roomId room found).upgrade upgrade running).2.2.1
      obtain ⟨leavers, answers, release, -⟩ :=
        abortUpgrade_released table "WORKER_UNAVAILABLE" found running carried
      exact released table release
  | expireRoom => exact remembered_of_workers (by simp [failExpired])
  | endExpiry waits settled =>
      rename_i expiredId
      unfold RoomTable.releaseWorker
      exact remembered_of_modify expiredId (fun worker =>
        { worker with
          disconnectDeadline := none
          assignedRooms := ∅
          assignedClients := 0 }) (by simp) (fun _ => rfl) fun _ => rfl
  | downgrade order eligible =>
      obtain ⟨room, carrier, initiatorClientId, others, found, forwarded,
        small, noJoin, noLeave, carried, clients⟩ :=
          wellFormed.eligible eligible
      exact released table
        (commitDowngrade_released order found carried clients)
  | pollAction =>
      unfold RoomTable.pollAction
      split <;> exact remembered_of_workers rfl

/-! ## One event -/

namespace RoomTable

variable
  {table : RoomTable}
  {connectionId : Sfu.ConnectionId}
  {instanceId : InstanceId}
  {requestId : Nat}
  {kind : Sfu.EventKind}

theorem knows_of_worker
    {worker : Worker}
    (known : table.workers[instanceId]? = some worker) :
    table.Knows instanceId requestId ↔
      worker.seenEvents.contains requestId = true := by
  simp [Knows, remembered, known, Worker.memory]

/-- An event of another session is refused. -/
theorem handleWorkerEvent_stale
    (order : VisitOrder)
    (kind : Sfu.EventKind)
    (stale : ¬(table.connection? instanceId = some connectionId ∧
      requestId ≠ 0)) :
    ∃ error, table.handleWorkerEvent order connectionId instanceId
      ⟨requestId, kind⟩ = (.error error, table) := by
  unfold handleWorkerEvent
  split
  · exact ⟨_, rfl⟩
  rename_i worker known
  rw [if_pos]
  · exact ⟨_, rfl⟩
  · simp only [connection?, known, Option.bind_some] at stale
    simpa [Classical.or_iff_not_imp_left] using stale

/-- The record of the worker whose session delivers an event. -/
theorem session_record
    (connected : table.connection? instanceId = some connectionId) :
    ∃ worker, table.workers[instanceId]? = some worker ∧
      worker.connectionId = some connectionId := by
  unfold connection? at connected
  obtain ⟨worker, known, current⟩ := Option.bind_eq_some_iff.1 connected
  exact ⟨worker, known, current⟩

/-- An event that is remembered is only acknowledged. -/
theorem handleWorkerEvent_known
    (order : VisitOrder)
    (connected : table.connection? instanceId = some connectionId)
    (numbered : requestId ≠ 0)
    (knows : table.Knows instanceId requestId) :
    table.handleWorkerEvent order connectionId instanceId ⟨requestId, kind⟩ =
      (.ok (), table.pushAction (.sfu (.eventAck connectionId requestId))) := by
  obtain ⟨worker, known, current⟩ := session_record connected
  have seen := (knows_of_worker known).1 knows
  simp [handleWorkerEvent, known, current, numbered, seen]

/-- A signal for a membership that the worker carries is remembered, delivered
and acknowledged. -/
theorem handleWorkerEvent_served
    (order : VisitOrder)
    {signal : Sfu.Signal}
    (connected : table.connection? instanceId = some connectionId)
    (numbered : requestId ≠ 0)
    (fresh : ¬table.Knows instanceId requestId)
    (serves : table.Serves instanceId signal) :
    table.handleWorkerEvent order connectionId instanceId
      ⟨requestId, .signal signal⟩ =
      (.ok (), ((table.modifyWorker instanceId
        (Worker.remember · requestId)).pushAction (.deliver
          ⟨signal.roomId, signal.clientId, signal.messageJson⟩)).pushAction
            (.sfu (.eventAck connectionId requestId))) := by
  obtain ⟨worker, known, current⟩ := session_record connected
  have unseen : ¬worker.seenEvents.contains requestId = true :=
    fun seen => fresh ((knows_of_worker known).2 seen)
  obtain ⟨room, member, found, present, forwarded, carried, epoch, lifecycle⟩ :=
    serves
  simp [handleWorkerEvent, known, current, numbered, unseen, modifyWorker, found,
    present, forwarded, carried, epoch, lifecycle]

/-- Any other signal is remembered and refused. -/
theorem handleWorkerEvent_misaddressed
    (order : VisitOrder)
    {signal : Sfu.Signal}
    (connected : table.connection? instanceId = some connectionId)
    (numbered : requestId ≠ 0)
    (fresh : ¬table.Knows instanceId requestId)
    (misaddressed : ¬table.Serves instanceId signal) :
    ∃ error, table.handleWorkerEvent order connectionId instanceId
      ⟨requestId, .signal signal⟩ = (.error error, table.modifyWorker instanceId
        (Worker.remember · requestId)) := by
  obtain ⟨worker, known, current⟩ := session_record connected
  have unseen : ¬worker.seenEvents.contains requestId = true :=
    fun seen => fresh ((knows_of_worker known).2 seen)
  unfold handleWorkerEvent
  simp only [known, current, numbered, unseen, ne_eq, not_true_eq_false,
    decide_false, Bool.or_self, Bool.false_eq_true, if_false]
  split
  · exact ⟨_, rfl⟩
  rename_i room found
  split
  · exact ⟨_, rfl⟩
  rename_i member present
  rw [if_pos]
  · exact ⟨_, rfl⟩
  · by_contra accepted
    simp only [Bool.or_eq_true, decide_eq_true_eq, not_or, not_not] at accepted
    obtain ⟨⟨⟨forwarded, carried⟩, epoch⟩, lifecycle⟩ := accepted
    exact misaddressed ⟨room, member, found, present, forwarded, carried, epoch,
      lifecycle⟩

/-- Any other event is accepted, and remembered when it is new. -/
theorem handleWorkerEvent_accepted
    (order : VisitOrder)
    (connected : table.connection? instanceId = some connectionId)
    (numbered : requestId ≠ 0)
    (fresh : ¬table.Knows instanceId requestId)
    (plain : ∀ signal, kind ≠ .signal signal) :
    (table.handleWorkerEvent order connectionId instanceId
      ⟨requestId, kind⟩).1 = .ok () ∧
    ∀ otherId, (table.handleWorkerEvent order connectionId instanceId
      ⟨requestId, kind⟩).2.remembered otherId = (table.modifyWorker instanceId
        (Worker.remember · requestId)).remembered otherId := by
  obtain ⟨worker, known, current⟩ := session_record connected
  have unseen : ¬worker.seenEvents.contains requestId = true :=
    fun seen => fresh ((knows_of_worker known).2 seen)
  unfold handleWorkerEvent
  simp only [known, current, numbered, unseen, ne_eq, not_true_eq_false,
    decide_false, Bool.or_self, Bool.false_eq_true, if_false]
  split
  · refine ⟨rfl, fun otherId => ?_⟩
    exact remembered_of_modify instanceId _ rfl (fun _ => rfl) fun _ => rfl
  · exact absurd rfl (plain _)
  · split
    · exact ⟨rfl, fun otherId => remembered_of_workers rfl⟩
    · refine ⟨rfl, fun otherId => remembered_of_workers ?_⟩
      simp only [pushAction, failRoom]
      split <;> rfl

end RoomTable

/-! ## Runs -/

/-- The history of a worker that repeats a signal under one event id. -/
def Retransmits
    (history : History)
    (instanceId : InstanceId)
    (requestId : Nat)
    (signal : Sfu.Signal) : Prop :=
  ∀ entry ∈ history, ∀ connectionId kind,
    entry.2.operation =
      .handleSfuInput (.event connectionId instanceId ⟨requestId, kind⟩) ->
    kind = .signal signal

/-- The step answers an event of a worker with an acknowledgement. -/
def Acknowledges
    (entry : RoomTable × Call)
    (instanceId : InstanceId)
    (requestId : Nat) : Prop :=
  ∃ connectionId kind,
    entry.2.operation =
      .handleSfuInput (.event connectionId instanceId ⟨requestId, kind⟩) ∧
    .sfu (.eventAck connectionId requestId) ∈ entry.1.emitted entry.2

/-- The step turns a signal of a worker into one delivery and acknowledges it. -/
def Delivered
    (entry : RoomTable × Call)
    (instanceId : InstanceId)
    (requestId : Nat)
    (signal : Sfu.Signal) : Prop :=
  ∃ connectionId,
    entry.2.operation = .handleSfuInput
      (.event connectionId instanceId ⟨requestId, .signal signal⟩) ∧
    entry.1.emitted entry.2 =
      [.deliver ⟨signal.roomId, signal.clientId, signal.messageJson⟩,
        .sfu (.eventAck connectionId requestId)]

/-- The step finds the event remembered, and does not deliver it. -/
def Remembered
    (entry : RoomTable × Call)
    (instanceId : InstanceId)
    (requestId : Nat) : Prop :=
  entry.1.Knows instanceId requestId ∧
  ∀ connectionId kind,
    entry.2.operation =
      .handleSfuInput (.event connectionId instanceId ⟨requestId, kind⟩) ->
    ∀ delivery, Action.deliver delivery ∉ entry.1.emitted entry.2

section

variable
  {table : RoomTable}
  {call : Call}
  {connectionId : Sfu.ConnectionId}
  {instanceId : InstanceId}
  {requestId : Nat}
  {kind : Sfu.EventKind}

theorem step_event
    (delivered : call.operation =
      .handleSfuInput (.event connectionId instanceId ⟨requestId, kind⟩)) :
    table.step call = (table.handleWorkerEvent call.order connectionId
      instanceId ⟨requestId, kind⟩).2 := by
  simp only [RoomTable.step, delivered, RoomTable.handleSfuInput]

theorem emitted_event
    (delivered : call.operation =
      .handleSfuInput (.event connectionId instanceId ⟨requestId, kind⟩)) :
    table.emitted call = (table.step call).actions.drop
      table.actions.length := by
  simp only [RoomTable.emitted, delivered]

/-- A new event of the current session is remembered, however it ends. -/
theorem Call.Presents.remembered
    (presents : call.Presents table instanceId requestId kind)
    (otherId : InstanceId) :
    (table.step call).remembered otherId = (table.modifyWorker instanceId
      (Worker.remember · requestId)).remembered otherId := by
  obtain ⟨connectionId, delivered, connected, numbered, fresh⟩ := presents
  rw [step_event delivered]
  by_cases signaled : ∃ signal, kind = .signal signal
  · obtain ⟨signal, rfl⟩ := signaled
    by_cases serves : table.Serves instanceId signal
    · rw [handleWorkerEvent_served _ connected numbered fresh serves]
      exact remembered_of_workers rfl
    · obtain ⟨error, refused⟩ := handleWorkerEvent_misaddressed _ connected
        numbered fresh serves
      rw [refused]
  · exact (handleWorkerEvent_accepted _ connected numbered fresh
      fun signal same => signaled ⟨signal, same⟩).2 otherId

/-- The memory after a new event of a sound memory. -/
theorem Call.Presents.memory
    (presents : call.Presents table instanceId requestId kind)
    (sound : (table.remembered instanceId).Sound) :
    ((table.step call).remembered instanceId).Sound ∧
      (table.step call).Knows instanceId requestId ∧
      ∀ otherId, (table.step call).Knows instanceId otherId ->
        otherId = requestId ∨ table.Knows instanceId otherId := by
  have noted := presents.remembered instanceId
  obtain ⟨connectionId, -, connected, -, fresh⟩ := presents
  obtain ⟨worker, known, -⟩ := session_record connected
  have before : table.remembered instanceId = worker.memory := by
    simp [RoomTable.remembered, known]
  have after : (table.step call).remembered instanceId =
      (worker.remember requestId).memory := by
    rw [noted]
    simp [RoomTable.remembered, RoomTable.modifyWorker, known]
  simp only [RoomTable.Knows, before, after] at *
  exact Worker.remember_spec sound (by
    simpa only [Bool.not_eq_true, Worker.memory] using fresh)

/-- A call keeps a worker's memory, unless it delivers a new event. -/
theorem remembered_step
    (consistent : table.Consistent)
    (call : Call)
    (instanceId : InstanceId) :
    (table.step call).remembered instanceId = table.remembered instanceId ∨
    ∃ requestId kind, call.Presents table instanceId requestId kind := by
  by_cases event : ∃ connectionId otherId requestId kind,
      call.operation =
        .handleSfuInput (.event connectionId otherId ⟨requestId, kind⟩)
  · obtain ⟨connectionId, otherId, requestId, kind, delivered⟩ := event
    by_cases current : table.connection? otherId = some connectionId ∧
        requestId ≠ 0
    swap
    · obtain ⟨error, refused⟩ := handleWorkerEvent_stale _ _ current
      exact Or.inl (by rw [step_event delivered, refused])
    obtain ⟨connected, numbered⟩ := current
    by_cases knows : table.Knows otherId requestId
    · refine Or.inl ?_
      rw [step_event delivered,
        handleWorkerEvent_known _ connected numbered knows]
      exact remembered_of_workers rfl
    have presents : call.Presents table otherId requestId kind :=
      ⟨connectionId, delivered, connected, numbered, knows⟩
    by_cases same : instanceId = otherId
    · subst same
      exact Or.inr ⟨requestId, kind, presents⟩
    · refine Or.inl ((presents.remembered instanceId).trans ?_)
      simp only [RoomTable.remembered, RoomTable.modifyWorker]
      rw [ExtTreeMap.getElem?_modify, if_neg (by simpa using Ne.symm same)]
  · refine Or.inl (consistent.step_invariant (fun _ after =>
      after.remembered instanceId = table.remembered instanceId)
      (fun phase middle move phase' next taken arises kept same => ?_) rfl)
    rw [taken.remembered_kept kept.wellFormed ?_ instanceId, same]
    intro notes
    cases move with
    | noteEvent otherId =>
        obtain ⟨-, connectionId, ⟨requestId, kind⟩, delivered, -⟩ := arises
        exact event ⟨connectionId, otherId, requestId, kind, delivered⟩
    | reportFailure otherId =>
        obtain ⟨-, connectionId, requestId, error, clientId, lifecycleId,
          sdpRequestId, worker, delivered, -⟩ := arises
        exact event ⟨connectionId, otherId, requestId, _, delivered⟩
    | _ => exact notes

/-- The step of a remembered event does not deliver it. -/
theorem remembered_of_knows
    (knows : table.Knows instanceId requestId) :
    Remembered (table, call) instanceId requestId := by
  refine ⟨knows, fun connectionId kind delivered delivery => ?_⟩
  rw [emitted_event delivered, step_event delivered]
  by_cases current : table.connection? instanceId = some connectionId ∧
      requestId ≠ 0
  · rw [handleWorkerEvent_known _ current.1 current.2 knows]
    simp
  · obtain ⟨error, refused⟩ := handleWorkerEvent_stale _ _ current
    rw [refused]
    simp

/-- The step of a new signal that is served delivers it. -/
theorem Call.Presents.delivered
    {signal : Sfu.Signal}
    (presents : call.Presents table instanceId requestId (.signal signal))
    (allowed : ¬call.Misaddresses table) :
    Delivered (table, call) instanceId requestId signal := by
  have serves : table.Serves instanceId signal := by
    by_contra misaddressed
    exact allowed ⟨instanceId, requestId, signal, presents, misaddressed⟩
  obtain ⟨connectionId, delivered, connected, numbered, fresh⟩ := presents
  refine ⟨connectionId, delivered, ?_⟩
  rw [emitted_event delivered, step_event delivered,
    handleWorkerEvent_served _ connected numbered fresh serves]
  simp

end

/-- In every run each worker's memory is sound. -/
theorem sound_of_run
    {reconnectGrace : Duration}
    {history : History}
    {table : RoomTable}
    (run : (RoomTable.machine reconnectGrace).Run history table)
    (instanceId : InstanceId) :
    (table.remembered instanceId).Sound := by
  induction run with
  | start starts =>
      obtain rfl : _ = RoomTable.new reconnectGrace := starts
      exact EventMemory.Sound.empty
  | next call ran sound =>
      have consistent := RoomTable.consistent_of_run ran
      rcases remembered_step consistent call instanceId with
        same | ⟨requestId, kind, presents⟩
      · exact same ▸ sound
      · exact (presents.memory sound).1

/-- The latest delivery of a signal: since then the table has remembered it and
has not delivered it again. -/
def DeliveredOnce
    (history : History)
    (instanceId : InstanceId)
    (requestId : Nat)
    (signal : Sfu.Signal) : Prop :=
  ∃ recent presented older,
    history = recent ++ presented :: older ∧
    ¬presented.1.Knows instanceId requestId ∧
    Delivered presented instanceId requestId signal ∧
    ∀ entry ∈ recent, Remembered entry instanceId requestId

theorem DeliveredOnce.remembered
    {history : History}
    {entry : RoomTable × Call}
    {instanceId : InstanceId}
    {requestId : Nat}
    {signal : Sfu.Signal}
    (once : DeliveredOnce history instanceId requestId signal)
    (remembered : Remembered entry instanceId requestId) :
    DeliveredOnce (entry :: history) instanceId requestId signal := by
  obtain ⟨recent, presented, older, split, fresh, delivered, since⟩ := once
  refine ⟨entry :: recent, presented, older, by rw [split]; rfl, fresh,
    delivered, fun other listed => ?_⟩
  rcases List.mem_cons.1 listed with rfl | earlier
  · exact remembered
  · exact since other earlier

/-- A repeated signal that is remembered has been delivered. -/
theorem delivered_of_run
    {reconnectGrace : Duration}
    {history : History}
    {table : RoomTable}
    {instanceId : InstanceId}
    {requestId : Nat}
    {signal : Sfu.Signal}
    (run : (RoomTable.machine reconnectGrace).Run history table)
    (guarded : Machine.Guarded (fun table call => ¬call.Misaddresses table)
      history)
    (retransmits : Retransmits history instanceId requestId signal)
    (knows : table.Knows instanceId requestId) :
    DeliveredOnce history instanceId requestId signal := by
  induction run with
  | start starts =>
      obtain rfl : _ = RoomTable.new reconnectGrace := starts
      simp [RoomTable.Knows, RoomTable.remembered] at knows
  | next call ran inductionHypothesis =>
      rename_i history before
      by_cases already : before.Knows instanceId requestId
      · have once := inductionHypothesis guarded.tail (fun entry listed =>
          retransmits entry (List.mem_cons_of_mem _ listed)) already
        exact once.remembered (remembered_of_knows already)
      rcases remembered_step (RoomTable.consistent_of_run ran) call instanceId with
        same | ⟨otherId, kind, presents⟩
      · rw [RoomTable.Knows, RoomTable.machine] at knows
        dsimp only at knows
        rw [same] at knows
        exact absurd knows already
      · rcases (presents.memory (sound_of_run ran instanceId)).2.2 requestId knows
          with rfl | known
        swap
        · exact absurd known already
        obtain ⟨connectionId, delivered, -⟩ := id presents
        obtain rfl := retransmits _ List.mem_cons_self connectionId kind delivered
        exact ⟨[], _, history, rfl, already, presents.delivered guarded.head,
          by simp⟩

/-- A refused event leaves the table as it was, exactly when it is not a new
signal for a membership that its worker does not carry. -/
theorem traceless_iff
    {reconnectGrace : Duration}
    {history : History}
    {table : RoomTable}
    (run : (RoomTable.machine reconnectGrace).Run history table)
    (order : VisitOrder)
    (connectionId : Sfu.ConnectionId)
    (instanceId : InstanceId)
    (requestId : Nat)
    (kind : Sfu.EventKind) :
    ((∃ error, (table.handleWorkerEvent order connectionId instanceId
        ⟨requestId, kind⟩).1 = .error error) ->
      (table.handleWorkerEvent order connectionId instanceId
        ⟨requestId, kind⟩).2 = table) ↔
    ¬Call.Misaddresses ⟨.handleSfuInput (.event connectionId instanceId
      ⟨requestId, kind⟩), order⟩ table := by
  constructor
  · rintro traceless ⟨otherId, eventId, signal, presents, misaddressed⟩
    have memory := presents.memory (sound_of_run run otherId)
    obtain ⟨sessionId, delivered, connected, numbered, fresh⟩ := presents
    cases delivered
    obtain ⟨error, refused⟩ := handleWorkerEvent_misaddressed order
      connected numbered fresh misaddressed
    have same := traceless ⟨error, by rw [refused]⟩
    have knows := memory.2.1
    rw [step_event rfl, same] at knows
    exact fresh knows
  · rintro addressed ⟨error, refused⟩
    by_cases current : table.connection? instanceId = some connectionId ∧
        requestId ≠ 0
    swap
    · obtain ⟨error, stale⟩ := handleWorkerEvent_stale order kind current
      rw [stale]
    obtain ⟨connected, numbered⟩ := current
    by_cases knows : table.Knows instanceId requestId
    · rw [handleWorkerEvent_known _ connected numbered knows] at refused
      cases refused
    by_cases signaled : ∃ signal, kind = .signal signal
    · obtain ⟨signal, rfl⟩ := signaled
      have serves : table.Serves instanceId signal := by
        by_contra misaddressed
        exact addressed ⟨instanceId, requestId, signal,
          ⟨connectionId, rfl, connected, numbered, knows⟩, misaddressed⟩
      rw [handleWorkerEvent_served _ connected numbered knows serves] at refused
      cases refused
    · have accepted := (handleWorkerEvent_accepted order connected
        numbered knows fun signal same => signaled ⟨signal, same⟩).1
      rw [accepted] at refused
      cases refused

/-- Without such signals, the acknowledgement of a repeated signal stands for one
delivery. -/
theorem delivered_of_acknowledged
    {reconnectGrace : Duration}
    {older : History}
    {before : RoomTable}
    {call : Call}
    {instanceId : InstanceId}
    {requestId : Nat}
    {signal : Sfu.Signal}
    (ran : (RoomTable.machine reconnectGrace).Run older before)
    (guarded : Machine.Guarded (fun table call => ¬call.Misaddresses table)
      ((before, call) :: older))
    (retransmits : Retransmits ((before, call) :: older) instanceId requestId
      signal)
    (acknowledges : Acknowledges (before, call) instanceId requestId) :
    DeliveredOnce ((before, call) :: older) instanceId requestId signal := by
  by_cases knows : before.Knows instanceId requestId
  · have once := delivered_of_run ran guarded.tail
      (fun entry listed => retransmits entry (List.mem_cons_of_mem _ listed))
      knows
    exact once.remembered (remembered_of_knows knows)
  obtain ⟨connectionId, kind, delivered, acknowledged⟩ := acknowledges
  obtain rfl := retransmits (before, call) List.mem_cons_self connectionId kind delivered
  by_cases current : before.connection? instanceId = some connectionId ∧
      requestId ≠ 0
  swap
  · obtain ⟨error, stale⟩ := handleWorkerEvent_stale _ _ current
    rw [emitted_event delivered, step_event delivered, stale] at acknowledged
    simp at acknowledged
  have presents : call.Presents before instanceId requestId (.signal signal) :=
    ⟨connectionId, delivered, current.1, current.2, knows⟩
  exact ⟨[], _, older, rfl, knows, presents.delivered guarded.head,
    by simp⟩

/-- A refused event leaves the table as it was, exactly when it is not a new
signal for a membership that its worker does not carry; and in every run without
such a signal, the acknowledgement of a signal that its worker repeats stands for
one delivery since the signal was last new. -/
theorem refused_events_traceless
    {reconnectGrace : Duration}
    {history : History}
    {table : RoomTable}
    (run : (RoomTable.machine reconnectGrace).Run history table) :
    (∀ order connectionId instanceId event,
      ((∃ error, (table.handleSfuInput order
          (.event connectionId instanceId event)).1 = .error error) ->
        (table.handleSfuInput order
          (.event connectionId instanceId event)).2 = table) ↔
      ¬Call.Misaddresses
        ⟨.handleSfuInput (.event connectionId instanceId event), order⟩ table) ∧
    (Machine.Guarded (fun table call => ¬call.Misaddresses table) history ->
      ∀ instanceId requestId signal,
        Retransmits history instanceId requestId signal ->
        ∀ newer acknowledged older, history = newer ++ acknowledged :: older ->
          Acknowledges acknowledged instanceId requestId ->
          DeliveredOnce (acknowledged :: older) instanceId requestId signal) := by
  refine ⟨fun order connectionId instanceId ⟨requestId, kind⟩ =>
    traceless_iff run order connectionId instanceId requestId kind,
    fun guarded instanceId requestId signal retransmits newer ⟨before, call⟩ older
      split acknowledges => ?_⟩
  subst split
  exact delivered_of_acknowledged run.before guarded.older
    (fun entry listed => retransmits entry (List.mem_append_right _ listed))
    acknowledges

/-- The worker's signal as the run sends it, and sends it again. -/
def repeatedOperations : List Operation :=
  forwardedOperations ++ [signaled 2 1 2, signaled 2 1 2]

/-- The worker event that a call carries, with the worker that sends it. -/
def Call.event? (call : Call) : Option (InstanceId × Sfu.Event) :=
  match call.operation with
  | .handleSfuInput (.event _ instanceId event) => some (instanceId, event)
  | _ => none

/-- The signal that an event is about. -/
def signalOf : Sfu.EventKind -> Option Sfu.Signal
  | .signal signal => some signal
  | _ => none

theorem refused_events_traceless_repeated :
    DeliveredOnce (RoomTable.played 0 repeatedOperations).1 "sfu" 2
      ⟨exampleRoomId, 1, 2, 1, "candidate", none⟩ := by
  have served : (RoomTable.played 0 repeatedOperations).1.all (fun entry =>
      entry.2.event?.all fun sent => (signalOf sent.2.event).all fun signal =>
        decide (entry.1.Serves sent.1 signal)) = true := by
    decide +kernel
  have guarded : Machine.Guarded (fun table call => ¬call.Misaddresses table)
      (RoomTable.played 0 repeatedOperations).1 := by
    rintro entry taken ⟨instanceId, requestId, signal,
      ⟨connectionId, delivered, -⟩, misaddressed⟩
    have checked := List.all_eq_true.1 served entry taken
    simp only [Call.event?, delivered, signalOf, Option.all_some,
      decide_eq_true_eq] at checked
    exact misaddressed checked
  have same : (RoomTable.played 0 repeatedOperations).1.all (fun entry =>
      entry.2.event?.all fun sent => decide (sent.2.requestId = 2 ->
        sent.2.event = .signal ⟨exampleRoomId, 1, 2, 1, "candidate",
          none⟩)) = true := by
    decide +kernel
  refine (refused_events_traceless (RoomTable.played_run 0 repeatedOperations)).2
    guarded "sfu" 2 _ (fun entry taken connectionId kind delivered => ?_) [] _ _
    rfl ⟨1, _, rfl, ?_⟩
  · have checked := List.all_eq_true.1 same entry taken
    simp only [Call.event?, delivered, Option.all_some, decide_eq_true_eq,
      forall_const] at checked
    exact checked
  · decide +kernel

/-- A signal for a room that does not exist is refused, yet remembered: the
worker's repetition of it is acknowledged. -/
theorem refused_signal_remembered :
    ¬∀ (history : History) (table : RoomTable) (order : VisitOrder)
        (connectionId : Sfu.ConnectionId) (instanceId : InstanceId)
        (event : Sfu.Event),
      (RoomTable.machine 0).Run history table ->
      (∃ error, (table.handleSfuInput order
        (.event connectionId instanceId event)).1 = .error error) ->
      (table.handleSfuInput order
        (.event connectionId instanceId event)).2 = table := by
  intro traceless
  let operations : List Operation :=
    [.handleSfuInput (.register 1 "sfu" 1 ⟨1, 3⟩)]
  let event : Sfu.Event :=
    ⟨2, .signal ⟨exampleRoomId, 1, 2, 1, "candidate", none⟩⟩
  have same := traceless _ _ .sorted 1 "sfu" event
    (RoomTable.played_run 0 operations) ⟨"ROOM_NOT_FOUND", by decide +kernel⟩
  have repeated := congrArg
    (fun table => (table.handleSfuInput .sorted (.event 1 "sfu" event)).1) same
  revert repeated
  decide +kernel

end V2
end Signaling
