import Signaling.V2.Replays

/-!
# Resuming a worker

What a worker that registers again is handed of the commands that it still
owes an answer, when it confirms every synchronization that it is asked for.
-/

namespace Signaling
namespace V2

open Std (ExtTreeMap ExtTreeSet)
open RoomTable

/-! ## The registration -/

/-- The call registers the worker on the connection. -/
def Call.Registering
    (call : Call)
    (connectionId : Sfu.ConnectionId)
    (instanceId : InstanceId) : Prop :=
  ∃ requestId capacity, call.operation = .handleSfuInput
    (.register connectionId instanceId requestId capacity)

/-- A known worker registers again, by a valid request. -/
def Call.Rejoins
    (call : Call)
    (table : RoomTable)
    (connectionId : Sfu.ConnectionId)
    (instanceId : InstanceId) : Prop :=
  ∃ requestId capacity, call.operation = .handleSfuInput
      (.register connectionId instanceId requestId capacity) ∧
    (table.workers[instanceId]?).isSome ∧ instanceId.isEmpty = false ∧
    requestId ≠ 0 ∧ capacity.maxRooms ≠ 0 ∧ capacity.maxClients ≠ 0

/-- What a registration makes of a command that the worker owes an answer to:
one synchronization holds it back, if the worker is asked for its room. -/
theorem registration
    {table : RoomTable}
    {call : Call}
    {connectionId : Sfu.ConnectionId}
    {instanceId : InstanceId}
    {command : Sfu.Command}
    (consistent : table.Consistent)
    (filed : Filed table)
    (rejoins : call.Rejoins table connectionId instanceId)
    (unspent : (table.step call).nextSfuRequestId < u64Max)
    (owes : table.Owes instanceId command) :
    (table.step call).connection? instanceId = some connectionId ∧
    (table.step call).Owes instanceId command ∧
    handedAs command.requestId (handed (table.emitted call)) = [] ∧
    (table.Resumes instanceId (commandRoomId command) ->
      ∃ syncId, (table.step call).HeldBy instanceId command syncId ∧
        syncId < (table.step call).nextSfuRequestId) ∧
    (¬table.Resumes instanceId (commandRoomId command) ->
      (table.step call).Free command.requestId) := by
  obtain ⟨requestId, capacity, asked, known, named, numbered, rooms, clients⟩ :=
    rejoins
  obtain ⟨worker, known⟩ := Option.isSome_iff_exists.1 known
  have bounded := consistent.wellFormed.counter
  have stepped : table.step call = (table.registerWorker call.order connectionId
      instanceId requestId capacity).2 := by
    simp [RoomTable.step, asked, handleSfuInput]
  have older := (filed.texts command.requestId command owes.text).2.1
  rcases registerWorker_cases table call.order connectionId instanceId requestId
    capacity with ⟨notice, invalid, -⟩ | ⟨notices, nothing, bound⟩
  · simp [named, numbered, rooms, clients] at invalid
  rw [← stepped, known] at bound
  -- The table before the rooms are synchronized.
  obtain ⟨base, based⟩ : ∃ base, ((table.connectWorker connectionId instanceId
    capacity).pushActions notices).retireAll (table.syncsOf instanceId) = base :=
    ⟨_, rfl⟩
  have baseFiled : Filed base := by
    rw [← based]
    exact ((filed.connect connectionId instanceId capacity).pushActions
      notices).retireAll _
  have baseNext : base.nextSfuRequestId = table.nextSfuRequestId := by
    rw [← based]
    simp [RoomTable.connectWorker]
  have baseRooms : base.rooms = table.rooms := by
    rw [← based]
    simp [RoomTable.connectWorker]
  have baseSession : base.connection? instanceId = some connectionId := by
    rw [← based]
    simp [RoomTable.connection?, RoomTable.connectWorker]
  have basePending (otherId : Nat) : base.pendingCommands[otherId]? =
      if otherId ∈ table.syncsOf instanceId then none
      else table.pendingCommands[otherId]? := by
    rw [← based, retireAll_pendingCommands]
    simp [RoomTable.connectWorker]
  have unlisted : command.requestId ∉ table.syncsOf instanceId := by
    intro listed
    simp only [RoomTable.syncsOf, List.mem_map, List.mem_filter] at listed
    obtain ⟨⟨otherId, pending⟩, ⟨outstanding, sync⟩, rfl⟩ := listed
    have outstanding := ExtTreeMap.mem_toList_iff_getElem?_eq_some.1 outstanding
    obtain ⟨-, -, recorded, waits, agrees⟩ := filed.texts _ command owes.text
    rw [outstanding] at waits
    cases waits
    rw [owes.original] at agrees
    cases pending <;> simp_all [PendingCommand.isSync, PendingCommand.isSyncOf]
  have baseOwes : base.Owes instanceId command := by
    refine ⟨?_, ?_, owes.original⟩
    · rw [← based, retireAll_unacknowledgedCommands, if_neg unlisted]
      simpa [RoomTable.connectWorker] using owes.text
    · rw [← based, retireAll_commandWorkers, if_neg unlisted]
      simpa [RoomTable.connectWorker] using owes.worker
  have baseFree : base.Free command.requestId := by
    intro syncId pending outstanding holds
    rw [basePending] at outstanding
    split at outstanding
    · cases outstanding
    · rename_i elsewhere
      obtain ⟨other, roomId, epoch, replay, rfl, held, listed, number⟩ := holds
      have owned := (filed.replays syncId other roomId epoch replay outstanding
        held listed).2.2.2 instanceId (by rw [number]; exact owes.worker)
      subst owned
      refine elsewhere ?_
      simp only [RoomTable.syncsOf, List.mem_map, List.mem_filter]
      exact ⟨(syncId, _), ⟨ExtTreeMap.mem_toList_iff_getElem?_eq_some.2
        outstanding, by simp [PendingCommand.isSyncOf]⟩, rfl⟩
  rw [based, Option.getD_some] at bound
  have lists (roomId : RoomId) :
      roomId ∈ worker.assignedRooms.toList ↔ table.Lists instanceId roomId := by
    simp [RoomTable.Lists, known]
  have baseBounded : base.nextSfuRequestId ≤ u64Max := baseNext.symm ▸ bounded
  have baseOlder : command.requestId < base.nextSfuRequestId := by
    rw [baseNext]
    exact older
  have same : SameCommand base (table.step call) command.requestId := by
    rw [bound]
    exact Filed.syncRooms_same _ baseBounded baseOlder
  rw [bound] at unspent same ⊢
  refine ⟨?_, ⟨same.2.2.trans baseOwes.text, same.2.1.trans baseOwes.worker,
    owes.original⟩, ?_, fun resumes => ?_, fun stays => ?_⟩
  · simp only [RoomTable.connection?, (Filed.syncRooms_kept _).2]
    exact baseSession
  · exact handedAs_of_fresh older (registers_fresh consistent asked)
  · refine syncRooms_held _ baseFiled baseBounded unspent ?_ baseOwes
      ((lists _).2 resumes.1) (by rw [baseRooms]; exact resumes.2) baseFree
    exact ExtTreeSet.distinct_toList.imp fun apart same =>
      apart (by rw [same]; exact Std.ReflCmp.compare_self)
  · refine (syncRooms_carries _ baseFiled baseBounded unspent baseOlder
      fun held number owed listed => ?_).free baseFree
    have text := owed.text
    rw [number, baseOwes.text] at text
    obtain rfl := Option.some.inj text
    by_contra present
    exact stays ⟨(lists _).1 listed, by
      rw [← baseRooms]
      exact Option.isSome_iff_ne_none.2 present⟩

/-! ## The time after the registration -/

/-- A call that does not register the worker either releases a replay, or hands
out only new commands and starts no synchronization that holds back the
command. -/
theorem step_carries
    {table : RoomTable}
    {call : Call}
    {instanceId : InstanceId}
    {requestId : Nat}
    (consistent : table.Consistent)
    (filed : Filed table)
    (apart : ∀ connectionId, ¬call.Registering connectionId instanceId)
    (unspent : (table.step call).nextSfuRequestId < u64Max)
    (older : requestId < table.nextSfuRequestId)
    (owned : ∀ owner, table.commandWorkers[requestId]? = some owner ->
      owner = instanceId) :
    (∀ connectionId,
      (table.step call).connection? instanceId = some connectionId ->
      table.connection? instanceId = some connectionId) ∧
    Carries requestId table (table.step call) ∧
    ((handedAs requestId (handed (table.emitted call)) = [] ∧
        ∀ otherId syncId pending, pending.isSync = true ->
          ¬call.Accepts table otherId syncId pending) ∨
      ∃ otherId syncId roomId assignmentEpoch replay connectionId,
        call.Accepts table otherId syncId
          (.syncRoom otherId roomId assignmentEpoch replay) ∧
        table.pendingCommands[syncId]? =
          some (.syncRoom otherId roomId assignmentEpoch replay) ∧
        table.connection? otherId = some connectionId ∧
        (table.step call).pendingCommands =
          table.pendingCommands.erase syncId ∧
        handedAs requestId (handed (table.emitted call)) =
          (replay.filter fun held => held.requestId = requestId).map
            (connectionId, ·)) := by
  have bounded := consistent.wellFormed.counter
  cases step_filing consistent call with
  | polled rest polls stepped =>
      rw [stepped]
      refine ⟨fun _ session => session, .of_same (fun _ => ⟨rfl, rfl, rfl⟩) rfl,
        .inl ⟨?_, fun otherId syncId pending _ accepts => ?_⟩⟩
      · simp [RoomTable.emitted, polls, handed, handedAs]
      · obtain ⟨_, ⟨_, _, asked, -⟩, -⟩ := accepts
        rw [polls] at asked
        cases asked
  | registered asked stepped =>
      rename_i connectionId otherId registerId capacity
      have other : otherId ≠ instanceId := by
        rintro rfl
        exact apart connectionId ⟨registerId, capacity, asked⟩
      have unanswered : ∀ otherId syncId pending, pending.isSync = true ->
          ¬call.Accepts table otherId syncId pending := by
        rintro otherId syncId pending - ⟨_, ⟨_, _, again, -⟩, -⟩
        rw [asked] at again
        cases again
      have quiet := handedAs_of_fresh older (registers_fresh consistent asked)
      rcases registerWorker_cases table call.order connectionId otherId
        registerId capacity with ⟨notice, -, -, refused⟩ | ⟨notices, -, bound⟩
      · rw [← stepped] at refused
        refine ⟨?_, ?_, .inl ⟨quiet, unanswered⟩⟩
        · rw [refused]
          exact fun _ session => session
        · rw [refused]
          exact .of_same (fun _ => ⟨rfl, rfl, rfl⟩) rfl
      · rw [← stepped] at bound
        obtain ⟨base, based⟩ : ∃ base, ((table.connectWorker connectionId otherId
          capacity).pushActions notices).retireAll (table.syncsOf otherId) =
            base := ⟨_, rfl⟩
        rw [based] at bound
        have baseFiled : Filed base := by
          rw [← based]
          exact ((filed.connect connectionId otherId capacity).pushActions
            notices).retireAll _
        have baseNext : base.nextSfuRequestId = table.nextSfuRequestId := by
          rw [← based]
          simp [RoomTable.connectWorker]
        have baseCarries : Carries requestId table base := by
          rw [← based]
          exact (Carries.of_same (fun _ => by
            simp [SameCommand, RoomTable.connectWorker])
              (by simp [RoomTable.connectWorker])).trans (.retireAll _)
        have baseBounded : base.nextSfuRequestId ≤ u64Max :=
          baseNext.symm ▸ bounded
        have baseOlder : requestId < base.nextSfuRequestId :=
          baseNext.symm ▸ older
        refine ⟨fun session connected => ?_, ?_, .inl ⟨quiet, unanswered⟩⟩
        · rw [bound] at connected
          simp only [RoomTable.connection?, (Filed.syncRooms_kept _).2]
            at connected
          rw [← based] at connected
          simpa [RoomTable.connection?, RoomTable.connectWorker,
            ExtTreeMap.getElem?_insert, other] using connected
        · rw [bound] at unspent ⊢
          refine baseCarries.trans (syncRooms_carries _ baseFiled baseBounded
            unspent baseOlder fun held number owed _ => ?_)
          have worker := owed.worker
          rw [number] at worker
          exact absurd (owned _ (baseCarries.owners _ worker)) other
  | released accepts outstanding connected stepped =>
      rename_i otherId syncId roomId assignmentEpoch replay connectionId
      refine ⟨?_, ?_, .inr ⟨otherId, syncId, roomId, assignmentEpoch, replay,
        connectionId, accepts, outstanding, connected, ?_, ?_⟩⟩
      · intro session after
        rw [stepped] at after
        simpa [RoomTable.replayCommands, RoomTable.connection?] using after
      · rw [stepped]
        exact (Carries.retire syncId).trans (.of_same
          (fun _ => by simp [SameCommand, RoomTable.replayCommands])
          (by simp [RoomTable.replayCommands]))
      · rw [stepped]
        simp [RoomTable.replayCommands]
      · obtain ⟨carrier, session, all⟩ := handed_of_accepts accepts
        obtain rfl := Option.some.inj (session.symm.trans connected)
        rw [all, handedAs_replay]
  | filed appends unregistered holds steps =>
      obtain ⟨new, appended, fresh⟩ := steps.fresh bounded
      rw [emitted_of_append appends appended]
      exact ⟨fun _ session => steps.connections session,
        .ledger steps bounded older fun _ _ _ issued => issued.1,
        .inl ⟨handedAs_of_fresh older fresh, holds⟩⟩

/-- A worker registers again, and from there on, without another registration,
confirms every synchronization that it was asked for. -/
structure Resumption
    (reconnectGrace : Duration)
    (older newer : History)
    (table last : RoomTable)
    (call : Call)
    (connectionId : Sfu.ConnectionId)
    (instanceId : InstanceId) : Prop where
  run : (machine reconnectGrace).Run (newer ++ (table, call) :: older) last
  rejoins : call.Rejoins table connectionId instanceId
  stays : ∀ event ∈ newer, ∀ otherConnection,
    ¬event.2.Registering otherConnection instanceId
  confirmed : ∀ (syncId : Nat) pending,
    (table.step call).pendingCommands[syncId]? = some pending ->
    pending.isSyncOf instanceId = true ->
    ∃ event ∈ newer, event.2.Accepts event.1 instanceId syncId pending

/-- The commands handed out since the registration. -/
def sentSince
    (newer : History)
    (table : RoomTable)
    (call : Call) : List (Sfu.ConnectionId × Sfu.Command) :=
  sentIn (newer ++ [(table, call)])

/-- A fact about the time since a registration holds throughout when it holds
after the registration and every later call preserves it. -/
theorem since_invariant
    {reconnectGrace : Duration}
    {older newer : History}
    {table last : RoomTable}
    {call : Call}
    {instanceId : InstanceId}
    (holds : History -> RoomTable -> Prop)
    (run : (machine reconnectGrace).Run (newer ++ (table, call) :: older) last)
    (unspent : last.nextSfuRequestId < u64Max)
    (stays : ∀ event ∈ newer, ∀ otherConnection,
      ¬event.2.Registering otherConnection instanceId)
    (initial : (table.step call).nextSfuRequestId < u64Max ->
      holds [] (table.step call))
    (preserved : ∀ newer state input, RoomTable.Consistent state -> Filed state ->
      (state.step input).nextSfuRequestId < u64Max ->
      (∀ otherConnection, ¬input.Registering otherConnection instanceId) ->
      holds newer state -> holds ((state, input) :: newer) (state.step input)) :
    holds newer last := by
  induction newer generalizing last with
  | nil =>
      cases run
      exact initial unspent
  | cons event newer inductionHypothesis =>
      obtain ⟨state, input⟩ := event
      cases run with
      | next input run =>
          have consistent := consistent_of_run run
          have earlier := lt_of_le_of_lt (consistent.next_le input) unspent
          exact preserved newer state input consistent (filed_of_run run earlier)
            unspent (stays _ List.mem_cons_self) (inductionHypothesis run earlier
              fun event listed => stays event (List.mem_cons_of_mem _ listed))

/-- What is known of an unanswered command after the registration. -/
structure Tracked
    (table : RoomTable)
    (instanceId : InstanceId)
    (requestId : Nat) : Prop where
  older : requestId < table.nextSfuRequestId
  owned : ∀ owner, table.commandWorkers[requestId]? = some owner ->
    owner = instanceId

theorem Tracked.carries
    {table after : RoomTable}
    {instanceId : InstanceId}
    {requestId : Nat}
    (tracked : Tracked table instanceId requestId)
    (carries : Carries requestId table after) :
    Tracked after instanceId requestId where
  older := lt_of_lt_of_le tracked.older carries.next
  owned owner named := tracked.owned owner (carries.owners owner named)

theorem Tracked.of_owes
    {table : RoomTable}
    {instanceId : InstanceId}
    {command : Sfu.Command}
    (filed : Filed table)
    (owes : table.Owes instanceId command) :
    Tracked table instanceId command.requestId where
  older := (filed.texts command.requestId command owes.text).2.1
  owned owner named := by
    rw [owes.worker] at named
    exact (Option.some.inj named).symm

/-- A replay does not hold a command that no synchronization holds back. -/
theorem RoomTable.Free.filter
    {table : RoomTable}
    {requestId syncId assignmentEpoch : Nat}
    {instanceId : InstanceId}
    {roomId : RoomId}
    {replay : List Sfu.Command}
    (free : table.Free requestId)
    (outstanding : table.pendingCommands[syncId]? =
      some (.syncRoom instanceId roomId assignmentEpoch replay)) :
    (replay.filter fun held => held.requestId = requestId) = [] := by
  refine List.filter_eq_nil_iff.2 fun held listed same => ?_
  exact free syncId _ outstanding ⟨instanceId, roomId, assignmentEpoch, replay,
    rfl, held, listed, by simpa using same⟩

variable
  {reconnectGrace : Duration}
  {older newer : History}
  {table last : RoomTable}
  {call : Call}
  {connectionId : Sfu.ConnectionId}
  {instanceId : InstanceId}
  {command : Sfu.Command}

theorem sentSince_cons
    (state : RoomTable)
    (input : Call) :
    sentSince ((state, input) :: newer) table call =
      sentSince newer table call ++ handed (state.emitted input) := rfl

theorem sentSince_nil :
    sentSince [] table call = handed (table.emitted call) := by
  simp [sentSince, sentIn]

/-- A command of a room that the worker is not asked for is not handed out
again. -/
theorem Resumption.stranded
    (resumption : Resumption reconnectGrace older newer table last call
      connectionId instanceId)
    (unspent : last.nextSfuRequestId < u64Max)
    (owes : table.Owes instanceId command)
    (stranded : ¬table.Resumes instanceId (commandRoomId command)) :
    handedAs command.requestId (sentSince newer table call) = [] := by
  have consistent := consistent_of_run resumption.run.before
  have kept := since_invariant (fun newer state =>
      Tracked state instanceId command.requestId ∧
      state.Free command.requestId ∧
      handedAs command.requestId (sentSince newer table call) = [])
    resumption.run unspent resumption.stays
    (fun unspent => by
      have filed := filed_of_run resumption.run.before
        (lt_of_le_of_lt (consistent.next_le call) unspent)
      obtain ⟨-, owes, quiet, -, free⟩ :=
        registration consistent filed resumption.rejoins unspent owes
      have after := (filed.step consistent unspent)
      exact ⟨.of_owes after owes, free stranded, sentSince_nil ▸ quiet⟩)
    (fun newer state input consistent filed unspent apart kept => by
      obtain ⟨tracked, free, quiet⟩ := kept
      obtain ⟨-, carries, outcome⟩ := step_carries consistent filed apart unspent
        tracked.older tracked.owned
      refine ⟨tracked.carries carries, carries.free free, ?_⟩
      rw [sentSince_cons, handedAs_append, quiet, List.nil_append]
      rcases outcome with ⟨silent, -⟩ | ⟨_, _, _, _, _, _, -, outstanding, -, -,
        replayed⟩
      · exact silent
      · rw [replayed, free.filter outstanding]
        rfl)
  exact kept.2.2

/-- How far the replay of a command has come: its synchronization waits or was
given up, and the command has not gone out; or the synchronization was
confirmed, and the command has gone out once. -/
def Replaying
    (connectionId : Sfu.ConnectionId)
    (instanceId : InstanceId)
    (command : Sfu.Command)
    (syncId : Nat)
    (newer : History)
    (sent : List (Sfu.ConnectionId × Sfu.Command))
    (state : RoomTable) : Prop :=
  (handedAs command.requestId sent = [] ∧
    (∀ event ∈ newer, ∀ pending, pending.isSync = true ->
      ¬event.2.Accepts event.1 instanceId syncId pending) ∧
    (state.HeldBy instanceId command syncId ∨
      state.pendingCommands[syncId]? = none ∧ state.Free command.requestId)) ∨
  handedAs command.requestId sent = [(connectionId, command)] ∧
    state.Free command.requestId

/-- One call brings the replay of a command forward or leaves it where it is. -/
theorem Replaying.step
    {syncId : Nat}
    {sent : List (Sfu.ConnectionId × Sfu.Command)}
    {state : RoomTable}
    {input : Call}
    (replaying : Replaying connectionId instanceId command syncId newer sent
      state)
    (carries : Carries command.requestId state (state.step input))
    (issued : syncId < state.nextSfuRequestId)
    (session : ∀ other, state.connection? instanceId = some other ->
      other = connectionId)
    (outcome : (handedAs command.requestId (handed (state.emitted input)) = [] ∧
        ∀ otherId otherSync pending, pending.isSync = true ->
          ¬input.Accepts state otherId otherSync pending) ∨
      ∃ otherId otherSync roomId assignmentEpoch replay otherConnection,
        input.Accepts state otherId otherSync
          (.syncRoom otherId roomId assignmentEpoch replay) ∧
        state.pendingCommands[otherSync]? =
          some (.syncRoom otherId roomId assignmentEpoch replay) ∧
        state.connection? otherId = some otherConnection ∧
        (state.step input).pendingCommands =
          state.pendingCommands.erase otherSync ∧
        handedAs command.requestId (handed (state.emitted input)) =
          (replay.filter fun held => held.requestId = command.requestId).map
            (otherConnection, ·)) :
    Replaying connectionId instanceId command syncId ((state, input) :: newer)
      (sent ++ handed (state.emitted input)) (state.step input) := by
  have unaccepted (unanswered : ∀ event ∈ newer, ∀ pending,
        pending.isSync = true ->
        ¬event.2.Accepts event.1 instanceId syncId pending)
      (now : ∀ pending, pending.isSync = true ->
        ¬input.Accepts state instanceId syncId pending) :
      ∀ event ∈ (state, input) :: newer, ∀ pending, pending.isSync = true ->
        ¬event.2.Accepts event.1 instanceId syncId pending := by
    intro event listed
    rcases List.mem_cons.1 listed with rfl | older
    · exact now
    · exact unanswered event older
  rcases replaying with ⟨quiet, unanswered, held | ⟨gone, free⟩⟩ | ⟨sent, free⟩
  -- The synchronization waits.
  · obtain ⟨⟨roomId, epoch, replay, waits, once⟩, alone⟩ := held
    have kept {other : Nat} {pending : PendingCommand}
        (outstanding : (state.step input).pendingCommands[other]? =
          some pending)
        (holds : pending.Holds command.requestId) : other = syncId :=
      alone other pending (carries.held other pending outstanding holds) holds
    rcases outcome with ⟨silent, holds⟩ | ⟨otherId, otherSync, otherRoom,
      otherEpoch, released, otherConnection, accepts, outstanding, connected,
      erased, replayed⟩
    · refine .inl ⟨by rw [handedAs_append, quiet, silent]; rfl,
        unaccepted unanswered (holds instanceId syncId), ?_⟩
      cases after : (state.step input).pendingCommands[syncId]? with
      | none =>
          refine .inr ⟨rfl, fun other pending outstanding holds => ?_⟩
          obtain rfl := kept outstanding holds
          rw [after] at outstanding
          cases outstanding
      | some pending =>
          have before := carries.older syncId pending issued after
          rw [waits] at before
          cases before
          exact .inl ⟨⟨roomId, epoch, replay, after, once⟩,
            fun _ _ outstanding holds => kept outstanding holds⟩
    · by_cases own : otherSync = syncId
      · subst own
        rw [waits] at outstanding
        cases outstanding
        obtain rfl := session otherConnection connected
        refine .inr ⟨?_, fun other pending outstanding holds => ?_⟩
        · rw [handedAs_append, quiet, replayed, once]
          rfl
        · obtain rfl := kept outstanding holds
          rw [erased] at outstanding
          simp at outstanding
      · have elsewhere : (released.filter fun held =>
            held.requestId = command.requestId) = [] := by
          refine List.filter_eq_nil_iff.2 fun held listed same => own ?_
          exact alone otherSync _ outstanding ⟨otherId, otherRoom, otherEpoch,
            released, rfl, held, listed, by simpa using same⟩
        refine .inl ⟨?_, unaccepted unanswered fun pending _ other => ?_, .inl
          ⟨⟨roomId, epoch, replay, ?_, once⟩, fun _ _ outstanding holds =>
            kept outstanding holds⟩⟩
        · rw [handedAs_append, quiet, replayed, elsewhere]
          rfl
        · obtain ⟨_, answers, -⟩ := accepts
          obtain ⟨_, others, -⟩ := other
          exact own (answers.same others).2.1.symm
        · rw [erased, ExtTreeMap.getElem?_erase]
          simpa [own] using waits
  -- The synchronization was given up.
  · have still : (state.step input).pendingCommands[syncId]? = none := by
      by_contra present
      obtain ⟨pending, outstanding⟩ := Option.ne_none_iff_exists'.1 present
      rw [carries.older syncId pending issued outstanding] at gone
      cases gone
    refine .inl ⟨?_, unaccepted unanswered fun pending _ accepts => ?_,
      .inr ⟨still, carries.free free⟩⟩
    · rw [handedAs_append, quiet, List.nil_append]
      rcases outcome with ⟨silent, -⟩ | ⟨_, _, _, _, _, _, -, outstanding, -, -,
        replayed⟩
      · exact silent
      · rw [replayed, free.filter outstanding]
        rfl
    · obtain ⟨_, ⟨_, _, -, -, outstanding⟩, -⟩ := accepts
      rw [gone] at outstanding
      cases outstanding
  -- The command has gone out.
  · refine .inr ⟨?_, carries.free free⟩
    rw [handedAs_append, sent]
    rcases outcome with ⟨silent, -⟩ | ⟨_, _, _, _, _, _, -, outstanding, -, -,
      replayed⟩
    · rw [silent]
      rfl
    · rw [replayed, free.filter outstanding]
      rfl

/-- A command of a room that the worker is asked for is handed out again, once,
on the new connection. -/
theorem Resumption.replayed
    (resumption : Resumption reconnectGrace older newer table last call
      connectionId instanceId)
    (unspent : last.nextSfuRequestId < u64Max)
    (owes : table.Owes instanceId command)
    (resumes : table.Resumes instanceId (commandRoomId command)) :
    handedAs command.requestId (sentSince newer table call) =
      [(connectionId, command)] := by
  have consistent := consistent_of_run resumption.run.before
  have grown : (table.step call).nextSfuRequestId < u64Max :=
    since_invariant (fun _ state => state.nextSfuRequestId < u64Max ->
        (table.step call).nextSfuRequestId < u64Max)
      resumption.run unspent resumption.stays (fun below _ => below)
      (fun _ state input consistent _ unspent _ kept _ =>
        kept (lt_of_le_of_lt (consistent.next_le input) unspent)) unspent
  have filed := filed_of_run resumption.run.before
    (lt_of_le_of_lt (consistent.next_le call) grown)
  obtain ⟨session, after, quiet, held, -⟩ :=
    registration consistent filed resumption.rejoins grown owes
  obtain ⟨syncId, held, issued⟩ := held resumes
  have kept := since_invariant (fun newer state =>
      Tracked state instanceId command.requestId ∧
      syncId < state.nextSfuRequestId ∧
      (∀ other, state.connection? instanceId = some other ->
        other = connectionId) ∧
      Replaying connectionId instanceId command syncId newer
        (sentSince newer table call) state)
    resumption.run unspent resumption.stays
    (fun unspent => by
      refine ⟨.of_owes (filed.step consistent unspent) after, issued,
        fun other same => ?_, .inl ⟨sentSince_nil ▸ quiet, by simp,
          .inl held⟩⟩
      rw [session] at same
      exact (Option.some.inj same).symm)
    (fun newer state input consistent filed unspent apart kept => by
      obtain ⟨tracked, issued, session, replaying⟩ := kept
      obtain ⟨connections, carries, outcome⟩ := step_carries consistent filed
        apart unspent tracked.older tracked.owned
      exact ⟨tracked.carries carries, lt_of_lt_of_le issued carries.next,
        fun other same => session other (connections other same),
        replaying.step carries issued session outcome⟩)
  obtain ⟨-, -, -, ⟨-, unanswered, -⟩ | ⟨sent, -⟩⟩ := kept
  · obtain ⟨⟨roomId, epoch, replay, waits, -⟩, -⟩ := held
    obtain ⟨event, listed, accepts⟩ := resumption.confirmed syncId _ waits
      (by simp [PendingCommand.isSyncOf])
    exact absurd accepts (unanswered event listed _ rfl)
  · exact sent

/-- The worker is handed everything that it still owes an answer to, once, and
nothing that it has answered. -/
structure Resumed
    (newer : History)
    (table last : RoomTable)
    (call : Call)
    (connectionId : Sfu.ConnectionId)
    (instanceId : InstanceId) : Prop where
  resent : ∀ command, table.Owes instanceId command ->
    last.unacknowledgedCommands[command.requestId]? = some command ->
    handedAs command.requestId (sentSince newer table call) =
      [(connectionId, command)]
  unanswered : ∀ event ∈ newer, ∀ command : Sfu.Command,
    (connectionId, command) ∈ handed (event.1.emitted event.2) ->
    command.requestId < event.1.nextSfuRequestId ->
    event.1.unacknowledgedCommands[command.requestId]? = some command

/-- When a worker is handed just that: what it still owes in the end is about
rooms that it is asked for, and a replay is outstanding when it is released. -/
structure Resumable
    (newer : History)
    (table last : RoomTable)
    (connectionId : Sfu.ConnectionId)
    (instanceId : InstanceId) : Prop where
  listed : ∀ command, table.Owes instanceId command ->
    last.unacknowledgedCommands[command.requestId]? = some command ->
    table.Resumes instanceId (commandRoomId command)
  outstanding : ∀ event ∈ newer,
    ∀ carrier requestId roomId assignmentEpoch replay,
    event.2.Accepts event.1 carrier requestId
      (.syncRoom carrier roomId assignmentEpoch replay) ->
    event.1.connection? carrier = some connectionId ->
    ∀ command ∈ replay,
      event.1.unacknowledgedCommands[command.requestId]? = some command

/-- A resuming worker is handed all that it owes, once, and nothing that it has
answered, exactly when the condition holds. -/
theorem resume_strands_nothing
    (resumption : Resumption reconnectGrace older newer table last call
      connectionId instanceId)
    (unspent : last.nextSfuRequestId < u64Max) :
    Resumed newer table last call connectionId instanceId ↔
      Resumable newer table last connectionId instanceId := by
  have reached : ∀ event ∈ newer,
      RoomTable.Consistent event.1 ∧ Filed event.1 :=
    since_invariant (fun newer _ => ∀ event ∈ newer,
        RoomTable.Consistent event.1 ∧ Filed event.1)
      resumption.run unspent resumption.stays (by simp)
      (fun newer state input consistent filed _ _ kept event listed => by
        rcases List.mem_cons.1 listed with rfl | older
        · exact ⟨consistent, filed⟩
        · exact kept event older)
  constructor
  · intro resumed
    refine ⟨fun command owes waits => ?_, ?_⟩
    · by_contra stranded
      have nothing := resumption.stranded unspent owes stranded
      rw [resumed.resent command owes waits] at nothing
      cases nothing
    · intro event listed carrier requestId roomId epoch replay accepts connected
        command held
      obtain ⟨session, current, all⟩ := handed_of_accepts accepts
      obtain rfl := Option.some.inj (current.symm.trans connected)
      obtain ⟨_, ⟨_, _, -, -, waits⟩, -⟩ := accepts
      refine resumed.unanswered event listed command ?_
        ((reached event listed).2.replays requestId carrier roomId epoch replay
          waits command held).1
      rw [all]
      exact List.mem_map_of_mem held
  · intro resumable
    refine ⟨fun command owes waits => resumption.replayed unspent owes
      (resumable.listed command owes waits), ?_⟩
    intro event listed command again older
    obtain ⟨carrier, requestId, roomId, epoch, replay, accepts, connected, held⟩ :=
      handed_again (reached event listed).1 again older
    exact resumable.outstanding event listed carrier requestId roomId epoch
      replay accepts connected command held

/-- The worker registers again on another connection. -/
def rejoining : Call where
  operation := .handleSfuInput (.register 2 "sfu" 1 ⟨1, 3⟩)
  order := .sorted

/-- The worker confirms the synchronization that it is asked for. -/
def synchronized : Call where
  operation := .handleSfuInput (.commandResult 2 "sfu"
    ⟨5, .ok (.roomSynced ⟨exampleRoomId, 1⟩)⟩ 0)
  order := .sorted

/-- The worker acknowledges the signal that it was sent before. -/
def acknowledged : Call where
  operation := .handleSfuInput (.commandResult 2 "sfu"
    ⟨4, .ok .acknowledged⟩ 0)
  order := .sorted

/-- A worker's stream drops while a signal is unanswered. -/
def owingOperations : List Operation :=
  forwardedOperations ++
    [.send exampleRoomId 1 1 "offer", .handleSfuInput (.disconnected 1 "sfu" 0)]

/-- The worker of `owingOperations` before it registers again. -/
def owing : RoomTable := (played 0 owingOperations).2

/-- The commands that a synchronization hands out again once it is confirmed. -/
def PendingCommand.replays : PendingCommand -> List Sfu.Command
  | .syncRoom _ _ _ replay => replay
  | _ => []

theorem resume_strands_nothing_signal :
    Resumed [(owing.step rejoining, synchronized)] owing
      ((owing.step rejoining).step synchronized) rejoining 2 "sfu" := by
  have resumption : Resumption 0 (played 0 owingOperations).1
      [(owing.step rejoining, synchronized)] owing
      ((owing.step rejoining).step synchronized) rejoining 2 "sfu" :=
    { run := .next synchronized (.next rejoining (played_run 0 owingOperations))
      rejoins := ⟨1, ⟨1, 3⟩, rfl, by decide +kernel, by decide, by decide,
        by decide, by decide⟩
      stays := by
        rintro event listed other ⟨requestId, capacity, asked⟩
        rw [List.mem_singleton.1 listed] at asked
        cases asked
      confirmed := fun syncId pending outstanding own => by
        have checked : (owing.step rejoining).pendingCommands.toList.all
            (fun entry => !entry.2.isSyncOf "sfu" ||
              synchronized.releases (owing.step rejoining) entry.1 entry.2) =
            true := by
          decide +kernel
        have first := List.all_eq_true.1 checked (syncId, pending)
          (ExtTreeMap.mem_toList_iff_getElem?_eq_some.2 outstanding)
        simp only [own, Bool.not_true, Bool.false_or] at first
        exact ⟨_, List.mem_singleton_self _,
          Call.accepts_of_releases first outstanding own⟩ }
  refine (resume_strands_nothing resumption (by decide +kernel)).2 ⟨?_, ?_⟩
  · intro command owes _
    have checked : owing.unacknowledgedCommands.toList.all (fun entry =>
        commandRoomId entry.2 = exampleRoomId) = true := by
      decide +kernel
    have about := List.all_eq_true.1 checked _
      (ExtTreeMap.mem_toList_iff_getElem?_eq_some.2 owes.text)
    simp only [decide_eq_true_eq] at about
    have listed : (owing.workers["sfu"]?.any fun worker =>
        worker.assignedRooms.contains exampleRoomId) = true := by
      decide +kernel
    obtain ⟨worker, known, assigned⟩ := (Option.any_eq_true _ _).1 listed
    rw [about]
    exact ⟨⟨worker, known, by simpa using assigned⟩, by decide +kernel⟩
  · intro event listed carrier requestId roomId epoch replay accepts _ command
      held
    obtain rfl := List.mem_singleton.1 listed
    obtain ⟨_, ⟨_, _, -, -, outstanding⟩, -⟩ := accepts
    have checked : (owing.step rejoining).pendingCommands.toList.all (fun entry =>
        entry.2.replays.all fun command =>
          (owing.step rejoining).unacknowledgedCommands[command.requestId]? =
            some command) = true := by
      decide +kernel
    have first := List.all_eq_true.1 checked _
      (ExtTreeMap.mem_toList_iff_getElem?_eq_some.2 outstanding)
    simpa using List.all_eq_true.1 first command held

/-- A worker's stream drops after its room has gone back to direct P2P, before
the worker has answered the two leaves that this brought. -/
def releasedOperations : List Operation :=
  shrunkOperations ++
    [.handleTimeout 2000000000,
      .handleSfuInput (.disconnected 1 "sfu" 2000000000)]

/-- The worker of `releasedOperations` before it registers again. -/
def releasedTable : RoomTable := (played 0 releasedOperations).2

/-- A leave of a room that is not assigned any more is not handed out again, and
a signal that was answered before the synchronization is. -/
theorem resume_loses_and_repeats :
    (¬∀ (older newer : History) (table last : RoomTable) (call : Call)
        (connectionId : Sfu.ConnectionId) (instanceId : InstanceId),
      Resumption 0 older newer table last call connectionId instanceId ->
      last.nextSfuRequestId < u64Max ->
      ∀ command, table.Owes instanceId command ->
        last.unacknowledgedCommands[command.requestId]? = some command ->
        handedAs command.requestId (sentSince newer table call) =
          [(connectionId, command)]) ∧
    ¬∀ (older newer : History) (table last : RoomTable) (call : Call)
        (connectionId : Sfu.ConnectionId) (instanceId : InstanceId),
      Resumption 0 older newer table last call connectionId instanceId ->
      last.nextSfuRequestId < u64Max ->
      ∀ event ∈ newer, ∀ command : Sfu.Command,
        (connectionId, command) ∈ handed (event.1.emitted event.2) ->
        command.requestId < event.1.nextSfuRequestId ->
        event.1.unacknowledgedCommands[command.requestId]? = some command := by
  constructor
  · intro resent
    have resumption : Resumption 0 (played 0 releasedOperations).1 []
        releasedTable (releasedTable.step rejoining) rejoining 2 "sfu" :=
      { run := .next rejoining (played_run 0 releasedOperations)
        rejoins := ⟨1, ⟨1, 3⟩, rfl, by decide +kernel, by decide, by decide,
          by decide, by decide⟩
        stays := by simp
        confirmed := fun syncId pending outstanding own => by
          have checked : (releasedTable.step
              rejoining).pendingCommands.toList.all (fun entry =>
                !entry.2.isSyncOf "sfu") = true := by
            decide +kernel
          have first := List.all_eq_true.1 checked (syncId, pending)
            (ExtTreeMap.mem_toList_iff_getElem?_eq_some.2 outstanding)
          simp [own] at first }
    let leave : Sfu.Command :=
      ⟨5, .leave ⟨exampleRoomId, 2, 2, 1, .roomClosed⟩⟩
    have handed := resent _ _ _ _ _ _ _ resumption (by decide +kernel) leave
      ⟨by decide +kernel, by decide +kernel, rfl⟩ (by decide +kernel)
    revert handed
    decide +kernel
  · intro unanswered
    have resumption : Resumption 0 (played 0 owingOperations).1
        [((owing.step rejoining).step acknowledged, synchronized),
          (owing.step rejoining, acknowledged)] owing
        (((owing.step rejoining).step acknowledged).step synchronized) rejoining
          2 "sfu" :=
      { run := .next synchronized (.next acknowledged (.next rejoining
          (played_run 0 owingOperations)))
        rejoins := ⟨1, ⟨1, 3⟩, rfl, by decide +kernel, by decide, by decide,
          by decide, by decide⟩
        stays := by
          rintro event listed other ⟨requestId, capacity, asked⟩
          rcases List.mem_cons.1 listed with rfl | listed
          · cases asked
          · rw [List.mem_singleton.1 listed] at asked
            cases asked
        confirmed := fun syncId pending outstanding own => by
          have checked : (owing.step rejoining).pendingCommands.toList.all
              (fun entry => !entry.2.isSyncOf "sfu" ||
                (((owing.step rejoining).step
                    acknowledged).pendingCommands[entry.1]? = some entry.2 &&
                  synchronized.releases ((owing.step rejoining).step
                    acknowledged) entry.1 entry.2)) = true := by
            decide +kernel
          have first := List.all_eq_true.1 checked (syncId, pending)
            (ExtTreeMap.mem_toList_iff_getElem?_eq_some.2 outstanding)
          simp only [own, Bool.not_true, Bool.false_or, Bool.and_eq_true,
            decide_eq_true_eq] at first
          exact ⟨_, List.mem_cons_self,
            Call.accepts_of_releases first.2 first.1 own⟩ }
    let signal : Sfu.Command :=
      ⟨4, .signal ⟨exampleRoomId, 1, 2, 1, "offer", none⟩⟩
    have outstanding := unanswered _ _ _ _ _ _ _ resumption (by decide +kernel)
      _ List.mem_cons_self signal (by decide +kernel) (by decide +kernel)
    revert outstanding
    decide +kernel

end V2
end Signaling
