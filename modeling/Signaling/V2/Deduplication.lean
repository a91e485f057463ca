import Signaling.Support.Window
import Signaling.V2.Events

/-!
# Effects of worker events

The table remembers a window of the ids that it recorded for a worker. An event
has an effect when it is recorded and not otherwise, so that equal ids take
effect again only after the window was filled with others.
-/

namespace Signaling
namespace V2

open Std (ExtTreeMap ExtTreeSet)
open RoomTable

/-- The id that a call records for a worker: that of an event on the worker's
current session that is not remembered yet. -/
def RoomTable.recordedBy
    (table : RoomTable)
    (call : Call)
    (instanceId : InstanceId) : Option Nat :=
  match call.operation with
  | .handleSfuInput (.event connectionId sender event) =>
      if sender = instanceId ∧
          table.connection? instanceId = some connectionId ∧
          event.requestId ≠ 0 ∧
          (table.remembered instanceId).1.contains event.requestId = false then
        some event.requestId
      else none
  | _ => none

/-- The ids that a run has recorded for a worker, the oldest one first. -/
def recordedIn : History -> InstanceId -> List Nat
  | [], _ => []
  | (table, call) :: older, instanceId =>
      recordedIn older instanceId ++ (table.recordedBy call instanceId).toList

@[simp] theorem recordedIn_cons
    (table : RoomTable)
    (call : Call)
    (older : History)
    (instanceId : InstanceId) :
    recordedIn ((table, call) :: older) instanceId =
      recordedIn older instanceId ++ (table.recordedBy call instanceId).toList :=
  rfl

theorem recordedIn_append
    (newer older : History)
    (instanceId : InstanceId) :
    recordedIn (newer ++ older) instanceId =
      recordedIn older instanceId ++ recordedIn newer instanceId := by
  induction newer with
  | nil => simp [recordedIn]
  | cons event newer inductionHypothesis =>
      rw [List.cons_append, recordedIn_cons, recordedIn_cons,
        inductionHypothesis, List.append_assoc]

/-- The step handles an event of the worker under that id, and does more than
acknowledge it. -/
def TakesEffect
    (entry : RoomTable × Call)
    (instanceId : InstanceId)
    (requestId : Nat) : Prop :=
  ∃ connectionId kind,
    entry.2.operation =
      .handleSfuInput (.event connectionId instanceId ⟨requestId, kind⟩) ∧
    entry.1.step entry.2 ≠ entry.1 ∧
    entry.1.step entry.2 ≠
      entry.1.pushAction (.sfu (.eventAck connectionId requestId))

variable
  {table : RoomTable}
  {call : Call}
  {instanceId : InstanceId}
  {requestId : Nat}

theorem Call.Presents.recordedBy
    {kind : Sfu.EventKind}
    (presents : call.Presents table instanceId requestId kind) :
    table.recordedBy call instanceId = some requestId := by
  obtain ⟨connectionId, asked, connected, numbered, fresh⟩ := presents
  rw [RoomTable.Knows, Bool.not_eq_true] at fresh
  simp [RoomTable.recordedBy, asked, connected, numbered, fresh]

/-- The call records an id when it presents a new event. -/
theorem presents_of_recordedBy
    (recorded : table.recordedBy call instanceId = some requestId) :
    ∃ kind, call.Presents table instanceId requestId kind := by
  unfold RoomTable.recordedBy at recorded
  split at recorded
  · rename_i connectionId sender event asked
    split at recorded
    · rename_i new
      obtain ⟨rfl, connected, numbered, fresh⟩ := new
      cases recorded
      exact ⟨event.event, connectionId, asked, connected, numbered,
        by simp [RoomTable.Knows, fresh]⟩
    · cases recorded
  · cases recorded

/-- An event that has an effect is recorded. -/
theorem TakesEffect.recordedBy
    (effect : TakesEffect (table, call) instanceId requestId) :
    table.recordedBy call instanceId = some requestId := by
  obtain ⟨connectionId, kind, asked, changed, more⟩ := effect
  simp only [step_event asked] at changed more
  by_cases current : table.connection? instanceId = some connectionId ∧
      requestId ≠ 0
  · by_cases knows : table.Knows instanceId requestId
    · refine absurd ?_ more
      rw [handleWorkerEvent_known _ current.1 current.2 knows]
    · exact Call.Presents.recordedBy
        ⟨connectionId, asked, current.1, current.2, knows⟩
  · obtain ⟨error, stale⟩ := handleWorkerEvent_stale call.order kind current
    exact absurd (by rw [stale]) changed

namespace Worker

variable {worker : Worker}

/-- Recording an id moves the window by one. -/
theorem remember_window
    {recorded : List Nat}
    (window : worker.seenEventOrder = latest eventDedupCapacity recorded)
    (requestId : Nat) :
    (worker.remember requestId).seenEventOrder =
      latest eventDedupCapacity (recorded ++ [requestId]) := by
  rw [latest_append_one, ← window]
  unfold remember
  dsimp only
  split
  · cases order : worker.seenEventOrder with
    | nil => rfl
    | cons oldest rest => rfl
  · rfl

end Worker

/-- The memory of a worker's events is the window of the recorded ones. -/
structure Windowed
    (history : History)
    (instanceId : InstanceId)
    (memory : EventMemory) : Prop where
  sound : memory.Sound
  window : memory.2 =
    latest eventDedupCapacity (recordedIn history instanceId)
  spaced : Spaced eventDedupCapacity (recordedIn history instanceId)
  numbered : 0 ∉ recordedIn history instanceId

theorem Windowed.step
    {history : History}
    (windowed : Windowed history instanceId (table.remembered instanceId))
    (consistent : table.Consistent)
    (call : Call) :
    Windowed ((table, call) :: history) instanceId
      ((table.step call).remembered instanceId) := by
  obtain ⟨sound, window, spaced, numbered⟩ := windowed
  cases recorded : table.recordedBy call instanceId with
  | none =>
      have same : (table.step call).remembered instanceId =
          table.remembered instanceId := by
        rcases remembered_step consistent call instanceId with
          same | ⟨requestId, kind, presents⟩
        · exact same
        · rw [presents.recordedBy] at recorded
          cases recorded
      constructor <;>
        simp only [recordedIn_cons, recorded, Option.toList_none,
          List.append_nil, same]
      · exact sound
      · exact window
      · exact spaced
      · exact numbered
  | some requestId =>
      obtain ⟨kind, presents⟩ := presents_of_recordedBy recorded
      obtain ⟨kept, -, -⟩ := presents.memory sound
      have noted := presents.remembered instanceId
      obtain ⟨connectionId, -, connected, positive, fresh⟩ := presents
      obtain ⟨worker, known, -⟩ := session_record connected
      have before : table.remembered instanceId = worker.memory := by
        simp [RoomTable.remembered, known]
      have after : (table.step call).remembered instanceId =
          (worker.remember requestId).memory := by
        rw [noted]
        simp [RoomTable.remembered, RoomTable.modifyWorker, known]
      rw [before] at window
      refine ⟨kept, ?_, ?_, ?_⟩
      · rw [after, recordedIn_cons, recorded]
        exact Worker.remember_window window requestId
      · rw [recordedIn_cons, recorded]
        refine spaced.append_one fun listed => fresh ?_
        rw [RoomTable.Knows, sound.ordered, before]
        exact window ▸ listed
      · rw [recordedIn_cons, recorded]
        simpa using ⟨numbered, positive.symm⟩

theorem windowed_of_run
    {reconnectGrace : Duration}
    {history : History}
    (run : (machine reconnectGrace).Run history table)
    (instanceId : InstanceId) :
    Windowed history instanceId (table.remembered instanceId) := by
  induction run with
  | start starts =>
      cases starts
      exact ⟨.empty, latest_nil.symm, .nil, by simp [recordedIn]⟩
  | next call ran windowed => exact windowed.step (consistent_of_run ran) call

/-- In every run: a worker's two records of events hold the same ids, each once,
namely those of the window of recorded ids; two effects of one id are separated
by a window full of other recorded ids; and an event of the current session whose
id is in the window is acknowledged and changes nothing. -/
theorem events_take_effect_once
    {reconnectGrace : Duration}
    {history : History}
    (run : (machine reconnectGrace).Run history table)
    (instanceId : InstanceId) :
    (∀ worker, table.workers[instanceId]? = some worker ->
      (∀ requestId, worker.seenEvents.contains requestId = true ↔
        requestId ∈ worker.seenEventOrder) ∧
      worker.seenEventOrder.Nodup ∧
      worker.seenEventOrder.length ≤ 4096 ∧
      worker.seenEventOrder = latest 4096 (recordedIn history instanceId)) ∧
    (∀ newer later between earlier older requestId,
      history = newer ++ later :: (between ++ earlier :: older) ->
      TakesEffect later instanceId requestId ->
      TakesEffect earlier instanceId requestId ->
      4096 ≤ ((recordedIn between instanceId).filter
        (· ≠ requestId)).length) ∧
    ∀ (order : VisitOrder) (connectionId : Sfu.ConnectionId)
      (event : Sfu.Event),
      table.connection? instanceId = some connectionId ->
      event.requestId ∈ latest 4096 (recordedIn history instanceId) ->
      table.handleSfuInput order (.event connectionId instanceId event) =
        (.ok (), table.pushAction
          (.sfu (.eventAck connectionId event.requestId))) := by
  obtain ⟨sound, window, -, numbered⟩ := windowed_of_run run instanceId
  refine ⟨fun worker known => ?_, ?_,
    fun order connectionId ⟨requestId, kind⟩ connected listed => ?_⟩
  · have memory : table.remembered instanceId = worker.memory := by
      simp [RoomTable.remembered, known]
    rw [memory] at sound window
    refine ⟨sound.ordered, sound.distinct, ?_, window⟩
    exact (congrArg List.length window).trans_le (length_latest_le ..)
  · rintro newer ⟨later, laterCall⟩ between ⟨earlier, earlierCall⟩ older
      requestId split laterEffect earlierEffect
    subst split
    have reached := windowed_of_run run.before instanceId
    have segment : recordedIn (between ++ (earlier, earlierCall) :: older)
        instanceId = recordedIn older instanceId ++
          requestId :: recordedIn between instanceId := by
      rw [recordedIn_append, recordedIn_cons, earlierEffect.recordedBy]
      simp
    have spaced := reached.spaced
    rw [segment] at spaced
    refine spaced.filled fun listed => ?_
    obtain ⟨kind, connectionId, -, -, -, fresh⟩ :=
      presents_of_recordedBy laterEffect.recordedBy
    refine fresh ?_
    rw [RoomTable.Knows, reached.sound.ordered, reached.window, segment]
    exact listed
  · have recorded : requestId ∈ recordedIn history instanceId :=
      List.mem_of_mem_drop listed
    have positive : requestId ≠ 0 := fun zero => numbered (zero ▸ recorded)
    have knows : table.Knows instanceId requestId := by
      rw [RoomTable.Knows, sound.ordered, window]
      exact listed
    exact handleWorkerEvent_known order connected positive knows

/-- The worker repeats its signal and the table acknowledges it once more. -/
theorem repeated_signal_acknowledged :
    (RoomTable.played 0 repeatedOperations).2.handleSfuInput .sorted
        (.event 1 "sfu" ⟨2, .signal
          ⟨exampleRoomId, 1, 2, 1, "candidate", none⟩⟩) =
      (.ok (), (RoomTable.played 0 repeatedOperations).2.pushAction
        (.sfu (.eventAck 1 2))) := by
  have recorded : recordedIn (RoomTable.played 0 repeatedOperations).1 "sfu" =
      [1, 2] := by decide +kernel
  refine (events_take_effect_once (RoomTable.played_run 0 repeatedOperations)
    "sfu").2.2 .sorted 1 _ (by decide +kernel) ?_
  rw [recorded]
  decide

end V2
end Signaling
