import Signaling.V2.Assignments

/-!
# Invariants of runs

Rules that carry a fact from the moves of a call to the call, and from calls to
runs. A fact may depend on the worker that is being given up; between calls
there is none.
-/

namespace Signaling
namespace V2

namespace RoomTable

/-- What holds of every table that a run reaches. -/
structure Consistent (table : RoomTable) : Prop where
  wellFormed : table.WellFormed
  records : table.CommandsMatch

namespace Consistent

variable {table : RoomTable}

theorem new (reconnectGrace : Duration) :
    (RoomTable.new reconnectGrace).Consistent where
  wellFormed := WellFormed.new reconnectGrace
  records :=
    { workers := by simp
      commands := by simp
      named := by simp
      numbered := by simp }

theorem moved
    {phase phase' : Option InstanceId}
    {table' : RoomTable}
    {move : Move}
    (taken : Moved phase table move phase' table')
    (consistent : table.Consistent) :
    table'.Consistent where
  wellFormed := WellFormed.moved taken consistent.wellFormed
  records :=
    CommandsMatch.moved taken consistent.wellFormed consistent.records

/-- A fact that every move of a call preserves holds after the call. -/
theorem step_invariant
    {call : Call}
    (holds : Option InstanceId -> RoomTable -> Prop)
    (consistent : table.Consistent)
    (preserved : ∀ phase middle move phase' next,
      Moved phase middle move phase' next ->
      Arises table call middle move -> middle.Consistent ->
      holds phase middle -> holds phase' next)
    (initial : holds none table) :
    holds none (table.step call) := by
  have both := (step_chain table call consistent.wellFormed).invariant
    (fun state => state.2.Consistent ∧ holds state.1 state.2)
    (fun state move next taken arises kept => ⟨kept.1.moved taken,
      preserved state.1 state.2 move next.1 next.2 taken arises kept.1 kept.2⟩)
    ⟨consistent, initial⟩
  exact both.2

/-- Every call keeps the table consistent. -/
theorem step
    (consistent : table.Consistent)
    (call : Call) :
    (table.step call).Consistent :=
  step_invariant (fun _ table => table.Consistent) consistent
    (fun _ _ _ _ _ taken _ kept _ => kept.moved taken) consistent

/-- A cleared table is consistent, whatever its counters are. -/
theorem clear
    (consistent : table.Consistent) :
    table.clear.Consistent where
  wellFormed :=
    { rooms := by simp [RoomTable.clear]
      workers := by simp [RoomTable.clear]
      counter := consistent.wellFormed.counter }
  records :=
    { workers := by simp [RoomTable.clear]
      commands := by simp [RoomTable.clear]
      named := by simp [RoomTable.clear]
      numbered := by simp [RoomTable.clear] }

end Consistent

/-- Every reachable table is consistent. -/
theorem consistent_of_run
    {reconnectGrace : Duration}
    {history : History}
    {table : RoomTable}
    (run : (machine reconnectGrace).Run history table) :
    table.Consistent := by
  have reachable : (machine reconnectGrace).Reachable table := ⟨history, run⟩
  refine reachable.invariant (fun table starts => ?_)
    (fun table call kept => kept.step call)
  obtain rfl : table = new reconnectGrace := starts
  exact Consistent.new reconnectGrace

/-- A fact that every move of a guarded call preserves holds along every guarded
run. -/
theorem run_invariant
    {reconnectGrace : Duration}
    {guard : RoomTable -> Call -> Prop}
    (holds : Option InstanceId -> RoomTable -> Prop)
    (initial : holds none (new reconnectGrace))
    (preserved : ∀ before call phase table move phase' table',
      guard before call -> Moved phase table move phase' table' ->
      Arises before call table move -> table.Consistent ->
      holds phase table -> holds phase' table')
    {history : History}
    {table : RoomTable}
    (run : (machine reconnectGrace).Run history table)
    (guarded : Machine.Guarded guard history) :
    holds none table := by
  refine run.history_invariant (fun _ table => holds none table)
    (fun table starts => ?_)
    (fun earlier before call ran allowed kept => ?_) guarded
  · obtain rfl : table = new reconnectGrace := starts
    exact initial
  · exact (consistent_of_run ran).step_invariant holds
      (fun phase middle move phase' next => preserved before call phase middle
        move phase' next allowed) kept

end RoomTable

/-- The call removes the last member of a failed room while a worker still
lists the room, so that the worker keeps a room that no longer exists. -/
def Call.StrandsWorker
    (call : Call)
    (table : RoomTable) : Prop :=
  ∃ roomId clientId instanceId room,
    call.Removes table roomId clientId ∧
      table.rooms[roomId]? = some room ∧
      room.mode = .failed ∧ room.pendingJoin = none ∧
      room.pendingLeave = none ∧
      (room.members.erase clientId).isEmpty = true ∧
      table.Lists instanceId roomId

/-- Workers list the rooms that they carry, and an outstanding upgrade join or
leave stands for its room's transition, in every run in which no failed room is
deleted from under its worker. -/
theorem assigned_of_run
    {reconnectGrace : Duration}
    {history : History}
    {table : RoomTable}
    (run : (RoomTable.machine reconnectGrace).Run history table)
    (guarded : Machine.Guarded (fun table call => ¬call.StrandsWorker table)
      history) :
    Assigned (· ≠ .join) none table := by
  refine RoomTable.run_invariant (Assigned (· ≠ .join))
    (Assigned.new reconnectGrace)
    (fun before call phase table move phase' table' guard taken arises
      consistent assigned => ?_) run guarded
  refine assigned.moved taken (by simp) (by simp) ?_ consistent.wellFormed
    consistent.records
  cases move <;> simp only [Sound]
  case removeFailed roomId clientId =>
    cases taken with
    | removeFailed found present noJoin noLeave failed =>
        intro other there last instanceId listed
        obtain ⟨rfl, removes⟩ := arises
        obtain rfl := Option.some.inj (found.symm.trans there)
        exact guard ⟨roomId, clientId, instanceId, _, removes, found, failed,
          noJoin, noLeave, last, listed⟩
  case completeLeave => exact fun absurd => (absurd rfl).elim

end V2
end Signaling
