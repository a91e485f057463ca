import Signaling.Support.Machine
import Signaling.V2.Timeout

/-!
# Runs of the V2 room table

The table as a machine: one input is one call of a public operation, together
with the visiting order that the hash maps have during that call.
-/

namespace Signaling
namespace V2

/-- The public operations of the room table with their arguments. -/
inductive Operation
  | admitClient
      (authorityRequestId : Nat)
      (now : Instant)
      (roomId : RoomId)
      (clientId : ClientId)
      (admissionToken : String)
  | register
      (roomId : RoomId)
      (clientId : ClientId)
      (token : String)
  | deregister
      (now : Instant)
      (roomId : RoomId)
      (clientId : ClientId)
  | send
      (roomId : RoomId)
      (clientId : ClientId)
      (signalEpoch : Nat)
      (message : String)
  | remove
      (authorityRequestId : Nat)
      (roomId : RoomId)
      (clientId : ClientId)
      (token : String)
  | handleSfuInput (input : Sfu.Input)
  | handleTimeout (now : Instant)
  | setDowngradeDwell (dwell : Duration)
  | pollAction

/-- One call: the operation and the visiting order during it. -/
structure Call where
  operation : Operation
  order : VisitOrder

namespace RoomTable

/-- The table after one call. -/
def step (table : RoomTable) (call : Call) : RoomTable :=
  match call.operation with
  | .admitClient authorityRequestId now roomId clientId admissionToken =>
      (table.admitClient authorityRequestId now roomId clientId admissionToken).2
  | .register roomId clientId token =>
      (table.register call.order roomId clientId token).2
  | .deregister now roomId clientId => table.deregister now roomId clientId
  | .send roomId clientId signalEpoch message =>
      (table.send call.order roomId clientId signalEpoch message).2
  | .remove authorityRequestId roomId clientId token =>
      (table.remove authorityRequestId roomId clientId token).2
  | .handleSfuInput input => (table.handleSfuInput call.order input).2
  | .handleTimeout now => (table.handleTimeout call.order now).2
  | .setDowngradeDwell dwell => table.setDowngradeDwell dwell
  | .pollAction => table.pollAction.2

/-- Forget every room, worker and outstanding command; the counters go on. -/
def clear (table : RoomTable) : RoomTable :=
  { table with
    rooms := ∅
    workers := ∅
    pendingCommands := ∅
    unacknowledgedCommands := ∅
    commandWorkers := ∅
    actions := [] }

/-- The room table with a configured grace, as a machine over calls. -/
def machine (reconnectGrace : Duration) : Machine RoomTable Call where
  init := fun table => table = new reconnectGrace
  next := step

/-- A run from the empty table through the given operations, in each of which
the maps are walked in the order of their keys. -/
def played
    (reconnectGrace : Duration)
    (operations : List Operation) : List (RoomTable × Call) × RoomTable :=
  (machine reconnectGrace).play [] (new reconnectGrace)
    (operations.map fun operation => ⟨operation, .sorted⟩)

theorem played_run
    (reconnectGrace : Duration)
    (operations : List Operation) :
    (machine reconnectGrace).Run (played reconnectGrace operations).1
      (played reconnectGrace operations).2 :=
  (Machine.Run.start rfl).play _

/-- Operations that meet a guard in every table give a guarded run. -/
theorem played_guarded
    {guard : RoomTable -> Call -> Prop}
    (reconnectGrace : Duration)
    (operations : List Operation)
    (always : ∀ operation ∈ operations, ∀ table : RoomTable,
      guard table ⟨operation, .sorted⟩) :
    Machine.Guarded guard (played reconnectGrace operations).1 := by
  have nothing : Machine.Guarded guard ([] : List (RoomTable × Call)) := by
    simp [Machine.Guarded]
  refine nothing.play _ _ fun call listed table => ?_
  obtain ⟨operation, inside, rfl⟩ := List.mem_map.1 listed
  exact always operation inside table

/-- The actions that a call appended to the queue. -/
def emitted (table : RoomTable) (call : Call) : List Action :=
  match call.operation with
  | .pollAction => []
  | _ => (table.step call).actions.drop table.actions.length

end RoomTable

/-- A room id, for the runs that are worked out below. -/
def exampleRoomId : RoomId := 0x00000000000080008000000000000001#128

/-- A worker carries a room through the upgrade for its third member. -/
def upgradingOperations : List Operation :=
  [.handleSfuInput (.register 1 "sfu" 1 ⟨1, 3⟩),
    .handleSfuInput (.event 1 "sfu" ⟨1, .health ⟨.ready, ⟨1, 3⟩, 0, 0⟩⟩),
    .admitClient 1 0 exampleRoomId 1 "first",
    .admitClient 2 0 exampleRoomId 2 "second",
    .admitClient 3 0 exampleRoomId 3 "third"]

/-- The worker confirms the join of a client. -/
def joined (requestId clientId lifecycleId : Nat) : Operation :=
  .handleSfuInput (.commandResult 1 "sfu" ⟨requestId,
    .ok (.memberJoined ⟨exampleRoomId, clientId, lifecycleId, 1⟩)⟩ 0)

/-- The worker refuses a command. -/
def refused (requestId : Nat) : Operation :=
  .handleSfuInput (.commandResult 1 "sfu"
    ⟨requestId, .error ⟨"OVERLOADED", false⟩⟩ 0)

/-- The worker confirms all three joins and the room is forwarded. -/
def forwardedOperations : List Operation :=
  upgradingOperations ++ [joined 1 1 2, joined 2 2 2, joined 3 3 1]

/-- The worker confirms the leave of a client. -/
def left (requestId clientId lifecycleId : Nat) : Operation :=
  .handleSfuInput (.commandResult 1 "sfu" ⟨requestId,
    .ok (.memberLeft ⟨exampleRoomId, clientId, lifecycleId, 1, .user⟩)⟩ 0)

/-- One of three members leaves an SFU room. -/
def shrunkOperations : List Operation :=
  forwardedOperations ++
    [.remove 4 exampleRoomId 1 "first", left 4 1 2]

/-- The worker's report that the room has failed. -/
def failureReport : Call where
  operation := .handleSfuInput (.event 1 "sfu"
    ⟨2, .failure ⟨"OVERLOADED", false⟩ (some exampleRoomId) none none none⟩)
  order := .sorted

/-- The steps of a run, newest first. -/
abbrev History := List (RoomTable × Call)

end V2
end Signaling
