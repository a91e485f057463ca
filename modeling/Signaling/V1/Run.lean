import Signaling.V1.RoomTable
import Signaling.Support.Machine

/-!
# Runs of the V1 room table

The table as a machine: one input is one call of a public operation, together
with the visiting order that the hash maps have during that call.
-/

namespace Signaling
namespace V1

/-- The operations by which rooms and clients change. -/
inductive Operation
  | join
      (now : Instant)
      (roomId : RoomId)
      (clientId : ClientId)
      (isLoopback : Bool)
  | leave (roomId : RoomId) (clientId : ClientId)
  | register (now : Instant) (roomId : RoomId) (clientId : ClientId)
  | deregister (now : Instant) (roomId : RoomId) (clientId : ClientId)
  | send
      (now : Instant)
      (roomId : RoomId)
      (sourceId : ClientId)
      (msg : String)
  | saveOrSend
      (now : Instant)
      (roomId : RoomId)
      (sourceId : ClientId)
      (msg : String)
  | handleTimeout (now : Instant)

/-- One call: the operation and the visiting order during it. -/
structure Call where
  operation : Operation
  order : VisitOrder

namespace RoomTable

/-- The table after one call. -/
def step (table : RoomTable) (call : Call) : RoomTable :=
  match call.operation with
  | .join now roomId clientId isLoopback =>
      (table.join call.order now roomId clientId isLoopback).2
  | .leave roomId clientId => table.leave roomId clientId
  | .register now roomId clientId =>
      (table.register call.order now roomId clientId).2
  | .deregister now roomId clientId => table.deregister now roomId clientId
  | .send now roomId sourceId msg =>
      (table.send call.order now roomId sourceId msg).2
  | .saveOrSend now roomId sourceId msg =>
      (table.saveOrSend call.order now roomId sourceId msg).2
  | .handleTimeout now => table.handleTimeout call.order now

/-- The room table with a configured timeout, as a machine over calls. -/
def machine (registerTimeout : Duration) : Machine RoomTable Call where
  init := fun table => table = new registerTimeout
  next := step

/-- A run from the empty table through the given operations, in each of which
the maps are walked in the order of their keys. -/
def played
    (registerTimeout : Duration)
    (operations : List Operation) : List (RoomTable × Call) × RoomTable :=
  (machine registerTimeout).play [] (new registerTimeout)
    (operations.map fun operation => ⟨operation, .sorted⟩)

theorem played_run
    (registerTimeout : Duration)
    (operations : List Operation) :
    (machine registerTimeout).Run (played registerTimeout operations).1
      (played registerTimeout operations).2 :=
  (Machine.Run.start rfl).play _

end RoomTable

/-- The steps of a run, newest first. -/
abbrev History := List (RoomTable × Call)

end V1
end Signaling
