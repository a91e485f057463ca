import Signaling.V1.Room

/-!
# The V1 room table

The map of V1 rooms. An operation on a room creates it when it is absent.
-/

namespace Signaling
namespace V1

open Std (ExtTreeMap)

/-- All V1 rooms, under their names. -/
structure RoomTable where
  rooms : ExtTreeMap RoomId Room
  registerTimeout : Duration

namespace RoomTable

/-- A table without rooms. -/
@[simps] def new (registerTimeout : Duration) : RoomTable where
  rooms := ∅
  registerTimeout := registerTimeout

/-- Store a room under its id. -/
@[simps] def setRoom
    (table : RoomTable)
    (roomId : RoomId)
    (room : Room) : RoomTable :=
  { table with rooms := table.rooms.insert roomId room }

/-- The room of that id, or a new one. -/
def room (table : RoomTable) (id : RoomId) : Room :=
  table.rooms.getD id (Room.new id table.registerTimeout)

/-- Remove a client, and its room when it becomes empty. -/
def remove
    (table : RoomTable)
    (roomId : RoomId)
    (clientId : ClientId) : RoomTable :=
  match table.rooms[roomId]? with
  | none => table
  | some room =>
      let room := room.remove clientId
      if room.empty then { table with rooms := table.rooms.erase roomId }
      else table.setRoom roomId room

/-- Forward a message to its room. -/
def send
    (table : RoomTable)
    (order : VisitOrder)
    (now : Instant)
    (roomId : RoomId)
    (sourceId : ClientId)
    (msg : String) : Except String Unit × RoomTable :=
  let (result, room) := (table.room roomId).send order now sourceId msg
  (result, table.setRoom roomId room)

/-- Store or relay an outbound client message. -/
def saveOrSend
    (table : RoomTable)
    (order : VisitOrder)
    (now : Instant)
    (roomId : RoomId)
    (sourceId : ClientId)
    (msg : String) : Except String Unit × RoomTable :=
  table.send order now roomId sourceId msg

/-- Allocate a client for a join. -/
def join
    (table : RoomTable)
    (order : VisitOrder)
    (now : Instant)
    (roomId : RoomId)
    (clientId : ClientId)
    (isLoopback : Bool) : Except String (Bool × List String) × RoomTable :=
  let (result, room) :=
    (table.room roomId).addClient order now clientId isLoopback
  (result, table.setRoom roomId room)

/-- Remove a client that leaves. -/
def leave
    (table : RoomTable)
    (roomId : RoomId)
    (clientId : ClientId) : RoomTable :=
  table.remove roomId clientId

/-- The number of clients of a room, none when it does not exist. -/
def occupancy (table : RoomTable) (roomId : RoomId) : Nat :=
  (table.rooms[roomId]?.map Room.occupancy).getD 0

/-- Register a client's connection. -/
def register
    (table : RoomTable)
    (order : VisitOrder)
    (now : Instant)
    (roomId : RoomId)
    (clientId : ClientId) : Except String Unit × RoomTable :=
  let (result, room) := (table.room roomId).register order now clientId
  (result, table.setRoom roomId room)

/-- Clear a client's registration and arm its reconnect timeout. -/
def deregister
    (table : RoomTable)
    (now : Instant)
    (roomId : RoomId)
    (clientId : ClientId) : RoomTable :=
  match table.rooms[roomId]? with
  | none => table
  | some room => table.setRoom roomId (room.deregister now clientId).2

/-- The number of registered clients of all rooms. -/
def wsCount (table : RoomTable) : Nat :=
  (table.rooms.values.map Room.wsCount).sum

/-- The number of rooms. -/
def roomCount (table : RoomTable) : Nat :=
  table.rooms.size

/-- The number of clients of all rooms. -/
def clientCount (table : RoomTable) : Nat :=
  (table.rooms.values.map Room.occupancy).sum

/-- Deliver a message from a client's connection to its room. -/
def handleRead (table : RoomTable) (message : Message) : RoomTable :=
  { table with
    rooms := table.rooms.modify message.roomid fun room =>
      room.handleRead message }

/-- The rooms in the order in which the map is walked. -/
def walk (table : RoomTable) (order : VisitOrder) : List (RoomId × Room) :=
  order.visit .rooms table.rooms.toList

/-- Take the next message that some room's clients have sent. -/
def pollRead
    (table : RoomTable)
    (order : VisitOrder) : Option Message × RoomTable :=
  match (table.walk order).find? fun entry =>
      (entry.2.pollRead order).1.isSome with
  | none => (none, table)
  | some (roomId, room) =>
      ((room.pollRead order).1, table.setRoom roomId (room.pollRead order).2)

/-- Take the next message for a client of some room. -/
def pollWrite
    (table : RoomTable)
    (order : VisitOrder) : Option Message × RoomTable :=
  match (table.walk order).find? fun entry =>
      (entry.2.pollWrite order).1.isSome with
  | none => (none, table)
  | some (roomId, room) =>
      ((room.pollWrite order).1, table.setRoom roomId (room.pollWrite order).2)

/-- The number of messages that `pollRead` can still take. -/
def readCount (table : RoomTable) : Nat :=
  (table.rooms.values.map fun room =>
    (room.clients.values.map fun client => client.reads.length).sum).sum

/-- The number of messages that `pollWrite` can still take. -/
def writeCount (table : RoomTable) : Nat :=
  (table.rooms.values.map fun room =>
    (room.clients.values.map fun client => client.writes.length).sum).sum

/-- Drive every register-timeout and drop the rooms left empty. -/
def handleTimeout
    (table : RoomTable)
    (order : VisitOrder)
    (now : Instant) : RoomTable :=
  let rooms := table.rooms.map fun _ room => room.handleTimeout order now
  { table with rooms := rooms.filter fun _ room => !room.empty }

/-- The earliest register-timeout across all rooms. -/
def pollTimeout (table : RoomTable) : Option Instant :=
  (table.rooms.values.filterMap Room.pollTimeout).min?

/-- Close every room. -/
def close (table : RoomTable) : RoomTable :=
  { table with rooms := ∅ }

end RoomTable
end V1
end Signaling
