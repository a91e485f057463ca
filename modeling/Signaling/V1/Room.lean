import Signaling.V1.Client
import Signaling.Support.HashOrder
import Mathlib

/-!
# V1 rooms

A room and its at most two clients. Where the program walks over the client
map in an order of its own, the operation takes a `HashOrder`.
-/

namespace Signaling
namespace V1

open Std (ExtTreeMap)

/-- A V1 room holds two clients. -/
def maxRoomCapacity : Nat := 2

/-- The synthetic peer of the loopback debug mode. -/
def loopbackClientId : ClientId := "LOOPBACK_CLIENT_ID"

/-- The hash maps whose visiting order an operation depends on. -/
inductive MapId
  | rooms
  | clients (roomId : RoomId)

/-- The orders in which one operation walks the hash maps. -/
abbrev VisitOrder := HashOrder MapId

/-- A V1 room: its clients, and the time that each of them has to register. -/
structure Room where
  id : RoomId
  clients : ExtTreeMap ClientId Client
  registerTimeout : Duration

namespace Room

/-- A room without clients. -/
@[simps] def new (id : RoomId) (registerTimeout : Duration) : Room where
  id := id
  clients := ∅
  registerTimeout := registerTimeout

/-- Store a client under its id. -/
@[simps] def setClient
    (room : Room)
    (clientId : ClientId)
    (client : Client) : Room :=
  { room with clients := room.clients.insert clientId client }

/-- The clients in the order in which the map is walked. -/
def walk (room : Room) (order : VisitOrder) : List (ClientId × Client) :=
  order.visit (.clients room.id) room.clients.toList

/-- The client of that id, created with a fresh register-timeout when it is
absent and the room has space. -/
def client
    (room : Room)
    (now : Instant)
    (clientId : ClientId) : Except String (Client × Room) :=
  match room.clients[clientId]? with
  | some client => .ok (client, room)
  | none =>
      if room.clients.size ≥ maxRoomCapacity then
        .error "Max room capacity reached"
      else
        let client := Client.new clientId room.id
          (some (now + room.registerTimeout))
        .ok (client, room.setClient clientId client)

/-- The first other client that the walk meets. -/
def other?
    (room : Room)
    (order : VisitOrder)
    (clientId : ClientId) : Option (ClientId × Client) :=
  (room.walk order).find? fun entry => decide (entry.1 ≠ clientId)

/-- Register a client's connection and flush the other client's queue to it. -/
def register
    (room : Room)
    (order : VisitOrder)
    (now : Instant)
    (clientId : ClientId) : Except String Unit × Room :=
  match room.client now clientId with
  | .error error => (.error error, room)
  | .ok (client, room) =>
  match client.register with
  | .error error => (.error error, room)
  | .ok client =>
      let room := room.setClient clientId client
      if room.clients.size > 1 then
        match room.other? order clientId with
        | none => (.ok (), room)
        | some (otherId, other) =>
            match other.sendQueued client with
            | .error _ => (.ok (), room)
            | .ok (other, client) => (.ok (),
                (room.setClient otherId other).setClient clientId client)
      else (.ok (), room)

/-- Send a message to the other client, or queue it when there is none. -/
def send
    (room : Room)
    (order : VisitOrder)
    (now : Instant)
    (srcId : ClientId)
    (msg : String) : Except String Unit × Room :=
  match room.client now srcId with
  | .error error => (.error error, room)
  | .ok (src, room) =>
  if room.clients.size = 1 then
    match src.enqueue msg with
    | .error error => (.error error, room)
    | .ok src => (.ok (), room.setClient srcId src)
  else
  match room.other? order srcId with
  | none => (.error s!"Corrupted room {room.id}", room)
  | some (otherId, other) =>
  match src.send other msg with
  | .error error => (.error error, room)
  | .ok (src, other) =>
      (.ok (), (room.setClient srcId src).setClient otherId other)

/-- Remove a client and make the survivor the initiator. -/
def remove (room : Room) (clientId : ClientId) : Room :=
  if room.clients.contains clientId then
    { room with
      clients := (room.clients.erase clientId).map fun _ other =>
        other.setInitiator true }
  else room

/-- Clear a client's registration and arm its reconnect grace. -/
def deregister
    (room : Room)
    (now : Instant)
    (clientId : ClientId) : Bool × Room :=
  match room.clients[clientId]? with
  | none => (false, room)
  | some client =>
      if client.registered then
        (true, room.setClient clientId (client.deregister.setTimer
          (some (now + room.registerTimeout))))
      else (false, room)

/-- Allocate a client for a join: elect the first one, and hand the others'
queued messages to any later one. -/
def addClient
    (room : Room)
    (order : VisitOrder)
    (now : Instant)
    (clientId : ClientId)
    (isLoopback : Bool) : Except String (Bool × List String) × Room :=
  if room.clients.contains clientId then (.error "DUPLICATE_CLIENT", room)
  else if room.clients.size ≥ maxRoomCapacity then (.error "FULL", room)
  else
    let isInitiator := room.clients.isEmpty
    let messages :=
      if isInitiator then []
      else (room.walk order).flatMap fun entry => entry.2.drainMsgs.1
    let room :=
      if isInitiator then room
      else { room with
        clients := room.clients.map fun _ other => other.drainMsgs.2 }
    match room.client now clientId with
    | .error error => (.error error, room)
    | .ok (client, room) =>
        let room := room.setClient clientId (client.setInitiator isInitiator)
        let room :=
          if isLoopback then
            match room.client now loopbackClientId with
            | .error _ => room
            | .ok (client, room) =>
                room.setClient loopbackClientId (client.setInitiator false)
          else room
        (.ok (isInitiator, messages), room)

/-- The number of clients. -/
def occupancy (room : Room) : Nat :=
  room.clients.size

/-- True when no client is left. -/
def empty (room : Room) : Bool :=
  room.clients.isEmpty

/-- The number of registered clients. -/
def wsCount (room : Room) : Nat :=
  room.clients.values.countP fun client => client.registered

/-- Route a message from a socket to its client. -/
def handleRead (room : Room) (message : Message) : Room :=
  { room with
    clients := room.clients.modify message.clientid fun client =>
      client.handleRead message }

/-- Take the next message that some client's socket has received. -/
def pollRead (room : Room) (order : VisitOrder) : Option Message × Room :=
  match (room.walk order).find? fun entry => entry.2.pollRead.1.isSome with
  | none => (none, room)
  | some (clientId, client) =>
      (client.pollRead.1, room.setClient clientId client.pollRead.2)

/-- Take the next message for some client's socket. -/
def pollWrite (room : Room) (order : VisitOrder) : Option Message × Room :=
  match (room.walk order).find? fun entry => entry.2.pollWrite.1.isSome with
  | none => (none, room)
  | some (clientId, client) =>
      (client.pollWrite.1, room.setClient clientId client.pollWrite.2)

/-- Tick every client and remove those that expired. -/
def handleTimeout
    (room : Room)
    (order : VisitOrder)
    (now : Instant) : Room :=
  let ticked : Room := { room with
    clients := room.clients.map fun _ client => client.handleTimeout now }
  let expired := (ticked.walk order).flatMap fun entry =>
    entry.2.takeEvents.1.map fun _ => entry.1
  let room : Room := { ticked with
    clients := ticked.clients.map fun _ client => client.takeEvents.2 }
  expired.foldl remove room

/-- The earliest register-timeout of the room's clients. -/
def pollTimeout (room : Room) : Option Instant :=
  (room.clients.values.filterMap (·.timeout)).min?

end Room
end V1
end Signaling
