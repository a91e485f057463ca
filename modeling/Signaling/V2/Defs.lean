import Signaling.Sfu
import Signaling.Support.HashOrder
import Signaling.Support.Unsigned
import Mathlib

/-!
# The V2 room table: data

Rooms, members, workers and outstanding worker commands, together with the
field updates that the operations share. Hash maps are finite maps; where the
program walks over one in an order of its own, the operation takes a
`HashOrder`.
-/

namespace Signaling
namespace V2

open Std (ExtTreeMap ExtTreeSet)

/-- The name under which a worker registers. -/
abbrev InstanceId := String

/-- Direct peer-to-peer rooms hold two members. -/
def maxP2pMembers : Nat := 2

/-- How many messages wait on a sender at most. -/
def maxQueuedMessages : Nat := 1024

/-- How often a worker is asked to report its health. -/
def healthIntervalMs : Nat := 30000

/-- How many event ids are remembered for each worker. -/
def eventDedupCapacity : Nat := 4096

/-- How long an SFU room sits at two members before it returns to direct P2P:
two seconds. -/
def defaultDowngradeDwell : Duration := 2000000000

/-- How the members of a room exchange media. -/
inductive RoomMode
  | p2p
  | upgrading
  | sfu
  | failed
  deriving DecidableEq

/-- The answer to a completed admission. -/
structure Admission where
  mode : RoomMode
  signalEpoch : Nat
  admissionToken : String
  isInitiator : Option Bool
  deriving DecidableEq

/-- An admission is answered at once, or later by an action. -/
inductive AdmissionResult
  | complete (admission : Admission)
  | pending
  deriving DecidableEq

/-- A survivor told that it now offers. -/
structure Promotion where
  roomId : RoomId
  clientId : ClientId
  signalEpoch : Nat
  deriving DecidableEq

/-- A removal is done at once, or once the worker has confirmed the leave. -/
inductive RemovalResult
  | complete (promotion : Option Promotion)
  | pending
  deriving DecidableEq

/-- The snapshot that a registering browser receives. -/
structure Registration where
  mode : RoomMode
  signalEpoch : Nat
  isInitiator : Option Bool
  queuedMessages : List String
  deriving DecidableEq

/-- A message on its way to a registered member. -/
structure Delivery where
  roomId : RoomId
  clientId : ClientId
  message : String
  deriving DecidableEq

/-- What has become of a message that a browser sent. -/
inductive SendResult
  | p2p (delivery : Option Delivery)
  | sfu
  | dropped
  deriving DecidableEq

/-- What an operation leaves for the caller to carry out. -/
inductive Action
  | sfu (output : Sfu.Output)
  | admissionCompleted
      (authorityRequestId : Nat)
      (result : Except String Admission)
  | removalCompleted
      (authorityRequestId : Nat)
      (roomId : RoomId)
      (clientId : ClientId)
      (result : Except String Unit)
  | upgraded
      (roomId : RoomId)
      (signalEpoch : Nat)
      (existingClients : List ClientId)
  | downgraded
      (roomId : RoomId)
      (signalEpoch : Nat)
      (initiatorClientId : ClientId)
      (clients : List ClientId)
  | deliver (delivery : Delivery)
  | roomFailed
      (roomId : RoomId)
      (clients : List ClientId)
      (reason : String)
  deriving DecidableEq

/-- One participant of a room. A member without a registered browser waits for it
until its reconnect deadline; its messages for the peer queue up here. -/
structure Member where
  token : String
  isInitiator : Bool
  lifecycleId : Nat
  registered : Bool
  reconnectDeadline : Option Instant
  queuedMessages : List String
  deriving DecidableEq

/-- The record of an upgrade: the clients that the worker is asked to join, one by
one, and how far it has come. -/
structure Upgrade where
  authorityRequestId : Nat
  joiningClientId : ClientId
  orderedClients : List ClientId
  joinedClients : List ClientId
  nextClient : Nat
  deriving DecidableEq

/-- An admission to an SFU room that the worker has not answered. -/
structure PendingJoin where
  authorityRequestId : Nat
  clientId : ClientId
  deriving DecidableEq

/-- A leave that the worker has not answered; the authority waits for it when it
asked for the removal. -/
structure PendingLeave where
  authorityRequestId : Option Nat
  clientId : ClientId
  deriving DecidableEq

/-- A room with its members, its mode, and the records of the transition in
flight. Browsers see the signal epoch, workers the assignment epoch. -/
structure Room where
  members : ExtTreeMap ClientId Member
  mode : RoomMode
  signalEpoch : Nat
  assignmentEpoch : Nat
  assignedInstance : Option InstanceId
  upgrade : Option Upgrade
  pendingJoin : Option PendingJoin
  pendingLeave : Option PendingLeave
  downgradeDeadline : Option Instant

/-- What the table knows of a worker: its stream, its load, the rooms it carries,
and the ids of its latest events, oldest first. -/
structure Worker where
  connectionId : Option Sfu.ConnectionId
  capacity : Sfu.Capacity
  health : Option Sfu.Health
  assignedRooms : ExtTreeSet RoomId
  assignedClients : Nat
  seenEvents : ExtTreeSet Nat
  seenEventOrder : List Nat
  disconnectDeadline : Option Instant

/-- What an outstanding worker command stands for. -/
inductive PendingCommand
  | syncRoom
      (instanceId : InstanceId)
      (roomId : RoomId)
      (assignmentEpoch : Nat)
      (replay : List Sfu.Command)
  | upgradeJoin
      (instanceId : InstanceId)
      (roomId : RoomId)
      (clientId : ClientId)
      (lifecycleId : Nat)
      (assignmentEpoch : Nat)
  | sfuJoin
      (instanceId : InstanceId)
      (roomId : RoomId)
      (clientId : ClientId)
      (lifecycleId : Nat)
      (assignmentEpoch : Nat)
  | sfuLeave
      (instanceId : InstanceId)
      (roomId : RoomId)
      (clientId : ClientId)
      (lifecycleId : Nat)
      (assignmentEpoch : Nat)
  | signal
  | cleanup
  deriving DecidableEq

/-- A member of a room, the key of the lifecycle counters. -/
abbrev MemberKey := RoomId × ClientId

instance : @Std.TransOrd MemberKey lexOrd := Std.instTransOrdProd

/-- All rooms and workers, the outstanding commands under their ids, and the
actions that wait for the caller. -/
structure RoomTable where
  rooms : ExtTreeMap RoomId Room
  workers : ExtTreeMap InstanceId Worker
  lifecycleIds : ExtTreeMap MemberKey Nat lexOrd.compare
  pendingCommands : ExtTreeMap Nat PendingCommand
  unacknowledgedCommands : ExtTreeMap Nat Sfu.Command
  commandWorkers : ExtTreeMap Nat InstanceId
  nextSfuRequestId : Nat
  reconnectGrace : Duration
  downgradeDwell : Duration
  actions : List Action

/-- The hash maps whose visiting order an operation of the table depends on. -/
inductive MapId
  | rooms
  | workers
  | members (roomId : RoomId)
  | assignedRooms (instanceId : InstanceId)
  | commandWorkers (roomId : RoomId)

/-- The orders in which one operation walks the hash maps. -/
abbrev VisitOrder := HashOrder MapId

namespace Room

/-- The member ids in the order in which the member map is walked. -/
def clients
    (room : Room)
    (order : VisitOrder)
    (roomId : RoomId) : List ClientId :=
  order.visit (.members roomId) room.members.keys

/-- Change a member in place, if it is there. -/
@[simps] def modifyMember
    (room : Room)
    (clientId : ClientId)
    (update : Member -> Member) : Room :=
  { room with members := room.members.modify clientId update }

/-- Add or replace a member. -/
@[simps] def insertMember
    (room : Room)
    (clientId : ClientId)
    (member : Member) : Room :=
  { room with members := room.members.insert clientId member }

/-- Drop a member. -/
@[simps] def eraseMember
    (room : Room)
    (clientId : ClientId) : Room :=
  { room with members := room.members.erase clientId }

end Room

namespace RoomTable

/-- The empty table. -/
@[simps] def new (reconnectGrace : Duration) : RoomTable where
  rooms := ∅
  workers := ∅
  lifecycleIds := ∅
  pendingCommands := ∅
  unacknowledgedCommands := ∅
  commandWorkers := ∅
  nextSfuRequestId := 1
  reconnectGrace := reconnectGrace
  downgradeDwell := defaultDowngradeDwell
  actions := []

/-- Override the dwell before a small SFU room returns to P2P. -/
@[simps] def setDowngradeDwell
    (table : RoomTable)
    (dwell : Duration) : RoomTable :=
  { table with downgradeDwell := dwell }

/-- Store a room under its id. -/
@[simps] def setRoom
    (table : RoomTable)
    (roomId : RoomId)
    (room : Room) : RoomTable :=
  { table with rooms := table.rooms.insert roomId room }

/-- Delete a room. -/
@[simps] def dropRoom
    (table : RoomTable)
    (roomId : RoomId) : RoomTable :=
  { table with rooms := table.rooms.erase roomId }

/-- Delete a room when its last member has gone, store it otherwise. -/
def setOrDropRoom
    (table : RoomTable)
    (roomId : RoomId)
    (room : Room) : RoomTable :=
  if room.members.isEmpty then table.dropRoom roomId
  else table.setRoom roomId room

/-- Change the record of a worker in place, if it is known. -/
@[simps] def modifyWorker
    (table : RoomTable)
    (instanceId : InstanceId)
    (update : Worker -> Worker) : RoomTable :=
  { table with workers := table.workers.modify instanceId update }

/-- Append an action to the queue. -/
@[simps] def pushAction
    (table : RoomTable)
    (action : Action) : RoomTable :=
  { table with actions := table.actions ++ [action] }

/-- The current connection of a worker. -/
def connection?
    (table : RoomTable)
    (instanceId : InstanceId) : Option Sfu.ConnectionId :=
  table.workers[instanceId]?.bind (·.connectionId)

/-- A member of a room. -/
def member?
    (table : RoomTable)
    (roomId : RoomId)
    (clientId : ClientId) : Option Member :=
  table.rooms[roomId]?.bind (·.members[clientId]?)

/-- The mode of a stored room. -/
def mode?
    (table : RoomTable)
    (roomId : RoomId) : Option RoomMode :=
  table.rooms[roomId]?.map (·.mode)

/-- Allocate the next lifecycle id of a member. -/
def nextLifecycle
    (table : RoomTable)
    (roomId : RoomId)
    (clientId : ClientId) : Nat × RoomTable :=
  let value := max
    (saturatingAdd (table.lifecycleIds.getD (roomId, clientId) 0) 1) 1
  (value,
    { table with
      lifecycleIds := table.lifecycleIds.insert (roomId, clientId) value })

/-- Allocate the next command id. -/
def nextCommandId (table : RoomTable) : Nat × RoomTable :=
  (table.nextSfuRequestId,
    { table with
      nextSfuRequestId := max (saturatingAdd table.nextSfuRequestId 1) 1 })

/-- Record a command as outstanding and hand it to the worker's connection. -/
@[simps] def queueCommand
    (table : RoomTable)
    (instanceId : InstanceId)
    (connectionId : Sfu.ConnectionId)
    (command : Sfu.Command)
    (pending : PendingCommand) : RoomTable :=
  { table with
    pendingCommands :=
      table.pendingCommands.insert command.requestId pending
    commandWorkers :=
      table.commandWorkers.insert command.requestId instanceId
    unacknowledgedCommands :=
      table.unacknowledgedCommands.insert command.requestId command
    actions := table.actions ++
      [.sfu (.command connectionId command)] }

/-- Allocate an id for a command and queue it. -/
def issueCommand
    (table : RoomTable)
    (instanceId : InstanceId)
    (connectionId : Sfu.ConnectionId)
    (command : Sfu.CommandKind)
    (pending : PendingCommand) : RoomTable :=
  let (requestId, table) := table.nextCommandId
  table.queueCommand instanceId connectionId ⟨requestId, command⟩ pending

/-- Forget an outstanding command. -/
@[simps] def retireCommand
    (table : RoomTable)
    (requestId : Nat) : RoomTable :=
  { table with
    pendingCommands := table.pendingCommands.erase requestId
    unacknowledgedCommands := table.unacknowledgedCommands.erase requestId
    commandWorkers := table.commandWorkers.erase requestId }

end RoomTable

/-- A member that has been admitted and not yet registered. -/
@[simps] def newMember
    (now : Instant)
    (reconnectGrace : Duration)
    (token : String)
    (isInitiator : Bool)
    (lifecycleId : Nat) : Member where
  token := token
  isInitiator := isInitiator
  lifecycleId := lifecycleId
  registered := false
  reconnectDeadline := some (now + reconnectGrace)
  queuedMessages := []

/-- Queue a message on its sender, refusing it when the queue is full. -/
def pushQueued
    (member : Member)
    (message : String) : Except String Member :=
  if member.queuedMessages.length ≥ maxQueuedMessages then
    .error "RESOURCE_EXHAUSTED"
  else
    .ok { member with queuedMessages := member.queuedMessages ++ [message] }

/-- The room that a command is about. -/
def commandRoomId (command : Sfu.Command) : RoomId :=
  match command.command with
  | .syncRoom command => command.roomId
  | .join command => command.roomId
  | .leave command => command.roomId
  | .signal command => command.roomId

/-- Promote the only member of a P2P room and tell it when it is registered. -/
def promoteSurvivor
    (roomId : RoomId)
    (room : Room) : Option Promotion × Room :=
  if room.members.size ≠ 1 || room.mode ≠ .p2p then (none, room)
  else
    match room.members.toList with
    | [] => (none, room)
    | (clientId, member) :: _ =>
        let room := room.insertMember clientId
          { member with isInitiator := true, queuedMessages := [] }
        if member.registered then
          (some ⟨roomId, clientId, room.signalEpoch⟩, room)
        else (none, room)

/-- Equality of byte strings without an early exit. -/
def constantTimeEq
    (left right : List UInt8) : Bool :=
  if left.length ≠ right.length then false
  else
    (left.zip right).foldl
      (fun difference pair => difference ||| (pair.1 ^^^ pair.2)) 0 == 0

end V2
end Signaling
