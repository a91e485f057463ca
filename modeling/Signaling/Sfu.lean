import Signaling.V2.Token

/-!
# The worker control plane

The typed messages between the signaling authority and its SFU workers:
commands and their results, worker events, and the inputs and outputs of a
worker session.
-/

namespace Signaling
namespace Sfu

/-- A stream of a worker. -/
abbrev ConnectionId := Nat

/-- The number of a command or of an event. -/
abbrev RequestId := Nat

/-- What a worker declares that it can carry. -/
structure Capacity where
  maxRooms : Nat
  maxClients : Nat
  deriving DecidableEq

/-- Whether a worker takes new rooms. -/
inductive State
  | ready
  | draining
  deriving DecidableEq

/-- A worker's health report. -/
structure Health where
  state : State
  capacity : Capacity
  currentRooms : Nat
  currentClients : Nat
  deriving DecidableEq

/-- Add one client's media leg, and the result that confirms it. -/
structure JoinMember where
  roomId : V2.RoomId
  clientId : Nat
  lifecycleId : Nat
  assignmentEpoch : Nat
  deriving DecidableEq

/-- A member as its worker sees it. -/
structure MemberProjection where
  clientId : Nat
  lifecycleId : Nat
  deriving DecidableEq

/-- Replace a worker's view of one assigned room. -/
structure SyncRoom where
  roomId : V2.RoomId
  assignmentEpoch : Nat
  members : List MemberProjection
  deriving DecidableEq

/-- The result that confirms a synchronization. -/
structure RoomSynced where
  roomId : V2.RoomId
  assignmentEpoch : Nat
  deriving DecidableEq

/-- Why a worker is to drop a client. -/
inductive LeaveReason
  | user
  | disconnected
  | roomClosed
  | workerFailure
  deriving DecidableEq

/-- Drop one client's media leg, and the result that confirms it. -/
structure LeaveMember where
  roomId : V2.RoomId
  clientId : Nat
  lifecycleId : Nat
  assignmentEpoch : Nat
  reason : LeaveReason
  deriving DecidableEq

/-- An opaque browser message on its way to or from a worker. -/
structure Signal where
  roomId : V2.RoomId
  clientId : Nat
  lifecycleId : Nat
  assignmentEpoch : Nat
  messageJson : String
  sdpRequestId : Option Nat
  deriving DecidableEq

/-- What a worker may be asked to do. -/
inductive CommandKind
  | syncRoom (sync : SyncRoom)
  | join (join : JoinMember)
  | leave (leave : LeaveMember)
  | signal (signal : Signal)
  deriving DecidableEq

/-- A command under its number. -/
structure Command where
  requestId : RequestId
  command : CommandKind
  deriving DecidableEq

/-- A worker's answer to a command that it has carried out. -/
inductive CommandOk
  | acknowledged
  | roomSynced (synced : RoomSynced)
  | memberJoined (joined : JoinMember)
  | memberLeft (left : LeaveMember)
  deriving DecidableEq

/-- Why a worker has not carried out a command, or what has failed on it. -/
structure Error where
  reason : String
  retryable : Bool
  deriving DecidableEq

/-- A worker's answer under the number of the command. -/
structure CommandResult where
  requestId : RequestId
  result : Except Error CommandOk
  deriving DecidableEq

/-- What a worker reports of its own accord. -/
inductive EventKind
  | signal (signal : Signal)
  | health (health : Health)
  | failure
      (error : Error)
      (roomId : Option V2.RoomId)
      (clientId : Option Nat)
      (lifecycleId : Option Nat)
      (sdpRequestId : Option Nat)
  deriving DecidableEq

/-- An event under the worker's number for it, which is acknowledged. -/
structure Event where
  requestId : RequestId
  event : EventKind
  deriving DecidableEq

/-- What a worker session delivers to the authority. -/
inductive Input
  | register
      (connectionId : ConnectionId)
      (instanceId : String)
      (requestId : RequestId)
      (capacity : Capacity)
  | commandResult
      (connectionId : ConnectionId)
      (instanceId : String)
      (result : CommandResult)
      (now : Instant)
  | event
      (connectionId : ConnectionId)
      (instanceId : String)
      (event : Event)
  | disconnected
      (connectionId : ConnectionId)
      (instanceId : String)
      (now : Instant)
  deriving DecidableEq

/-- What the authority sends on worker sessions. -/
inductive Output
  | registered
      (connectionId : ConnectionId)
      (requestId : RequestId)
      (healthIntervalMs : Nat)
      (resumed : Bool)
  | registrationError
      (connectionId : ConnectionId)
      (requestId : RequestId)
      (error : Error)
  | command
      (connectionId : ConnectionId)
      (command : Command)
  | eventAck
      (connectionId : ConnectionId)
      (requestId : RequestId)
  | close
      (connectionId : ConnectionId)
  deriving DecidableEq

end Sfu
end Signaling
