import Signaling.Messages

/-!
# V1 clients

One participant of a V1 room: its registration, the messages that wait for its
peer, the messages on their way from and to its socket, and its
register-timeout.
-/

namespace Signaling
namespace V1

/-- How many messages wait for the peer at most. -/
def maxQueuedMsgCount : Nat := 1024

/-- What a client surfaces up to its room. -/
inductive ClientEvent
  | expired
  deriving DecidableEq

/-- A client of a V1 room: the messages queued for its peer, those read from and
to be written to its socket, and the time by which it has to register. -/
structure Client where
  id : ClientId
  roomId : RoomId
  registered : Bool
  msgs : List String
  reads : List Message
  writes : List Message
  events : List ClientEvent
  timeout : Option Instant
  isInitiator : Bool
  deriving DecidableEq

namespace Client

/-- A client that has not registered. -/
@[simps] def new
    (id : ClientId)
    (roomId : RoomId)
    (timeout : Option Instant) : Client where
  id := id
  roomId := roomId
  registered := false
  msgs := []
  reads := []
  writes := []
  events := []
  timeout := timeout
  isInitiator := false

/-- Set whether the client offers. -/
@[simps] def setInitiator (client : Client) (isInitiator : Bool) : Client :=
  { client with isInitiator := isInitiator }

/-- Arm or clear the register-timeout. -/
@[simps] def setTimer (client : Client) (timeout : Option Instant) : Client :=
  { client with timeout := timeout }

/-- Bind a connection to the client unless one is bound. -/
def register (client : Client) : Except String Client :=
  if client.registered then .error "Duplicated registration"
  else .ok { client.setTimer none with registered := true }

/-- Drop the connection; queued messages are kept. -/
@[simps] def deregister (client : Client) : Client :=
  { client with registered := false }

/-- Queue a message for the peer. -/
def enqueue (client : Client) (msg : String) : Except String Client :=
  if client.msgs.length ≥ maxQueuedMsgCount then
    .error "Too many messages queued for the client"
  else .ok { client with msgs := client.msgs ++ [msg] }

/-- Take every message queued for the peer. -/
def drainMsgs (client : Client) : List String × Client :=
  (client.msgs, { client with msgs := [] })

/-- Accept a message from the client's socket. -/
@[simps] def handleRead (client : Client) (message : Message) : Client :=
  { client with reads := client.reads ++ [message] }

/-- Take the next message from the client's socket. -/
def pollRead (client : Client) : Option Message × Client :=
  (client.reads.head?, { client with reads := client.reads.tail })

/-- Deliver a message to the client. -/
@[simps] def handleWrite (client : Client) (message : Message) : Client :=
  { client with writes := client.writes ++ [message] }

/-- Take the next message for the client's socket. -/
def pollWrite (client : Client) : Option Message × Client :=
  (client.writes.head?, { client with writes := client.writes.tail })

/-- Flush the queue to the peer, which must be registered. -/
def sendQueued (client other : Client) : Except String (Client × Client) :=
  if client.id = other.id || !other.registered then .error "Invalid client"
  else .ok ({ client with msgs := [] },
    client.msgs.foldl
      (fun other msg => other.handleWrite ⟨client.roomId, other.id, msg⟩)
      other)

/-- Send a message to the peer, or queue it until the peer registers. -/
def send
    (client other : Client)
    (msg : String) : Except String (Client × Client) :=
  if client.id = other.id then .error "Invalid client"
  else if other.registered then
    .ok (client, other.handleWrite ⟨client.roomId, other.id, msg⟩)
  else (client.enqueue msg).map fun client => (client, other)

/-- Surface the expiry of a client that is still unregistered at its
deadline. -/
def handleTimeout (client : Client) (now : Instant) : Client :=
  match client.timeout with
  | none => client
  | some deadline =>
      if deadline ≤ now && !client.registered then
        { client with
          events := client.events ++ [.expired]
          timeout := none }
      else client

/-- Take every event that the client surfaces. -/
def takeEvents (client : Client) : List ClientEvent × Client :=
  (client.events, { client with events := [] })

end Client
end V1
end Signaling
