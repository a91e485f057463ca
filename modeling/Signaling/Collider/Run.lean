import Signaling.Collider.Browser

/-!
# The collider: calls and runs

Authority commands, worker inputs and the clock, and the collider as a machine
over the calls that its driver makes.
-/

namespace Signaling

namespace Collider

/-- The counts that the authority can ask for. -/
def statusSnapshot (collider : Collider) : StatusSnapshot where
  rooms := collider.rooms.roomCount
  v2Rooms := collider.v2Rooms.roomCount
  clients := collider.rooms.clientCount + collider.v2Rooms.memberCount
  websocketConnections :=
    collider.rooms.wsCount + collider.v2Rooms.registeredCount
  totalWebsocketConnections := collider.totalWebsocketConnections
  websocketErrors := collider.websocketErrors
  connectedSfuInstances := collider.v2Rooms.connectedSfuCount
  readySfuInstances := collider.v2Rooms.readySfuCount

/-- Carry a command out; there is no result yet when a worker must answer
first. -/
def perform
    (collider : Collider)
    (order : VisitOrder)
    (command : AuthorityCommand) : Option AuthorityResult × Collider :=
  match command.operation with
  | .admitClient roomid clientid isLoopback now =>
      let (result, rooms) :=
        collider.rooms.join order.v1 now roomid clientid isLoopback
      (some (match result with
        | .ok (isInitiator, messages) => .admitted isInitiator messages
        | .error result => .error result),
        { collider with rooms := rooms })
  | .remove roomid clientid =>
      let collider := collider.closeClientConnection roomid clientid
      (some .removed,
        { collider with rooms := collider.rooms.leave roomid clientid })
  | .occupancy roomid =>
      (some (.occupancy (collider.rooms.occupancy roomid)), collider)
  | .inject roomid clientid msg now =>
      match collider.rooms.saveOrSend order.v1 now roomid clientid msg with
      | (.error result, rooms) =>
          (some (.error result), { collider with rooms := rooms })
      | (.ok (), rooms) => (some .injected,
          { collider with rooms := rooms }.drainRoomWrites order.v1)
  | .admitV2 roomId clientId admissionToken now =>
      let (result, v2Rooms) := collider.v2Rooms.admitClient command.requestId
        now roomId clientId admissionToken
      (match result with
        | .ok (.complete admission) => some (admissionResult admission)
        | .ok .pending => none
        | .error result => some (.error result),
        { collider with v2Rooms := v2Rooms })
  | .removeV2 roomId clientId admissionToken =>
      let (result, v2Rooms) := collider.v2Rooms.remove command.requestId
        roomId clientId admissionToken
      let collider := { collider with v2Rooms := v2Rooms }
      match result with
      | .ok (.complete promotion) =>
          (some .removedV2, promotion.toList.foldl pushPromotion
            (collider.closeV2ClientConnection roomId clientId))
      | .ok .pending => (none, collider)
      | .error result => (some (.error result), collider)
  | .occupancyV2 roomId =>
      let (count, mode) := collider.v2Rooms.occupancy roomId
      (some (.occupancyV2 count mode), collider)
  | .status => (some (.status collider.statusSnapshot), collider)

/-- Carry a command out and answer it unless a worker must answer first. -/
def handleAuthority
    (collider : Collider)
    (order : VisitOrder)
    (command : AuthorityCommand) : Collider :=
  let (result, collider) := collider.perform order command
  (result.toList.foldl
    (fun collider result => collider.pushResponse ⟨command.requestId, result⟩)
    collider).drainV2Actions

/-- Take an input from a worker. -/
def handleSfuInput
    (collider : Collider)
    (order : VisitOrder)
    (input : Sfu.Input) : Except String Unit × Collider :=
  let (result, v2Rooms) := collider.v2Rooms.handleSfuInput order.v2 input
  let collider := { collider with v2Rooms := v2Rooms }
  match result with
  | .error error => (.error error, collider)
  | .ok () => (.ok (), collider.drainV2Actions)

/-- Take an input from a browser's socket. -/
def handleRead
    (decode : String -> Except String WsClientMsg)
    (collider : Collider)
    (order : VisitOrder)
    (input : BrowserInput) : Except String Unit × Collider :=
  match input with
  | .connected connectionId =>
      (.ok (), { collider with
        sessions := collider.sessions.insert connectionId .connected })
  | .text connectionId text now =>
      collider.handleBrowserText decode order connectionId text now
  | .disconnected connectionId now =>
      (.ok (), collider.disconnect connectionId now)

/-- Take the next output for a browser or a worker. -/
def pollWrite (collider : Collider) : Option BrowserOutput × Collider :=
  (collider.browserOutputs.head?,
    { collider with browserOutputs := collider.browserOutputs.tail })

/-- Take the next response for the authority. -/
def pollEvent (collider : Collider) : Option AuthorityResponse × Collider :=
  (collider.authorityResponses.head?,
    { collider with authorityResponses := collider.authorityResponses.tail })

/-- Let every deadline up to `now` take effect. -/
def handleTimeout
    (collider : Collider)
    (order : VisitOrder)
    (now : Instant) : Collider :=
  let rooms := collider.rooms.handleTimeout order.v1 now
  let (promotions, v2Rooms) := collider.v2Rooms.handleTimeout order.v2 now
  (promotions.foldl pushPromotion
    { collider with rooms := rooms, v2Rooms := v2Rooms }).drainV2Actions

/-- The earliest deadline on which `handleTimeout` has work. -/
def pollTimeout (collider : Collider) : Option Instant :=
  match collider.rooms.pollTimeout, collider.v2Rooms.pollTimeout with
  | some left, some right => some (min left right)
  | left, right => left.or right

/-- Close every connection and forget every room. -/
def close (collider : Collider) (order : VisitOrder) : Collider :=
  let connections := order.sessions.visit () collider.sessions.keys
  { connections.foldl
      (fun collider connectionId => collider.pushOutput (.close connectionId))
      collider with
    sessions := ∅
    connections := ∅
    v2Connections := ∅
    v2Rooms := collider.v2Rooms.clear
    rooms := collider.rooms.close }

/-- The calls that a driver makes. -/
inductive Operation
  | handleRead (input : BrowserInput)
  | handleWrite (command : AuthorityCommand)
  | handleSfuInput (input : Sfu.Input)
  | handleTimeout (now : Instant)
  | setDowngradeDwell (dwell : Duration)
  | pollWrite
  | pollEvent
  | close

/-- One call: the operation and the visiting orders during it. -/
structure Call where
  operation : Operation
  order : VisitOrder

/-- The collider after one call. -/
def step
    (decode : String -> Except String WsClientMsg)
    (collider : Collider)
    (call : Call) : Collider :=
  match call.operation with
  | .handleRead input => (collider.handleRead decode call.order input).2
  | .handleWrite command => collider.handleAuthority call.order command
  | .handleSfuInput input => (collider.handleSfuInput call.order input).2
  | .handleTimeout now => collider.handleTimeout call.order now
  | .setDowngradeDwell dwell => collider.setDowngradeDwell dwell
  | .pollWrite => collider.pollWrite.2
  | .pollEvent => collider.pollEvent.2
  | .close => collider.close call.order

/-- The collider with a configured register timeout, as a machine over calls.
-/
def machine
    (decode : String -> Except String WsClientMsg)
    (registerTimeout : Duration) : Machine Collider Call where
  init := fun collider => collider = new registerTimeout
  next := step decode

/-- The steps of a run, newest first. -/
abbrev History := List (Collider × Call)

/-- A run of a new collider through the given operations, in each of which the
maps are walked in the order of their keys. -/
def played
    (decode : String -> Except String WsClientMsg)
    (registerTimeout : Duration)
    (operations : List Operation) : History × Collider :=
  (machine decode registerTimeout).play [] (new registerTimeout)
    (operations.map fun operation => ⟨operation, .sorted⟩)

theorem played_run
    (decode : String -> Except String WsClientMsg)
    (registerTimeout : Duration)
    (operations : List Operation) :
    (machine decode registerTimeout).Run
      (played decode registerTimeout operations).1
      (played decode registerTimeout operations).2 :=
  (Machine.Run.start rfl).play _

/-- The responses that a call hands to the driver. -/
def responses
    (decode : String -> Except String WsClientMsg)
    (collider : Collider)
    (call : Call) : List AuthorityResponse :=
  match call.operation with
  | .pollEvent => []
  | _ => (collider.step decode call).authorityResponses.drop
      collider.authorityResponses.length

end Collider
end Signaling
