import Signaling.Collider.Stalls
import Signaling.V2.Promotions
import Signaling.Support.Chain

/-!
# What a call of the collider does

Every call of the collider is a chain of acts. An act is one branch of the
program with its tests as premises, so that a fact about sessions, frames or
responses is proved once for each act.
-/

namespace Signaling
namespace Collider

open Std (ExtTreeMap)

/-- The name of an act, with the values that it is about. -/
inductive Act
  | connect (connectionId : ConnectionId)
  | fail (connectionId : ConnectionId) (error : String)
  | roomsV1
  | bindV1
      (connectionId : ConnectionId)
      (roomid : V1.RoomId)
      (clientid : V1.ClientId)
  | writeV1 (connectionId : ConnectionId) (message : String)
  | closeV1 (roomid : V1.RoomId) (clientid : V1.ClientId)
  | forget (connectionId : ConnectionId)
  | registerV2
      (connectionId : ConnectionId)
      (roomId : V2.RoomId)
      (clientId : V2.ClientId)
      (token : String)
  | sendV2
      (connectionId : ConnectionId)
      (roomId : V2.RoomId)
      (clientId : V2.ClientId)
      (signalEpoch : Nat)
      (message : String)
  | dropV2
      (connectionId : ConnectionId)
      (roomId : V2.RoomId)
      (clientId : V2.ClientId)
      (now : Instant)
  | removeV2
      (requestId : RequestId)
      (roomId : V2.RoomId)
      (clientId : V2.ClientId)
      (token : String)
  | tableV2 (call : V2.Call)
  | promote (promotion : V2.Promotion)
  | perform (action : V2.Action)
  | respond (response : AuthorityResponse)
  | pollWrite
  | pollEvent
  | close

/-- The calls of the V2 table after which no session changes: refusals of
browsers and of the authority, removals that a worker must confirm, and the
other inputs of the table. -/
def Quiet (table : V2.RoomTable) (call : V2.Call) : Prop :=
  match call.operation with
  | .register roomId clientId token =>
      ∃ error, (table.register call.order roomId clientId token).1 =
        .error error
  | .send roomId clientId signalEpoch message =>
      ∃ error, (table.send call.order roomId clientId signalEpoch message).1 =
        .error error
  | .remove requestId roomId clientId token => ∀ promotion,
      (table.remove requestId roomId clientId token).1 ≠
        .ok (.complete promotion)
  | .deregister .. | .pollAction => False
  | _ => True

/-- The frame with the snapshot that a registering browser receives. -/
def registeredFrame
    (roomId : V2.RoomId)
    (registration : V2.Registration) : Frame :=
  .registered
    { control := "registered"
      roomid := V2.formatRoomToken roomId
      epoch := toString registration.signalEpoch
      mode := roomModeName registration.mode
      isInitiator := registration.isInitiator }

/-- A V2 member has registered on a connection and receives its snapshot and
what was queued for it. -/
def welcome
    (collider : Collider)
    (connectionId : ConnectionId)
    (roomId : V2.RoomId)
    (clientId : V2.ClientId)
    (registration : V2.Registration) : Collider :=
  { collider with
    sessions := collider.sessions.insert connectionId
      (.registeredV2 roomId clientId)
    v2Connections := collider.v2Connections.insert (roomId, clientId)
      connectionId
    totalWebsocketConnections :=
      saturatingAdd collider.totalWebsocketConnections 1
    browserOutputs := collider.browserOutputs ++
      .text connectionId (registeredFrame roomId registration) ::
        registration.queuedMessages.map fun message =>
          .text connectionId (serverMsg message) }

/-- What the result of a send is followed up with. -/
def relay
    (collider : Collider) : V2.SendResult -> Collider
  | .p2p (some delivery) => collider.notifyMember delivery.roomId
      delivery.clientId (serverMsg delivery.message)
  | _ => collider

/-- `Acted collider act after` holds when the act leads from `collider` to
`after`. -/
inductive Acted : Collider -> Act -> Collider -> Prop
  | connect
      {collider : Collider}
      (connectionId : ConnectionId) :
      Acted collider (.connect connectionId)
        { collider with
          sessions := collider.sessions.insert connectionId .connected }
  | fail
      {collider : Collider}
      (connectionId : ConnectionId) (error : String) :
      Acted collider (.fail connectionId error)
        (collider.failConnection connectionId error)
  | roomsV1
      {collider : Collider}
      (rooms : V1.RoomTable) :
      Acted collider .roomsV1 { collider with rooms := rooms }
  | bindV1
      {collider : Collider} {connectionId : ConnectionId}
      {roomid : V1.RoomId} {clientid : V1.ClientId}
      (unbound : collider.isRegistered connectionId = false) :
      Acted collider (.bindV1 connectionId roomid clientid)
        { collider with
          sessions := collider.sessions.insert connectionId
            (.registeredV1 roomid clientid)
          connections := collider.connections.insert (roomid, clientid)
            connectionId
          totalWebsocketConnections :=
            saturatingAdd collider.totalWebsocketConnections 1 }
  | writeV1
      {collider : Collider} {connectionId : ConnectionId}
      {key : V1.ClientKey}
      (message : String)
      (bound : collider.connections[key]? = some connectionId) :
      Acted collider (.writeV1 connectionId message)
        (collider.pushOutput (.text connectionId (serverMsg message)))
  | closeV1
      {collider : Collider}
      (roomid : V1.RoomId) (clientid : V1.ClientId) :
      Acted collider (.closeV1 roomid clientid)
        (collider.closeClientConnection roomid clientid)
  | forget
      {collider : Collider} {connectionId : ConnectionId}
      (connections : ExtTreeMap V1.ClientKey ConnectionId lexOrd.compare)
      (rooms : V1.RoomTable)
      (superseded : ∀ roomId clientId,
        collider.sessions[connectionId]? =
          some (.registeredV2 roomId clientId) ->
        collider.v2Connections[(roomId, clientId)]? ≠ some connectionId) :
      Acted collider (.forget connectionId)
        { collider with
          sessions := collider.sessions.erase connectionId
          connections := connections
          rooms := rooms }
  | registerV2
      {collider : Collider} {connectionId : ConnectionId}
      {roomId : V2.RoomId} {clientId : V2.ClientId} {token : String}
      {registration : V2.Registration} {v2Rooms : V2.RoomTable}
      (order : V2.VisitOrder)
      (unbound : collider.isRegistered connectionId = false)
      (registered : collider.v2Rooms.register order roomId clientId token =
        (.ok registration, v2Rooms)) :
      Acted collider (.registerV2 connectionId roomId clientId token)
        ({ collider with v2Rooms := v2Rooms }.welcome connectionId roomId
          clientId registration)
  | sendV2
      {collider : Collider} {connectionId : ConnectionId}
      {roomId : V2.RoomId} {clientId : V2.ClientId} {signalEpoch : Nat}
      {message : String} {result : V2.SendResult} {v2Rooms : V2.RoomTable}
      (order : V2.VisitOrder)
      (session : collider.sessions[connectionId]? =
        some (.registeredV2 roomId clientId))
      (sent : collider.v2Rooms.send order roomId clientId signalEpoch message =
        (.ok result, v2Rooms)) :
      Acted collider (.sendV2 connectionId roomId clientId signalEpoch message)
        ({ collider with v2Rooms := v2Rooms }.relay result)
  | dropV2
      {collider : Collider} {connectionId : ConnectionId}
      {roomId : V2.RoomId} {clientId : V2.ClientId}
      (now : Instant)
      (session : collider.sessions[connectionId]? =
        some (.registeredV2 roomId clientId))
      (bound : collider.v2Connections[(roomId, clientId)]? =
        some connectionId) :
      Acted collider (.dropV2 connectionId roomId clientId now)
        { collider with
          sessions := collider.sessions.erase connectionId
          v2Connections := collider.v2Connections.erase (roomId, clientId)
          v2Rooms := collider.v2Rooms.deregister now roomId clientId }
  | removeV2
      {collider : Collider} {requestId : RequestId} {roomId : V2.RoomId}
      {clientId : V2.ClientId} {token : String}
      {promotion : Option V2.Promotion} {v2Rooms : V2.RoomTable}
      (removed : collider.v2Rooms.remove requestId roomId clientId token =
        (.ok (.complete promotion), v2Rooms)) :
      Acted collider (.removeV2 requestId roomId clientId token)
        ({ collider with
          v2Rooms := v2Rooms }.closeV2ClientConnection roomId clientId)
  | tableV2
      {collider : Collider}
      (call : V2.Call)
      (quiet : Quiet collider.v2Rooms call) :
      Acted collider (.tableV2 call)
        { collider with v2Rooms := collider.v2Rooms.step call }
  | promote
      {collider : Collider}
      (promotion : V2.Promotion) :
      Acted collider (.promote promotion) (collider.pushPromotion promotion)
  | perform
      {collider : Collider} {action : V2.Action} {rest : List V2.Action}
      (queued : collider.v2Rooms.actions = action :: rest) :
      Acted collider (.perform action)
        ({ collider with v2Rooms :=
          { collider.v2Rooms with actions := rest } }.performAction action)
  | respond
      {collider : Collider}
      (response : AuthorityResponse) :
      Acted collider (.respond response) (collider.pushResponse response)
  | pollWrite
      {collider : Collider} :
      Acted collider .pollWrite collider.pollWrite.2
  | pollEvent
      {collider : Collider} :
      Acted collider .pollEvent collider.pollEvent.2
  | close
      {collider : Collider}
      (order : VisitOrder) :
      Acted collider .close (collider.close order)

/-- The inputs of the V2 table that a call of the driver causes. -/
def Call.Causes (call : Call) : V2.Operation -> Prop
  | .admitClient requestId now roomId clientId token => call.operation =
      .handleWrite ⟨requestId, .admitV2 roomId clientId token now⟩
  | .register .. | .send .. => ∃ connectionId text now, call.operation =
      .handleRead (.text connectionId text now)
  | .remove requestId roomId clientId token => call.operation =
      .handleWrite ⟨requestId, .removeV2 roomId clientId token⟩
  | .handleSfuInput input => call.operation = .handleSfuInput input
  | .handleTimeout now => call.operation = .handleTimeout now
  | .setDowngradeDwell dwell => call.operation = .setDowngradeDwell dwell
  | .deregister .. | .pollAction => False

section Chains

variable (decode : String -> Except String WsClientMsg)

/-- Ties an act in a state of the call to the call that causes it. A registration
is the first act of its call, and a survivor is told of its promotion by the
table that promotes it. -/
def Act.From (call : Call) (start state : Collider) : Act -> Prop
  | .connect connectionId =>
      call.operation = .handleRead (.connected connectionId)
  | .registerV2 connectionId roomId clientId token =>
      state = start ∧ ∃ text now msg,
        call.operation = .handleRead (.text connectionId text now) ∧
        decode text = .ok msg ∧ msg.cmd = "register" ∧ msg.ver = some 2 ∧
        V2.parseRoomToken msg.roomid = some roomId ∧
        canonicalU64 msg.clientid = some clientId ∧ msg.token = token
  | .sendV2 connectionId _ _ signalEpoch message => ∃ text now msg,
      call.operation = .handleRead (.text connectionId text now) ∧
        decode text = .ok msg ∧ msg.cmd = "send" ∧
        msg.epoch.bind canonicalJsonU64 = some signalEpoch ∧
        msg.msg = message
  | .dropV2 connectionId _ _ now =>
      call.operation = .handleRead (.disconnected connectionId now)
  | .removeV2 requestId roomId clientId token => call.operation =
      .handleWrite ⟨requestId, .removeV2 roomId clientId token⟩
  | .tableV2 input =>
      state.v2Rooms = start.v2Rooms ∧ call.Causes input.operation
  | .promote promotion => ∃ input : V2.Call,
      call.Causes input.operation ∧
      promotion ∈ start.v2Rooms.promotionsBy input ∧
      state.v2Rooms = start.v2Rooms.step input
  | .respond response => ∃ command, call.operation = .handleWrite command ∧
      response.requestId = command.requestId
  | .pollWrite => call.operation = .pollWrite
  | .pollEvent => call.operation = .pollEvent
  | .close => call.operation = .close
  | _ => True

/-- The chains of acts within a call that starts in the given state. -/
def ActSteps (call : Call) (start : Collider) :
    Collider -> Collider -> Prop :=
  Chain Acted fun state act => act.From decode call start state

/-- The chains of acts that a call may cause. -/
def ActChain (call : Call) (collider after : Collider) : Prop :=
  ActSteps decode call collider collider after

variable {decode}

namespace ActChain

variable {collider middle : Collider} {call : Call}

/-- One more act that any call may cause. -/
theorem next
    {after : Collider}
    {act : Act}
    (chain : ActChain decode call collider middle)
    (acted : Acted middle act after)
    (free : act.From decode call collider middle) :
    ActChain decode call collider after :=
  Chain.tail chain acted free

theorem drainV2Actions
    (chain : ActChain decode call collider middle) :
    ActChain decode call collider middle.drainV2Actions := by
  refine chain.trans ?_
  unfold Collider.drainV2Actions
  generalize middle.v2Rooms.actions.length = fuel
  clear chain
  induction fuel generalizing middle with
  | zero => exact .refl
  | succ fuel inductionHypothesis =>
      unfold Collider.drainActions
      split
      · exact .refl
      · next action v2Rooms taken =>
          unfold V2.RoomTable.pollAction at taken
          split at taken
          · cases taken
          · next first rest queued =>
              cases taken
              exact (Chain.single _ (.perform queued) trivial).trans
                inductionHypothesis

theorem drainRoomWrites
    (chain : ActChain decode call collider middle)
    (order : V1.VisitOrder) :
    ActChain decode call collider (middle.drainRoomWrites order) := by
  refine chain.trans ?_
  unfold Collider.drainRoomWrites
  generalize middle.rooms.writeCount = fuel
  clear chain
  induction fuel generalizing middle with
  | zero => exact .refl
  | succ fuel inductionHypothesis =>
      rw [drainWrites_succ]
      split
      · exact .refl
      · next message rooms taken =>
          have polled : ActSteps decode call collider middle
              { middle with rooms := rooms } :=
            Chain.single _ (.roomsV1 rooms) trivial
          refine (polled.trans ?_).trans inductionHypothesis
          unfold writeOut
          split
          · exact .refl
          · next connectionId bound =>
              exact Chain.single _ (.writeV1 message.msg bound) trivial

/-- Survivors are told one after the other. -/
theorem promote
    {input : V2.Call}
    {promoted : List V2.Promotion}
    (chain : ActChain decode call collider middle)
    (caused : call.Causes input.operation)
    (within : ∀ promotion ∈ promoted,
      promotion ∈ collider.v2Rooms.promotionsBy input)
    (stepped : middle.v2Rooms = collider.v2Rooms.step input) :
    ActChain decode call collider (promoted.foldl pushPromotion middle) := by
  induction promoted generalizing middle with
  | nil => exact chain
  | cons promotion promoted inductionHypothesis =>
      obtain ⟨first, rest⟩ := List.forall_mem_cons.1 within
      refine inductionHypothesis
        (chain.next (.promote promotion) ⟨input, caused, first, stepped⟩) rest ?_
      rw [pushPromotion, notifyMember_v2Rooms, stepped]

theorem registerV1
    (order : VisitOrder)
    (connectionId : ConnectionId)
    (msg : WsClientMsg)
    (now : Instant) :
    ActChain decode call collider
      (collider.registerV1 order connectionId msg now) := by
  unfold Collider.registerV1
  split
  · exact Chain.single _ (.fail connectionId _) trivial
  next unbound =>
  split
  · exact Chain.single _ (.fail connectionId _) trivial
  rcases collider.rooms.register order.v1 now msg.roomid msg.clientid with
    ⟨error | done, rooms⟩
  · have registered : ActChain decode call collider
        { collider with rooms := rooms } :=
      Chain.single _ (.roomsV1 rooms) trivial
    exact registered.next (.fail connectionId error) trivial
  · have registered : ActChain decode call collider
        { collider with rooms := rooms } :=
      Chain.single _ (.roomsV1 rooms) trivial
    refine drainRoomWrites ?_ order.v1
    exact registered.next (.bindV1 (Bool.eq_false_of_not_eq_true unbound))
      trivial

theorem registerV2
    {connectionId : ConnectionId}
    {text : String}
    {now : Instant}
    {msg : WsClientMsg}
    (asked : call.operation = .handleRead (.text connectionId text now))
    (decoded : decode text = .ok msg)
    (command : msg.cmd = "register")
    (version : msg.ver = some 2) :
    ActChain decode call collider
      (collider.registerV2 call.order connectionId msg) := by
  unfold Collider.registerV2
  split
  · exact Chain.single _ (.fail connectionId _) trivial
  next unbound =>
  split
  · exact Chain.single _ (.fail connectionId _) trivial
  next roomId parsedRoom =>
  split
  · exact Chain.single _ (.fail connectionId _) trivial
  next clientId parsedClient =>
  split
  · exact Chain.single _ (.fail connectionId _) trivial
  rcases outcome : collider.v2Rooms.register call.order.v2 roomId clientId
    msg.token with ⟨error | registration, v2Rooms⟩
  · have refused : ActChain decode call collider
        { collider with v2Rooms := v2Rooms } := by
      have after : collider.v2Rooms.step ⟨.register roomId clientId msg.token,
          call.order.v2⟩ = v2Rooms := congrArg Prod.snd outcome
      refine after ▸ Chain.single _ (.tableV2 ⟨.register roomId clientId
        msg.token, call.order.v2⟩ ?_) ⟨rfl, connectionId, text, now, asked⟩
      exact ⟨error, congrArg Prod.fst outcome⟩
    exact refused.next (.fail connectionId error) trivial
  · simp only
    rw [Bound.pushTexts_eq]
    have welcomed : ActChain decode call collider ({ collider with
        v2Rooms := v2Rooms }.welcome connectionId roomId clientId
          registration) :=
      Chain.single _ (.registerV2 call.order.v2
        (Bool.eq_false_of_not_eq_true unbound) outcome)
        ⟨rfl, text, now, msg, asked, decoded, command, version, parsedRoom,
          parsedClient, rfl⟩
    simpa only [welcome, registeredFrame, pushOutput, List.append_assoc,
      List.singleton_append] using welcomed

theorem sendV1
    (order : VisitOrder)
    (roomid : V1.RoomId)
    (clientid : V1.ClientId)
    (msg : String)
    (now : Instant) :
    ActChain decode call collider
      (collider.sendV1 order roomid clientid msg now).2 := by
  unfold Collider.sendV1
  simp only
  split
  · next rooms _ =>
      exact Chain.single _ (.roomsV1 rooms) trivial
  · next rooms _ =>
      refine drainRoomWrites ?_ order.v1
      exact Chain.single _ (.roomsV1 rooms) trivial

theorem sendV2
    {connectionId : ConnectionId}
    {text : String}
    {now : Instant}
    {msg : WsClientMsg}
    {roomId : V2.RoomId}
    {clientId : V2.ClientId}
    (asked : call.operation = .handleRead (.text connectionId text now))
    (decoded : decode text = .ok msg)
    (command : msg.cmd = "send")
    (session : collider.sessions[connectionId]? =
      some (.registeredV2 roomId clientId)) :
    ActChain decode call collider
      (collider.sendV2 call.order roomId clientId msg).2 := by
  unfold Collider.sendV2
  split
  · exact .refl
  next signalEpoch canonical =>
  rcases outcome : collider.v2Rooms.send call.order.v2 roomId clientId
    signalEpoch msg.msg with ⟨error | result, v2Rooms⟩
  · have after : collider.v2Rooms.step ⟨.send roomId clientId signalEpoch
        msg.msg, call.order.v2⟩ = v2Rooms := congrArg Prod.snd outcome
    refine after ▸ Chain.single _ (.tableV2 ⟨.send roomId clientId signalEpoch
      msg.msg, call.order.v2⟩ ?_) ⟨rfl, connectionId, text, now, asked⟩
    exact ⟨error, congrArg Prod.fst outcome⟩
  · refine drainV2Actions ?_
    exact Chain.single _ (.sendV2 call.order.v2 session outcome) ⟨text, now,
      msg, asked, decoded, command, canonical, rfl⟩

theorem disconnect
    {connectionId : ConnectionId}
    {now : Instant}
    (asked : call.operation =
      .handleRead (.disconnected connectionId now)) :
    ActChain decode call collider (collider.disconnect connectionId now) := by
  unfold Collider.disconnect
  split
  · exact .refl
  next session registered =>
  cases session with
  | connected =>
      refine Chain.single _ (@Acted.forget collider connectionId
        collider.connections collider.rooms ?_) trivial
      intro roomId clientId held
      cases registered.symm.trans held
  | registeredV1 roomid clientid =>
      have other (roomId : V2.RoomId) (clientId : V2.ClientId)
          (held : collider.sessions[connectionId]? =
            some (.registeredV2 roomId clientId)) :
          collider.v2Connections[(roomId, clientId)]? ≠ some connectionId := by
        cases registered.symm.trans held
      dsimp only
      split
      · exact Chain.single _ (.forget _ _ other) trivial
      · exact Chain.single _ (.forget _ _ other) trivial
  | registeredV2 roomId clientId =>
      dsimp only
      split
      · next current =>
          refine drainV2Actions ?_
          exact Chain.single _ (.dropV2 now registered current) asked
      · next superseded =>
          refine Chain.single _ (.forget _ _ ?_) trivial
          intro roomId clientId held
          cases registered.symm.trans held
          exact superseded

theorem handleBrowserText
    {connectionId : ConnectionId}
    {text : String}
    {now : Instant}
    (asked : call.operation = .handleRead (.text connectionId text now)) :
    ActChain decode call collider (collider.handleBrowserText decode
      call.order connectionId text now).2 := by
  unfold Collider.handleBrowserText
  split
  · exact Chain.single _ (.fail connectionId _) trivial
  next msg decoded =>
  split
  · next command =>
      split
      · next version => exact registerV2 asked decoded command version
      · split
        · exact registerV1 ..
        · exact Chain.single _ (.fail connectionId _) trivial
  · split
    · next command =>
        unfold Collider.send
        split
        · exact Chain.single _ (.fail connectionId _) trivial
        next session registered =>
        split
        · exact Chain.single _ (.fail connectionId _) trivial
        split
        · exact sendV1 ..
        · exact sendV2 asked decoded command registered
        · exact Chain.single _ (.fail connectionId _) trivial
    · exact Chain.single _ (.fail connectionId _) trivial

theorem perform
    {command : AuthorityCommand}
    (asked : call.operation = .handleWrite command) :
    ActChain decode call collider
      (collider.perform call.order command).2 := by
  obtain ⟨requestId, operation⟩ := command
  unfold Collider.perform
  cases operation with
  | admitClient => exact Chain.single _ (.roomsV1 _) trivial
  | remove roomid clientid =>
      have closed : ActChain decode call collider
          (collider.closeClientConnection roomid clientid) :=
        Chain.single _ (.closeV1 roomid clientid) trivial
      exact closed.next (.roomsV1 _) trivial
  | occupancy | occupancyV2 | status => exact .refl
  | inject roomid clientid msg now =>
      simp only
      rcases collider.rooms.saveOrSend call.order.v1 now roomid clientid msg
        with ⟨error | done, rooms⟩
      · exact Chain.single _ (.roomsV1 rooms) trivial
      · refine drainRoomWrites ?_ call.order.v1
        exact Chain.single _ (.roomsV1 rooms) trivial
  | admitV2 roomId clientId admissionToken now =>
      exact Chain.single _ (.tableV2 ⟨.admitClient requestId now roomId
        clientId admissionToken, call.order.v2⟩ trivial) ⟨rfl, asked⟩
  | removeV2 roomId clientId admissionToken =>
      have quiet (unfinished : ∀ promotion, (collider.v2Rooms.remove requestId
          roomId clientId admissionToken).1 ≠ .ok (.complete promotion)) :
          ActChain decode call collider { collider with
            v2Rooms := collider.v2Rooms.step ⟨.remove requestId roomId
              clientId admissionToken, call.order.v2⟩ } :=
        Chain.single _ (.tableV2 _ unfinished) ⟨rfl, asked⟩
      have after : collider.v2Rooms.step ⟨.remove requestId roomId clientId
          admissionToken, call.order.v2⟩ = (collider.v2Rooms.remove requestId
            roomId clientId admissionToken).2 := rfl
      simp only
      rcases outcome : collider.v2Rooms.remove requestId roomId clientId
        admissionToken with ⟨error | ⟨promotion | _⟩, v2Rooms⟩
      · rw [after, outcome] at quiet
        exact quiet (by simp)
      · simp only
        refine @promote _ _ _ _ ⟨.remove requestId roomId clientId
          admissionToken, call.order.v2⟩ promotion.toList
          (Chain.single _ (.removeV2 outcome) asked) asked ?_ ?_
        · intro told listed
          simpa [V2.RoomTable.promotionsBy, outcome, V2.RoomTable.promotionsOf] using listed
        · rw [closeV2ClientConnection_v2Rooms, after, outcome]
      · rw [after, outcome] at quiet
        exact quiet (by simp)

theorem handleAuthority
    {command : AuthorityCommand}
    (asked : call.operation = .handleWrite command) :
    ActChain decode call collider
      (collider.handleAuthority call.order command) := by
  have performed : ActChain decode call collider
      (collider.perform call.order command).2 := perform asked
  unfold Collider.handleAuthority
  rcases outcome : collider.perform call.order command with
    ⟨result, performedBy⟩
  rw [outcome] at performed
  refine drainV2Actions ?_
  cases result with
  | none => exact performed
  | some result =>
      exact performed.next (.respond ⟨command.requestId, result⟩)
        ⟨command, asked, rfl⟩

theorem handleSfuInput
    {input : Sfu.Input}
    (asked : call.operation = .handleSfuInput input) :
    ActChain decode call collider
      (collider.handleSfuInput call.order input).2 := by
  have taken : ActChain decode call collider { collider with
      v2Rooms := collider.v2Rooms.step ⟨.handleSfuInput input,
        call.order.v2⟩ } :=
    Chain.single _ (.tableV2 _ trivial) ⟨rfl, asked⟩
  have after : collider.v2Rooms.step ⟨.handleSfuInput input,
      call.order.v2⟩ = (collider.v2Rooms.handleSfuInput call.order.v2
        input).2 := rfl
  unfold Collider.handleSfuInput
  rcases outcome : collider.v2Rooms.handleSfuInput call.order.v2 input with
    ⟨error | done, v2Rooms⟩
  · rw [after, outcome] at taken
    exact taken
  · rw [after, outcome] at taken
    exact taken.drainV2Actions

theorem handleTimeout
    {now : Instant}
    (asked : call.operation = .handleTimeout now) :
    ActChain decode call collider
      (collider.handleTimeout call.order now) := by
  have swept : ActChain decode call collider { collider with
      rooms := collider.rooms.handleTimeout call.order.v1 now } :=
    Chain.single _ (.roomsV1 _) trivial
  have timed : ActChain decode call collider { collider with
      rooms := collider.rooms.handleTimeout call.order.v1 now
      v2Rooms := collider.v2Rooms.step ⟨.handleTimeout now,
        call.order.v2⟩ } :=
    swept.next (.tableV2 _ trivial) ⟨rfl, asked⟩
  have after : collider.v2Rooms.step ⟨.handleTimeout now, call.order.v2⟩ =
      (collider.v2Rooms.handleTimeout call.order.v2 now).2 := rfl
  unfold Collider.handleTimeout
  rcases outcome : collider.v2Rooms.handleTimeout call.order.v2 now with
    ⟨promoted, v2Rooms⟩
  rw [after, outcome] at timed
  refine (@promote _ _ _ _ ⟨.handleTimeout now, call.order.v2⟩ promoted timed
    asked ?_ ?_).drainV2Actions
  · intro promotion listed
    simpa [V2.RoomTable.promotionsBy, outcome] using listed
  · rw [after, outcome]

end ActChain

/-- Every call is a chain of acts. -/
theorem step_acts
    (decode : String -> Except String WsClientMsg)
    (collider : Collider)
    (call : Call) :
    ActChain decode call collider (collider.step decode call) := by
  unfold Collider.step
  cases asked : call.operation with
  | handleRead input =>
      cases input with
      | connected connectionId =>
          exact Chain.single _ (.connect connectionId) asked
      | text connectionId text now =>
          exact ActChain.handleBrowserText asked
      | disconnected connectionId now => exact ActChain.disconnect asked
  | handleWrite command => exact ActChain.handleAuthority asked
  | handleSfuInput input => exact ActChain.handleSfuInput asked
  | handleTimeout now => exact ActChain.handleTimeout asked
  | setDowngradeDwell dwell =>
      exact Chain.single _ (.tableV2 ⟨.setDowngradeDwell dwell, call.order.v2⟩
        trivial) ⟨rfl, asked⟩
  | pollWrite => exact Chain.single _ .pollWrite asked
  | pollEvent => exact Chain.single _ .pollEvent asked
  | close => exact Chain.single _ (.close call.order) asked

end Chains

end Collider
end Signaling
