import Signaling.Collider.Aside

/-!
# V1 sessions, connections and rooms agree

A connection is bound to a V1 client exactly when its session is registered for
that client, and a V1 client is registered exactly when a connection is bound
to it.
-/

namespace Signaling
namespace Collider

open Std (ExtTreeMap)

/-- The V1 connections, the sessions and the V1 rooms agree. -/
structure Bound (collider : Collider) : Prop where
  rooms : collider.rooms.Sound
  session : ∀ (roomid : V1.RoomId) (clientid : V1.ClientId)
      (connectionId : ConnectionId),
    collider.connections[(roomid, clientid)]? = some connectionId ↔
      collider.sessions[connectionId]? = some (.registeredV1 roomid clientid)
  registered : ∀ (roomid : V1.RoomId) (clientid : V1.ClientId),
    (∃ connectionId,
        collider.connections[(roomid, clientid)]? = some connectionId) ↔
      collider.rooms.Registered roomid clientid
  v2 : collider.BoundV2

theorem connection_insert
    {κ : Type}
    {cmp : κ -> κ -> Ordering}
    [Std.TransCmp cmp] [Std.LawfulEqCmp cmp] [DecidableEq κ]
    {α : Type}
    (entries : ExtTreeMap κ α cmp)
    (key other : κ)
    (value : α) :
    (entries.insert key value)[other]? =
      if key = other then some value else entries[other]? := by
  rw [ExtTreeMap.getElem?_insert]
  by_cases same : key = other
  · subst same
    simp
  · simp [same, Std.LawfulEqCmp.compare_eq_iff_eq]

theorem connection_erase
    {κ : Type}
    {cmp : κ -> κ -> Ordering}
    [Std.TransCmp cmp] [Std.LawfulEqCmp cmp] [DecidableEq κ]
    {α : Type}
    (entries : ExtTreeMap κ α cmp)
    (key other : κ) :
    (entries.erase key)[other]? =
      if key = other then none else entries[other]? := by
  rw [ExtTreeMap.getElem?_erase]
  by_cases same : key = other
  · subst same
    simp
  · simp [same, Std.LawfulEqCmp.compare_eq_iff_eq]

namespace Bound

variable {collider after : Collider}

theorem new (registerTimeout : Duration) :
    (Collider.new registerTimeout).Bound where
  rooms := V1.RoomTable.Sound.new registerTimeout
  session := by simp
  registered := by simp [V1.RoomTable.Registered, V1.RoomTable.client?]
  v2 := ⟨by simp⟩

/-- A step that registers and deregisters nobody. -/
theorem of_steady
    (bound : collider.Bound)
    (rooms : collider.rooms.Steady after.rooms)
    (connections : after.connections = collider.connections)
    (v2Connections : after.v2Connections = collider.v2Connections)
    (sessions : after.sessions = collider.sessions) :
    after.Bound where
  rooms := rooms.sound
  session := by
    rw [connections, sessions]
    exact bound.session
  registered := fun roomid clientid => by
    rw [connections, rooms.registered]
    exact bound.registered roomid clientid
  v2 := bound.v2.of_same v2Connections sessions

theorem of_same
    (bound : collider.Bound)
    (rooms : after.rooms = collider.rooms)
    (connections : after.connections = collider.connections)
    (v2Connections : after.v2Connections = collider.v2Connections)
    (sessions : after.sessions = collider.sessions) :
    after.Bound :=
  bound.of_steady (by rw [rooms]; exact .refl bound.rooms) connections
    v2Connections sessions

/-- A step aside ends no session of a V1 client. -/
theorem of_aside
    (bound : collider.Bound)
    (aside : collider.Aside after)
    (v2 : after.BoundV2) :
    after.Bound where
  rooms := by
    rw [aside.rooms]
    exact bound.rooms
  session := by
    intro roomid clientid connectionId
    rw [aside.connections, bound.session]
    rcases aside.sessions connectionId with same | ⟨ended, key, held⟩
    · rw [same]
    · rw [ended, bound.v2.session _ _ held]
      simp
  registered := fun roomid clientid => by
    rw [aside.connections, aside.rooms]
    exact bound.registered roomid clientid
  v2 := v2

theorem failConnection
    (bound : collider.Bound)
    (connectionId : ConnectionId)
    (error : String) :
    (collider.failConnection connectionId error).Bound :=
  bound.of_same rfl rfl rfl rfl

theorem drainV2Actions (bound : collider.Bound) :
    collider.drainV2Actions.Bound :=
  bound.of_aside (.drainV2Actions collider) bound.v2.drainV2Actions

end Bound

/-- One message of the V1 rooms goes to the connection of its client, if there
is one. -/
def writeOut
    (collider : Collider)
    (rooms : V1.RoomTable)
    (message : Message) : Collider :=
  match collider.connections[(message.roomid, message.clientid)]? with
  | none => { collider with rooms := rooms }
  | some connectionId => ({ collider with rooms := rooms } :
      Collider).pushOutput (.text connectionId (serverMsg message.msg))

theorem drainWrites_succ
    (order : V1.VisitOrder)
    (fuel : Nat)
    (collider : Collider) :
    drainWrites order (fuel + 1) collider =
      match collider.rooms.pollWrite order with
      | (none, _) => collider
      | (some message, rooms) =>
          drainWrites order fuel (collider.writeOut rooms message) := by
  rw [drainWrites]
  rcases collider.rooms.pollWrite order with ⟨none | message, rooms⟩
  · rfl
  · cases stored : collider.connections[(message.roomid, message.clientid)]? <;>
      simp [writeOut, stored]

theorem writeOut_frame
    (collider : Collider)
    (rooms : V1.RoomTable)
    (message : Message) :
    (collider.writeOut rooms message).rooms = rooms ∧
      (collider.writeOut rooms message).connections = collider.connections ∧
      (collider.writeOut rooms message).v2Connections =
        collider.v2Connections ∧
      (collider.writeOut rooms message).sessions = collider.sessions := by
  unfold writeOut
  split <;> exact ⟨rfl, rfl, rfl, rfl⟩

/-- Writing the queues of the V1 rooms out changes queues and outputs only. -/
theorem drainWrites_steady
    (order : V1.VisitOrder)
    (fuel : Nat)
    {collider : Collider}
    (sound : collider.rooms.Sound) :
    collider.rooms.Steady (drainWrites order fuel collider).rooms ∧
      (drainWrites order fuel collider).connections = collider.connections ∧
      (drainWrites order fuel collider).v2Connections =
        collider.v2Connections ∧
      (drainWrites order fuel collider).sessions = collider.sessions := by
  induction fuel generalizing collider with
  | zero => exact ⟨.refl sound, rfl, rfl, rfl⟩
  | succ fuel inductionHypothesis =>
      rw [drainWrites_succ]
      have polled : collider.rooms.Steady (collider.rooms.pollWrite order).2 :=
        .pollWrite sound order
      split
      · exact ⟨.refl sound, rfl, rfl, rfl⟩
      · next message rooms taken =>
          rw [taken] at polled
          obtain ⟨same, connections, v2Connections, sessions⟩ :=
            collider.writeOut_frame rooms message
          have written : (collider.writeOut rooms message).rooms.Sound := by
            rw [same]
            exact polled.sound
          obtain ⟨later, laterConnections, laterV2, laterSessions⟩ :=
            inductionHypothesis written
          rw [same] at later
          exact ⟨polled.trans later, laterConnections.trans connections,
            laterV2.trans v2Connections, laterSessions.trans sessions⟩

theorem Bound.drainRoomWrites
    {collider : Collider}
    (bound : collider.Bound)
    (order : V1.VisitOrder) :
    (collider.drainRoomWrites order).Bound := by
  obtain ⟨rooms, connections, v2Connections, sessions⟩ :=
    drainWrites_steady order collider.rooms.writeCount bound.rooms
  exact bound.of_steady rooms connections v2Connections sessions

/-- Relaying what the sockets have received changes queues, and creates clients
that are not registered. -/
theorem relayReads_steady
    (order : V1.VisitOrder)
    (now : Instant)
    (fuel : Nat)
    {rooms : V1.RoomTable}
    (sound : rooms.Sound) :
    rooms.Steady (relayReads order now fuel rooms).2 := by
  induction fuel generalizing rooms with
  | zero => exact .refl sound
  | succ fuel inductionHypothesis =>
      unfold relayReads
      have polled : rooms.Steady (rooms.pollRead order).2 :=
        .pollRead sound order
      split
      · exact .refl sound
      · next message taken found =>
          rw [found] at polled
          have sent := V1.RoomTable.Steady.send polled.sound order now
            message.roomid message.clientid message.msg
          split
          · next failed => exact polled.trans (by rwa [failed] at sent)
          · next delivered =>
              rw [delivered] at sent
              exact (polled.trans sent).trans (inductionHypothesis sent.sound)

namespace Bound

variable {collider : Collider}

/-- Registering a V1 client on a connection that is not registered yet. -/
theorem registerV1
    (bound : collider.Bound)
    (order : VisitOrder)
    (connectionId : ConnectionId)
    (msg : WsClientMsg)
    (now : Instant) :
    (collider.registerV1 order connectionId msg now).Bound := by
  unfold Collider.registerV1
  split
  · exact bound.failConnection ..
  next unregistered =>
  split
  · exact bound.failConnection ..
  have free : ∀ session, collider.sessions[connectionId]? = some session ->
      session = .connected := by
    intro session found
    cases session with
    | connected => rfl
    | registeredV1 => simp [isRegistered, found] at unregistered
    | registeredV2 => simp [isRegistered, found] at unregistered
  rcases bound.rooms.registered_register order.v1 now msg.roomid msg.clientid
    with ⟨⟨error, failed⟩, steady⟩ | ⟨done, unbound, sound, registered⟩
  · simp only [failed]
    have kept : Bound { collider with
        rooms := (collider.rooms.register order.v1 now msg.roomid
          msg.clientid).2 } := bound.of_steady steady rfl rfl rfl
    exact kept.failConnection ..
  · simp only [done]
    refine Bound.drainRoomWrites ⟨sound, fun roomid clientid other => ?_,
      fun roomid clientid => ?_, ⟨fun key other held => ?_⟩⟩ order.v1
    · simp only [connection_insert]
      by_cases own : (msg.roomid, msg.clientid) = (roomid, clientid)
      · cases own
        rw [if_pos rfl]
        by_cases same : connectionId = other
        · simp [same]
        · have absent : ¬collider.sessions[other]? =
              some (.registeredV1 msg.roomid msg.clientid) := fun held =>
            unbound ((bound.registered _ _).1
              ⟨other, (bound.session _ _ _).2 held⟩)
          simp [same, absent]
      · rw [if_neg own, bound.session]
        by_cases same : connectionId = other
        · subst same
          have absent : ¬collider.sessions[connectionId]? =
              some (.registeredV1 roomid clientid) := fun held => by
            cases free _ held
          have apart : ¬(msg.roomid = roomid ∧ msg.clientid = clientid) :=
            fun both => own (by rw [both.1, both.2])
          simp [absent, apart]
        · simp [same]
    · rw [registered, ← bound.registered]
      simp only [connection_insert]
      by_cases own : (msg.roomid, msg.clientid) = (roomid, clientid)
      · cases own
        simp
      · have apart : ¬(roomid = msg.roomid ∧ clientid = msg.clientid) :=
          fun both => own (by rw [both.1, both.2])
        simp [own, apart]
    · simp only [connection_insert]
      have stored := bound.v2.session key other held
      split
      · next equal =>
          subst equal
          cases free _ stored
      · exact stored

/-- Several frames for one connection. -/
theorem pushTexts_eq
    (collider : Collider)
    (connectionId : ConnectionId)
    (messages : List String) :
    messages.foldl
        (fun collider message => collider.pushOutput
          (.text connectionId (serverMsg message)))
        collider =
      { collider with
        browserOutputs := collider.browserOutputs ++ messages.map
          fun message => .text connectionId (serverMsg message) } := by
  induction messages generalizing collider with
  | nil => simp
  | cons message messages inductionHypothesis =>
      rw [List.foldl_cons, inductionHypothesis]
      simp [pushOutput]

/-- Registering a V2 member on a connection that is not registered yet. -/
theorem registerV2
    (bound : collider.Bound)
    (order : VisitOrder)
    (connectionId : ConnectionId)
    (msg : WsClientMsg) :
    (collider.registerV2 order connectionId msg).Bound := by
  unfold Collider.registerV2
  split
  · exact bound.failConnection ..
  next unregistered =>
  split
  · exact bound.failConnection ..
  next roomId _ =>
  split
  · exact bound.failConnection ..
  next clientId _ =>
  split
  · exact bound.failConnection ..
  have free : ∀ session, collider.sessions[connectionId]? = some session ->
      session = .connected := by
    intro session found
    cases session with
    | connected => rfl
    | registeredV1 => simp [isRegistered, found] at unregistered
    | registeredV2 => simp [isRegistered, found] at unregistered
  rcases collider.v2Rooms.register order.v2 roomId clientId msg.token with
    ⟨error | registration, v2Rooms⟩
  · have kept : Bound { collider with v2Rooms := v2Rooms } :=
      bound.of_same rfl rfl rfl rfl
    exact kept.failConnection ..
  · simp only
    rw [pushTexts_eq]
    refine ⟨bound.rooms, fun roomid clientid other => ?_, bound.registered,
      ⟨fun key other held => ?_⟩⟩
    · simp only [pushOutput_connections, pushOutput_sessions,
        connection_insert]
      rw [bound.session]
      by_cases own : connectionId = other
      · subst own
        have absent : ¬collider.sessions[connectionId]? =
            some (.registeredV1 roomid clientid) := fun held => by
          cases free _ held
        simp [absent]
      · simp [own]
    · simp only [pushOutput_v2Connections, pushOutput_sessions,
        connection_insert] at held ⊢
      by_cases own : connectionId = other
      · subst own
        split at held
        · next equal =>
            subst equal
            simp
        · cases free _ (bound.v2.session _ _ held)
      · split at held
        · cases held
          exact absurd rfl own
        · rw [if_neg own]
          exact bound.v2.session _ _ held

theorem sendV1
    (bound : collider.Bound)
    (order : VisitOrder)
    (roomid : V1.RoomId)
    (clientid : V1.ClientId)
    (msg : String)
    (now : Instant) :
    (collider.sendV1 order roomid clientid msg now).2.Bound := by
  unfold Collider.sendV1
  have received := V1.RoomTable.Steady.handleRead bound.rooms
    ⟨roomid, clientid, msg⟩
  have relayed := received.trans (relayReads_steady order.v1 now
    (collider.rooms.handleRead ⟨roomid, clientid, msg⟩).readCount
      received.sound)
  simp only
  split
  · next failed =>
      rw [failed] at relayed
      exact bound.of_steady relayed rfl rfl rfl
  · next rooms delivered =>
      rw [delivered] at relayed
      have kept : Bound { collider with rooms := rooms } :=
        bound.of_steady relayed rfl rfl rfl
      exact kept.drainRoomWrites order.v1

theorem sendV2
    (bound : collider.Bound)
    (order : VisitOrder)
    (roomId : V2.RoomId)
    (clientId : V2.ClientId)
    (msg : WsClientMsg) :
    (collider.sendV2 order roomId clientId msg).2.Bound := by
  unfold Collider.sendV2
  split
  · exact bound
  · next signalEpoch _ =>
      rcases collider.v2Rooms.send order.v2 roomId clientId signalEpoch
        msg.msg with ⟨error | result, v2Rooms⟩
      · exact bound.of_same rfl rfl rfl rfl
      · have kept : ({ collider with v2Rooms := v2Rooms } : Collider).Bound :=
          bound.of_same rfl rfl rfl rfl
        simp only
        refine Bound.drainV2Actions ?_
        split
        · exact kept.of_aside (.notifyMember ..) (kept.v2.notifyMember ..)
        · exact kept

theorem send
    (bound : collider.Bound)
    (order : VisitOrder)
    (connectionId : ConnectionId)
    (msg : WsClientMsg)
    (now : Instant) :
    (collider.send order connectionId msg now).2.Bound := by
  unfold Collider.send
  split
  · exact bound.failConnection ..
  · split
    · exact bound.failConnection ..
    · split
      · exact bound.sendV1 ..
      · exact bound.sendV2 ..
      · exact bound.failConnection ..

/-- A session that no V1 or V2 connection is bound to ends. -/
theorem eraseSession
    (bound : collider.Bound)
    {connectionId : ConnectionId}
    (unbound : ∀ roomid clientid,
      collider.sessions[connectionId]? ≠ some (.registeredV1 roomid clientid))
    (unboundV2 : ∀ key : V2.MemberKey,
      collider.v2Connections[key]? ≠ some connectionId) :
    Bound { collider with
      sessions := collider.sessions.erase connectionId } where
  rooms := bound.rooms
  session := by
    intro roomid clientid other
    rw [bound.session]
    simp only [connection_erase]
    split
    · next equal =>
        subst equal
        simpa using unbound roomid clientid
    · rfl
  registered := bound.registered
  v2 := by
    refine ⟨fun key other held => ?_⟩
    simp only [connection_erase]
    split
    · next equal =>
        subst equal
        exact absurd held (unboundV2 key)
    · exact bound.v2.session _ _ held

/-- A V1 connection ends with its session and its client's registration. -/
theorem unbind
    (bound : collider.Bound)
    {roomid : V1.RoomId}
    {clientid : V1.ClientId}
    {connectionId : ConnectionId}
    (held : collider.connections[(roomid, clientid)]? = some connectionId)
    {rooms : V1.RoomTable}
    (sound : rooms.Sound)
    (registered : ∀ roomId other, rooms.Registered roomId other ↔
      ¬(roomId = roomid ∧ other = clientid) ∧
        collider.rooms.Registered roomId other) :
    Bound { collider with
      connections := collider.connections.erase (roomid, clientid)
      sessions := collider.sessions.erase connectionId
      rooms := rooms } where
  rooms := sound
  session := by
    intro otherRoom other current
    have own := (bound.session _ _ _).1 held
    simp only [connection_erase]
    by_cases same : (roomid, clientid) = (otherRoom, other)
    · cases same
      rw [if_pos rfl]
      by_cases ended : connectionId = current
      · simp [ended]
      · have absent : ¬collider.sessions[current]? =
            some (.registeredV1 roomid clientid) := fun also => by
          rw [← bound.session, held] at also
          exact ended (Option.some.inj also)
        simp [ended, absent]
    · rw [if_neg same, bound.session]
      by_cases ended : connectionId = current
      · subst ended
        rw [own]
        have apart : ¬(roomid = otherRoom ∧ clientid = other) :=
          fun both => same (by rw [both.1, both.2])
        simpa using apart
      · simp [ended]
  registered := by
    intro roomId other
    rw [registered, ← bound.registered]
    simp only [connection_erase]
    by_cases same : (roomid, clientid) = (roomId, other)
    · cases same
      simp
    · have apart : ¬(roomId = roomid ∧ other = clientid) :=
        fun both => same (by rw [both.1, both.2])
      simp [same, apart]
  v2 := by
    refine ⟨fun key other member => ?_⟩
    have stored := bound.v2.session key other member
    simp only [connection_erase]
    split
    · next equal =>
        subst equal
        rw [(bound.session _ _ _).1 held] at stored
        cases stored
    · exact stored

theorem disconnect
    (bound : collider.Bound)
    (connectionId : ConnectionId)
    (now : Instant) :
    (collider.disconnect connectionId now).Bound := by
  unfold Collider.disconnect
  cases stored : collider.sessions[connectionId]? with
  | none => exact bound
  | some session =>
      cases session with
      | connected =>
          refine bound.eraseSession (by simp [stored]) fun key held => ?_
          rw [bound.v2.session _ _ held] at stored
          cases stored
      | registeredV1 roomid clientid =>
          have held := (bound.session _ _ _).2 stored
          simp only [if_pos held]
          exact bound.unbind held
            (bound.rooms.registered_deregister now roomid roomid clientid
              clientid).1
            fun roomId other =>
              (bound.rooms.registered_deregister now roomid roomId clientid
                other).2
      | registeredV2 roomId clientId =>
          simp only
          split
          · next held =>
              have closed := bound.of_aside
                (.closeV2ClientConnection collider roomId clientId)
                (bound.v2.closeV2ClientConnection roomId clientId)
              unfold closeV2ClientConnection at closed
              rw [held] at closed
              refine Bound.drainV2Actions ?_
              exact Bound.of_same closed rfl rfl rfl rfl
          · next superseded =>
              refine bound.eraseSession (by simp [stored]) fun key held => ?_
              rw [bound.v2.session _ _ held] at stored
              obtain ⟨rfl, rfl⟩ : key.1 = roomId ∧ key.2 = clientId := by
                simpa using stored
              exact superseded held

/-- A removal closes the connection of its client and takes the client out. -/
theorem remove
    (bound : collider.Bound)
    (roomid : V1.RoomId)
    (clientid : V1.ClientId) :
    Bound { collider.closeClientConnection roomid clientid with
      rooms := (collider.closeClientConnection roomid clientid).rooms.leave
        roomid clientid } := by
  unfold closeClientConnection
  have leaving := fun roomId other =>
    collider.rooms.registered_leave roomid roomId clientid other
  cases held : collider.connections[(roomid, clientid)]? with
  | none =>
      have free : ¬collider.rooms.Registered roomid clientid := by
        rw [← bound.registered, held]
        simp
      refine bound.of_steady
        ⟨bound.rooms.remove roomid clientid, fun roomId other => ?_⟩
        rfl rfl rfl
      change (collider.rooms.leave roomid clientid).Registered _ _ ↔ _
      rw [leaving]
      constructor
      · exact fun both => both.2
      · rintro registered
        refine ⟨?_, registered⟩
        rintro ⟨rfl, rfl⟩
        exact free registered
  | some connectionId =>
      exact (bound.unbind held (bound.rooms.remove roomid clientid)
        leaving).of_same rfl rfl rfl rfl

theorem pushPromotions
    (bound : collider.Bound)
    (promotions : List V2.Promotion) :
    (promotions.foldl pushPromotion collider).Bound :=
  bound.of_aside (.foldl Aside.pushPromotion promotions collider)
    (.foldl (fun _ _ kept => kept.notifyMember ..) promotions bound.v2)

theorem perform
    (bound : collider.Bound)
    (order : VisitOrder)
    (command : AuthorityCommand) :
    (collider.perform order command).2.Bound := by
  unfold Collider.perform
  cases command.operation with
  | admitClient roomid clientid isLoopback now =>
      exact bound.of_steady (.join bound.rooms order.v1 now roomid clientid
        isLoopback) rfl rfl rfl
  | remove roomid clientid => exact bound.remove roomid clientid
  | occupancy roomid => exact bound
  | inject roomid clientid msg now =>
      have sent := V1.RoomTable.Steady.send bound.rooms order.v1 now roomid
        clientid msg
      simp only [V1.RoomTable.saveOrSend]
      split
      · next failed =>
          rw [failed] at sent
          exact bound.of_steady sent rfl rfl rfl
      · next rooms delivered =>
          rw [delivered] at sent
          have kept : Bound { collider with rooms := rooms } :=
            bound.of_steady sent rfl rfl rfl
          exact kept.drainRoomWrites order.v1
  | admitV2 roomId clientId admissionToken now =>
      exact bound.of_same rfl rfl rfl rfl
  | removeV2 roomId clientId admissionToken =>
      simp only
      rcases collider.v2Rooms.remove command.requestId roomId clientId
        admissionToken with ⟨error | ⟨promotion⟩ | -, v2Rooms⟩
      · exact bound.of_same rfl rfl rfl rfl
      · have kept : ({ collider with v2Rooms := v2Rooms } : Collider).Bound :=
          bound.of_same rfl rfl rfl rfl
        exact (kept.of_aside (.closeV2ClientConnection ..)
          (kept.v2.closeV2ClientConnection ..)).pushPromotions _
      · exact bound.of_same rfl rfl rfl rfl
  | occupancyV2 roomId => exact bound
  | status => exact bound

theorem handleAuthority
    (bound : collider.Bound)
    (order : VisitOrder)
    (command : AuthorityCommand) :
    (collider.handleAuthority order command).Bound := by
  unfold Collider.handleAuthority
  have performed := bound.perform order command
  cases answer : (collider.perform order command).1 with
  | none => simpa [answer] using performed.drainV2Actions
  | some result =>
      simp only [answer, Option.toList_some, List.foldl_cons, List.foldl_nil]
      have answered : ((collider.perform order command).2.pushResponse
          ⟨command.requestId, result⟩).Bound :=
        performed.of_same rfl rfl rfl rfl
      exact answered.drainV2Actions

theorem handleTimeout
    (bound : collider.Bound)
    (order : VisitOrder)
    (now : Instant) :
    (collider.handleTimeout order now).Bound := by
  unfold Collider.handleTimeout
  have swept : Bound { collider with
      rooms := collider.rooms.handleTimeout order.v1 now
      v2Rooms := (collider.v2Rooms.handleTimeout order.v2 now).2 } :=
    bound.of_steady (bound.rooms.registered_handleTimeout order.v1 now)
      rfl rfl rfl
  exact (swept.pushPromotions _).drainV2Actions

theorem handleBrowserText
    (bound : collider.Bound)
    (decode : String -> Except String WsClientMsg)
    (order : VisitOrder)
    (connectionId : ConnectionId)
    (text : String)
    (now : Instant) :
    (collider.handleBrowserText decode order connectionId text now).2.Bound := by
  unfold Collider.handleBrowserText
  split
  · exact bound.failConnection ..
  · split
    · split
      · exact bound.registerV2 ..
      · split
        · exact bound.registerV1 ..
        · exact bound.failConnection ..
    · split
      · exact bound.send ..
      · exact bound.failConnection ..

/-- A connection opens that no client has registered on. -/
theorem connected
    (bound : collider.Bound)
    {connectionId : ConnectionId}
    (fresh : collider.sessions[connectionId]? = none) :
    Bound { collider with
      sessions := collider.sessions.insert connectionId .connected } where
  rooms := bound.rooms
  session := by
    intro roomid clientid other
    rw [bound.session]
    simp only [connection_insert]
    split
    · next equal =>
        subst equal
        simp [fresh]
    · rfl
  registered := bound.registered
  v2 := by
    refine ⟨fun key other held => ?_⟩
    have stored := bound.v2.session key other held
    simp only [connection_insert]
    split
    · next equal =>
        subst equal
        simp [fresh] at stored
    · exact stored

/-- Every call keeps the maps in agreement, as long as a connection that opens
is new. -/
theorem step
    (bound : collider.Bound)
    (decode : String -> Except String WsClientMsg)
    (call : Call)
    (fresh : ∀ connectionId,
      call.operation = .handleRead (.connected connectionId) ->
        collider.sessions[connectionId]? = none) :
    (collider.step decode call).Bound := by
  unfold Collider.step
  cases operation : call.operation with
  | handleRead input =>
      cases input with
      | connected connectionId => exact bound.connected (fresh _ operation)
      | text connectionId text now => exact bound.handleBrowserText ..
      | disconnected connectionId now => exact bound.disconnect ..
  | handleWrite command => exact bound.handleAuthority ..
  | handleSfuInput input =>
      exact bound.of_aside (.handleSfuInput collider call.order input)
        (bound.v2.handleSfuInput call.order input)
  | handleTimeout now => exact bound.handleTimeout ..
  | setDowngradeDwell dwell => exact bound.of_same rfl rfl rfl rfl
  | pollWrite => exact bound.of_same rfl rfl rfl rfl
  | pollEvent => exact bound.of_same rfl rfl rfl rfl
  | close =>
      exact ⟨fun roomId room found => by
          simp [Collider.close, V1.RoomTable.close] at found,
        by simp [Collider.close],
        by simp [Collider.close, V1.RoomTable.Registered,
          V1.RoomTable.client?, V1.RoomTable.close],
        ⟨by simp [Collider.close]⟩⟩

end Bound

/-- The call is an input from the connection. -/
def Call.Names (call : Call) (connectionId : ConnectionId) : Prop :=
  match call.operation with
  | .handleRead (.connected named) => named = connectionId
  | .handleRead (.text named _ _) => named = connectionId
  | .handleRead (.disconnected named _) => named = connectionId
  | _ => False

/-- A connection opens before its other inputs, and once. -/
def Introduced : History -> Prop
  | [] => True
  | (_, call) :: older =>
      (∀ connectionId,
        call.operation = .handleRead (.connected connectionId) ->
          ∀ event ∈ older, ¬event.2.Names connectionId) ∧
      Introduced older

section Sessions

variable
  {collider : Collider}
  {connectionId other : ConnectionId}

theorem Aside.absent
    {after : Collider}
    (aside : collider.Aside after)
    (absent : collider.sessions[other]? = none) :
    after.sessions[other]? = none := by
  rcases aside.sessions other with same | ⟨ended, -⟩
  · exact same.trans absent
  · exact ended

theorem drainRoomWrites_sessions
    (sound : collider.rooms.Sound)
    (order : V1.VisitOrder) :
    (collider.drainRoomWrites order).sessions = collider.sessions :=
  (drainWrites_steady order _ sound).2.2.2

theorem registerV1_absent
    (bound : collider.Bound)
    (order : VisitOrder)
    (msg : WsClientMsg)
    (now : Instant)
    (away : connectionId ≠ other)
    (absent : collider.sessions[other]? = none) :
    (collider.registerV1 order connectionId msg now).sessions[other]? =
      none := by
  unfold registerV1
  split
  · exact absent
  split
  · exact absent
  have kept := (bound.rooms.update
    ((bound.rooms.room msg.roomid).1.register order.v1 now msg.clientid))
  rcases registered : collider.rooms.register order.v1 now msg.roomid
    msg.clientid with ⟨error | done, rooms⟩
  · exact absent
  · have sound : rooms.Sound := by
      have same : (collider.rooms.register order.v1 now msg.roomid
        msg.clientid).2 = rooms := by rw [registered]
      rw [← same]
      exact kept
    simp only
    rw [drainRoomWrites_sessions sound, connection_insert, if_neg away]
    exact absent

theorem registerV2_absent
    (order : VisitOrder)
    (msg : WsClientMsg)
    (away : connectionId ≠ other)
    (absent : collider.sessions[other]? = none) :
    (collider.registerV2 order connectionId msg).sessions[other]? = none := by
  unfold registerV2
  split
  · exact absent
  split
  · exact absent
  next roomId _ =>
  split
  · exact absent
  next clientId _ =>
  split
  · exact absent
  rcases collider.v2Rooms.register order.v2 roomId clientId msg.token with
    ⟨error | registration, v2Rooms⟩
  · exact absent
  · simp only
    rw [Bound.pushTexts_eq]
    simp only [pushOutput_sessions, connection_insert, if_neg away]
    exact absent

theorem send_absent
    (bound : collider.Bound)
    (order : VisitOrder)
    (msg : WsClientMsg)
    (now : Instant)
    (absent : collider.sessions[other]? = none) :
    (collider.send order connectionId msg now).2.sessions[other]? = none := by
  unfold Collider.send
  split
  · exact absent
  split
  · exact absent
  split
  · next roomid clientid _ =>
      unfold sendV1
      have received := V1.RoomTable.Steady.handleRead bound.rooms
        ⟨roomid, clientid, msg.msg⟩
      have relayed := relayReads_steady order.v1 now
        (collider.rooms.handleRead ⟨roomid, clientid, msg.msg⟩).readCount
        received.sound
      simp only
      split
      · exact absent
      · next delivered =>
          rw [delivered] at relayed
          rw [drainRoomWrites_sessions relayed.sound]
          exact absent
  · next roomId clientId _ =>
      unfold sendV2
      split
      · exact absent
      · next signalEpoch _ =>
          rcases collider.v2Rooms.send order.v2 roomId clientId signalEpoch
            msg.msg with ⟨error | result, v2Rooms⟩
          · exact absent
          · simp only
            refine (Aside.drainV2Actions _).absent ?_
            split
            · exact (Aside.notifyMember ..).absent absent
            · exact absent
  · exact absent

theorem disconnect_absent
    (now : Instant)
    (absent : collider.sessions[other]? = none) :
    (collider.disconnect connectionId now).sessions[other]? = none := by
  have erased : (collider.sessions.erase connectionId)[other]? = none := by
    rw [connection_erase]
    split
    · rfl
    · exact absent
  unfold disconnect
  split
  · exact absent
  split
  · simp only
    split <;> exact erased
  · simp only
    split
    · exact (Aside.drainV2Actions _).absent erased
    · exact erased
  · exact erased

theorem perform_absent
    (bound : collider.Bound)
    (order : VisitOrder)
    (command : AuthorityCommand)
    (absent : collider.sessions[other]? = none) :
    (collider.perform order command).2.sessions[other]? = none := by
  unfold perform
  cases command.operation with
  | remove roomid clientid =>
      simp only [closeClientConnection]
      split
      · exact absent
      · simp only [pushOutput_sessions, connection_erase]
        split
        · rfl
        · exact absent
  | inject roomid clientid msg now =>
      have sent := V1.RoomTable.Steady.send bound.rooms order.v1 now roomid
        clientid msg
      simp only [V1.RoomTable.saveOrSend]
      split
      · exact absent
      · next delivered =>
          rw [delivered] at sent
          rw [drainRoomWrites_sessions sent.sound]
          exact absent
  | removeV2 roomId clientId admissionToken =>
      simp only
      rcases collider.v2Rooms.remove command.requestId roomId clientId
        admissionToken with ⟨error | ⟨promotion⟩ | -, v2Rooms⟩
      · exact absent
      · exact ((Aside.closeV2ClientConnection ..).trans
          (.foldl Aside.pushPromotion _ _)).absent absent
      · exact absent
  | _ => exact absent

/-- A connection has no session before its first input. -/
theorem step_absent
    (bound : collider.Bound)
    (decode : String -> Except String WsClientMsg)
    {call : Call}
    (silent : ¬call.Names other)
    (absent : collider.sessions[other]? = none) :
    (collider.step decode call).sessions[other]? = none := by
  unfold Call.Names at silent
  unfold Collider.step
  cases operation : call.operation with
  | handleRead input =>
      rw [operation] at silent
      cases input with
      | connected connectionId =>
          simp only [handleRead, connection_insert, if_neg silent]
          exact absent
      | text connectionId text now =>
          simp only [handleRead, handleBrowserText]
          split
          · exact absent
          split
          · split
            · exact registerV2_absent call.order _ silent absent
            · split
              · exact registerV1_absent bound call.order _ now silent absent
              · exact absent
          · split
            · exact send_absent bound call.order _ now absent
            · exact absent
      | disconnected connectionId now => exact disconnect_absent now absent
  | handleWrite command =>
      simp only [handleAuthority]
      refine (Aside.drainV2Actions _).absent ?_
      cases (collider.perform call.order command).1 with
      | none => exact perform_absent bound call.order command absent
      | some result => exact perform_absent bound call.order command absent
  | handleSfuInput input => exact (Aside.handleSfuInput ..).absent absent
  | handleTimeout now =>
      refine ((Aside.foldl Aside.pushPromotion _ _).trans
        (.drainV2Actions _)).absent ?_
      exact absent
  | setDowngradeDwell dwell => exact absent
  | pollWrite => exact absent
  | pollEvent => exact absent
  | close => simp [Collider.close]

end Sessions

/-- Along every run in which a connection opens once and before its other
inputs, the maps agree. -/
theorem bound_of_run
    {decode : String -> Except String WsClientMsg}
    {registerTimeout : Duration}
    {history : History}
    {collider : Collider}
    (run : (machine decode registerTimeout).Run history collider)
    (introduced : Introduced history) :
    collider.Bound ∧ ∀ connectionId,
      (∀ event ∈ history, ¬event.2.Names connectionId) ->
        collider.sessions[connectionId]? = none := by
  induction run with
  | start starts =>
      subst starts
      exact ⟨Bound.new _, by simp⟩
  | next call run inductionHypothesis =>
      obtain ⟨bound, absent⟩ := inductionHypothesis introduced.2
      refine ⟨bound.step decode call fun connectionId opens =>
        absent _ (introduced.1 connectionId opens), ?_⟩
      intro connectionId silent
      exact step_absent bound decode (silent _ List.mem_cons_self)
        (absent connectionId fun event listed =>
          silent event (List.mem_cons_of_mem _ listed))

end Collider
end Signaling
