import Signaling.Collider.Connections
import Signaling.V2.Invariants

/-!
# What a call of the collider does to its room tables

Whatever the driver calls, the V1 table stays sound and the V2 table goes
through calls of its own, or is cleared. What these preserve holds in every
reachable collider.
-/

namespace Signaling

/-- One call of the V2 table, or its end. -/
inductive V2.RoomTable.Works : V2.RoomTable -> V2.RoomTable -> Prop
  | call (table : V2.RoomTable) (call : V2.Call) :
      Works table (table.step call)
  | clear (table : V2.RoomTable) : Works table table.clear

namespace Collider

open V2.RoomTable (Works)
open Relation

section Actions

theorem notifyMember_v2Rooms
    (collider : Collider)
    (roomId : V2.RoomId)
    (clientId : V2.ClientId)
    (frame : Frame) :
    (collider.notifyMember roomId clientId frame).v2Rooms =
      collider.v2Rooms := by
  unfold notifyMember
  split <;> rfl

theorem foldl_v2Rooms
    {α : Type}
    {step : Collider -> α -> Collider}
    (kept : ∀ (collider : Collider) (entry : α),
      (step collider entry).v2Rooms = collider.v2Rooms)
    (entries : List α)
    (collider : Collider) :
    (entries.foldl step collider).v2Rooms = collider.v2Rooms := by
  induction entries generalizing collider with
  | nil => rfl
  | cons entry entries inductionHypothesis =>
      exact (inductionHypothesis _).trans (kept collider entry)

theorem pushPromotions_v2Rooms
    (promotions : List V2.Promotion)
    (collider : Collider) :
    (promotions.foldl pushPromotion collider).v2Rooms = collider.v2Rooms :=
  foldl_v2Rooms (fun _ _ => notifyMember_v2Rooms ..) promotions collider

theorem closeV2ClientConnection_v2Rooms
    (collider : Collider)
    (roomId : V2.RoomId)
    (clientId : V2.ClientId) :
    (collider.closeV2ClientConnection roomId clientId).v2Rooms =
      collider.v2Rooms := by
  unfold closeV2ClientConnection
  split <;> rfl

/-- Carrying an action out leaves the V2 table to itself. -/
theorem performAction_v2Rooms
    (collider : Collider)
    (action : V2.Action) :
    (collider.performAction action).v2Rooms = collider.v2Rooms := by
  cases action with
  | sfu | admissionCompleted => rfl
  | removalCompleted authorityRequestId roomId clientId result =>
      cases result with
      | ok => exact closeV2ClientConnection_v2Rooms ..
      | error => rfl
  | deliver delivery => exact notifyMember_v2Rooms ..
  | upgraded | downgraded | roomFailed =>
      exact foldl_v2Rooms (fun _ _ => notifyMember_v2Rooms ..) ..

end Actions

/-- The tables of a collider after some work. -/
structure Advances (collider after : Collider) : Prop where
  sound : after.rooms.Sound
  works : ReflTransGen Works collider.v2Rooms after.v2Rooms

namespace Advances

variable {collider middle after : Collider}

theorem of_rooms
    (sound : after.rooms.Sound)
    (v2Rooms : after.v2Rooms = collider.v2Rooms) :
    collider.Advances after :=
  ⟨sound, v2Rooms ▸ .refl⟩

theorem of_same
    (sound : collider.rooms.Sound)
    (rooms : after.rooms = collider.rooms)
    (v2Rooms : after.v2Rooms = collider.v2Rooms) :
    collider.Advances after :=
  of_rooms (rooms ▸ sound) v2Rooms

theorem trans
    (first : collider.Advances middle)
    (second : middle.Advances after) :
    collider.Advances after :=
  ⟨second.sound, first.works.trans second.works⟩

/-- One call of the V2 table. -/
theorem call
    (sound : collider.rooms.Sound)
    (rooms : after.rooms = collider.rooms)
    (call : V2.Call)
    (v2Rooms : after.v2Rooms = collider.v2Rooms.step call) :
    collider.Advances after :=
  ⟨rooms ▸ sound, v2Rooms ▸ .single (.call collider.v2Rooms call)⟩

theorem drainV2Actions
    (advanced : collider.Advances middle) :
    collider.Advances middle.drainV2Actions := by
  refine ⟨(Aside.drainV2Actions middle).rooms ▸ advanced.sound,
    advanced.works.trans ?_⟩
  unfold Collider.drainV2Actions
  generalize middle.v2Rooms.actions.length = fuel
  clear advanced
  induction fuel generalizing middle with
  | zero => exact .refl
  | succ fuel inductionHypothesis =>
      unfold Collider.drainActions
      split
      · exact .refl
      · next action v2Rooms taken =>
          have polled : v2Rooms =
              middle.v2Rooms.step ⟨.pollAction, .sorted⟩ := by
            simp [V2.RoomTable.step, taken]
          refine .head ?_ inductionHypothesis
          rw [performAction_v2Rooms, polled]
          exact Works.call middle.v2Rooms ⟨.pollAction, .sorted⟩

theorem drainRoomWrites
    (advanced : collider.Advances middle)
    (order : V1.VisitOrder) :
    collider.Advances (middle.drainRoomWrites order) := by
  refine ⟨(drainWrites_steady order _ advanced.sound).1.sound,
    advanced.works.trans ?_⟩
  unfold Collider.drainRoomWrites
  generalize middle.rooms.writeCount = fuel
  clear advanced
  induction fuel generalizing middle with
  | zero => exact .refl
  | succ fuel inductionHypothesis =>
      rw [drainWrites_succ]
      split
      · exact .refl
      · next message rooms taken =>
          have kept : (middle.writeOut rooms message).v2Rooms =
              middle.v2Rooms := by
            unfold writeOut
            split <;> rfl
          exact kept ▸ inductionHypothesis

theorem registerV1
    (sound : collider.rooms.Sound)
    (order : VisitOrder)
    (connectionId : ConnectionId)
    (msg : WsClientMsg)
    (now : Instant) :
    collider.Advances (collider.registerV1 order connectionId msg now) := by
  unfold Collider.registerV1
  split
  · exact of_same sound rfl rfl
  split
  · exact of_same sound rfl rfl
  have registered := sound.step
    ⟨.register now msg.roomid msg.clientid, order.v1⟩
  simp only [V1.RoomTable.step] at registered
  rcases outcome : collider.rooms.register order.v1 now msg.roomid
    msg.clientid with ⟨error | done, rooms⟩
  · rw [outcome] at registered
    exact of_rooms registered rfl
  · rw [outcome] at registered
    refine drainRoomWrites ?_ order.v1
    exact of_rooms registered rfl

theorem registerV2
    (sound : collider.rooms.Sound)
    (order : VisitOrder)
    (connectionId : ConnectionId)
    (msg : WsClientMsg) :
    collider.Advances (collider.registerV2 order connectionId msg) := by
  unfold Collider.registerV2
  split
  · exact of_same sound rfl rfl
  split
  · exact of_same sound rfl rfl
  next roomId _ =>
  split
  · exact of_same sound rfl rfl
  next clientId _ =>
  split
  · exact of_same sound rfl rfl
  simp only
  have asked : collider.v2Rooms.step ⟨.register roomId clientId msg.token,
      order.v2⟩ = (collider.v2Rooms.register order.v2 roomId clientId
        msg.token).2 := rfl
  rcases outcome : collider.v2Rooms.register order.v2 roomId clientId
    msg.token with ⟨error | registration, v2Rooms⟩
  · rw [outcome] at asked
    exact call sound rfl _ asked.symm
  · rw [outcome] at asked
    simp only
    rw [Bound.pushTexts_eq]
    exact call sound rfl _ asked.symm

theorem sendV1
    (sound : collider.rooms.Sound)
    (order : VisitOrder)
    (roomid : V1.RoomId)
    (clientid : V1.ClientId)
    (msg : String)
    (now : Instant) :
    collider.Advances (collider.sendV1 order roomid clientid msg now).2 := by
  unfold Collider.sendV1
  have received := V1.RoomTable.Steady.handleRead sound ⟨roomid, clientid, msg⟩
  have relayed := (relayReads_steady order.v1 now
    (collider.rooms.handleRead ⟨roomid, clientid, msg⟩).readCount
      received.sound).sound
  simp only
  split
  · next failed =>
      rw [failed] at relayed
      exact of_rooms relayed rfl
  · next rooms delivered =>
      rw [delivered] at relayed
      refine drainRoomWrites ?_ order.v1
      exact of_rooms relayed rfl

theorem sendV2
    (sound : collider.rooms.Sound)
    (order : VisitOrder)
    (roomId : V2.RoomId)
    (clientId : V2.ClientId)
    (msg : WsClientMsg) :
    collider.Advances (collider.sendV2 order roomId clientId msg).2 := by
  unfold Collider.sendV2
  split
  · exact of_same sound rfl rfl
  next signalEpoch _ =>
  have asked : collider.v2Rooms.step
      ⟨.send roomId clientId signalEpoch msg.msg, order.v2⟩ =
        (collider.v2Rooms.send order.v2 roomId clientId signalEpoch
          msg.msg).2 := rfl
  rcases outcome : collider.v2Rooms.send order.v2 roomId clientId signalEpoch
    msg.msg with ⟨error | result, v2Rooms⟩
  · rw [outcome] at asked
    exact call sound rfl _ asked.symm
  · rw [outcome] at asked
    have taken : collider.Advances { collider with v2Rooms := v2Rooms } :=
      call sound rfl _ asked.symm
    simp only
    split
    · next delivery =>
        have told := Aside.notifyMember { collider with v2Rooms := v2Rooms }
          delivery.roomId delivery.clientId (serverMsg delivery.message)
        have notified : collider.Advances (Collider.notifyMember
            { collider with v2Rooms := v2Rooms } delivery.roomId
              delivery.clientId (serverMsg delivery.message)) :=
          taken.trans (of_same taken.sound told.rooms
            (notifyMember_v2Rooms ..))
        exact drainV2Actions notified
    · exact drainV2Actions taken

theorem disconnect
    (sound : collider.rooms.Sound)
    (connectionId : ConnectionId)
    (now : Instant) :
    collider.Advances (collider.disconnect connectionId now) := by
  unfold Collider.disconnect
  split
  · exact of_same sound rfl rfl
  next session _ =>
  cases session with
  | connected => exact of_same sound rfl rfl
  | registeredV1 roomid clientid =>
      dsimp only
      split
      · exact of_rooms (sound.step ⟨.deregister now roomid clientid, .sorted⟩)
          rfl
      · exact of_same sound rfl rfl
  | registeredV2 roomId clientId =>
      dsimp only
      split
      · refine drainV2Actions ?_
        exact call sound rfl ⟨.deregister now roomId clientId, .sorted⟩ rfl
      · exact of_same sound rfl rfl

theorem handleBrowserText
    (decode : String -> Except String WsClientMsg)
    (sound : collider.rooms.Sound)
    (order : VisitOrder)
    (connectionId : ConnectionId)
    (text : String)
    (now : Instant) :
    collider.Advances
      (collider.handleBrowserText decode order connectionId text now).2 := by
  unfold Collider.handleBrowserText
  split
  · exact of_same sound rfl rfl
  split
  · split
    · exact registerV2 sound ..
    · split
      · exact registerV1 sound ..
      · exact of_same sound rfl rfl
  · split
    · unfold Collider.send
      split
      · exact of_same sound rfl rfl
      · split
        · exact of_same sound rfl rfl
        · split
          · exact sendV1 sound ..
          · exact sendV2 sound ..
          · exact of_same sound rfl rfl
    · exact of_same sound rfl rfl

theorem perform
    (sound : collider.rooms.Sound)
    (order : VisitOrder)
    (command : AuthorityCommand) :
    collider.Advances (collider.perform order command).2 := by
  unfold Collider.perform
  cases asked : command.operation with
  | admitClient roomid clientid isLoopback now =>
      exact of_rooms (sound.step
        ⟨.join now roomid clientid isLoopback, order.v1⟩) rfl
  | remove roomid clientid =>
      have closed : (collider.closeClientConnection roomid clientid).rooms =
            collider.rooms ∧
          (collider.closeClientConnection roomid clientid).v2Rooms =
            collider.v2Rooms := by
        unfold Collider.closeClientConnection
        split <;> exact ⟨rfl, rfl⟩
      refine of_rooms ?_ closed.2
      simp only [closed.1]
      exact sound.step ⟨.leave roomid clientid, order.v1⟩
  | occupancy | occupancyV2 | status => exact of_same sound rfl rfl
  | inject roomid clientid msg now =>
      have sent := sound.step ⟨.saveOrSend now roomid clientid msg, order.v1⟩
      simp only [V1.RoomTable.step] at sent
      rcases outcome : collider.rooms.saveOrSend order.v1 now roomid clientid
        msg with ⟨error | done, rooms⟩
      · rw [outcome] at sent
        simp only [outcome]
        exact of_rooms sent rfl
      · rw [outcome] at sent
        simp only [outcome]
        refine drainRoomWrites ?_ order.v1
        exact of_rooms sent rfl
  | admitV2 roomId clientId admissionToken now =>
      exact call sound rfl ⟨.admitClient command.requestId now roomId clientId
        admissionToken, order.v2⟩ rfl
  | removeV2 roomId clientId admissionToken =>
      have removed : collider.v2Rooms.step ⟨.remove command.requestId roomId
          clientId admissionToken, order.v2⟩ = (collider.v2Rooms.remove
            command.requestId roomId clientId admissionToken).2 := rfl
      rcases outcome : collider.v2Rooms.remove command.requestId roomId
        clientId admissionToken with ⟨error | result, v2Rooms⟩
      · rw [outcome] at removed
        simp only [outcome]
        exact call sound rfl _ removed.symm
      · rw [outcome] at removed
        simp only [outcome]
        have taken : collider.Advances { collider with v2Rooms := v2Rooms } :=
          call sound rfl _ removed.symm
        cases result with
        | pending => exact taken
        | complete promotion =>
            have told := (Aside.closeV2ClientConnection
              { collider with v2Rooms := v2Rooms } roomId clientId).trans
                (Aside.foldl Aside.pushPromotion promotion.toList _)
            refine taken.trans (of_same sound told.rooms ?_)
            exact (pushPromotions_v2Rooms ..).trans
              (closeV2ClientConnection_v2Rooms ..)

theorem handleTimeout
    (sound : collider.rooms.Sound)
    (order : VisitOrder)
    (now : Instant) :
    collider.Advances (collider.handleTimeout order now) := by
  unfold Collider.handleTimeout
  have swept := sound.handleTimeout order.v1 now
  have timed : collider.v2Rooms.step ⟨.handleTimeout now, order.v2⟩ =
      (collider.v2Rooms.handleTimeout order.v2 now).2 := rfl
  rcases outcome : collider.v2Rooms.handleTimeout order.v2 now with
    ⟨promotions, v2Rooms⟩
  rw [outcome] at timed
  have taken : collider.Advances { collider with
      rooms := collider.rooms.handleTimeout order.v1 now
      v2Rooms := v2Rooms } :=
    (of_rooms swept rfl : collider.Advances { collider with
      rooms := collider.rooms.handleTimeout order.v1 now }).trans
        (call swept rfl _ timed.symm)
  have told := Aside.foldl Aside.pushPromotion promotions { collider with
    rooms := collider.rooms.handleTimeout order.v1 now
    v2Rooms := v2Rooms }
  have notified := taken.trans (of_same swept told.rooms
    (pushPromotions_v2Rooms ..))
  exact drainV2Actions notified

theorem handleAuthority
    (sound : collider.rooms.Sound)
    (order : VisitOrder)
    (command : AuthorityCommand) :
    collider.Advances (collider.handleAuthority order command) := by
  have performed := perform sound order command
  unfold Collider.handleAuthority
  rcases outcome : collider.perform order command with ⟨result, performedBy⟩
  rw [outcome] at performed
  refine drainV2Actions (performed.trans ?_)
  cases result with
  | none => exact of_same performed.sound rfl rfl
  | some result => exact of_same performed.sound rfl rfl

theorem handleSfuInput
    (sound : collider.rooms.Sound)
    (order : VisitOrder)
    (input : Sfu.Input) :
    collider.Advances (collider.handleSfuInput order input).2 := by
  have taken : collider.v2Rooms.step ⟨.handleSfuInput input, order.v2⟩ =
      (collider.v2Rooms.handleSfuInput order.v2 input).2 := rfl
  unfold Collider.handleSfuInput
  rcases outcome : collider.v2Rooms.handleSfuInput order.v2 input with
    ⟨error | done, v2Rooms⟩
  · rw [outcome] at taken
    exact call sound rfl _ taken.symm
  · rw [outcome] at taken
    refine drainV2Actions ?_
    exact call sound rfl _ taken.symm

/-- Every call of the collider. -/
theorem step
    (decode : String -> Except String WsClientMsg)
    (sound : collider.rooms.Sound)
    (call : Call) :
    collider.Advances (collider.step decode call) := by
  unfold Collider.step
  cases call.operation with
  | handleRead input =>
      cases input with
      | connected connectionId => exact of_same sound rfl rfl
      | text connectionId text now =>
          exact handleBrowserText decode sound ..
      | disconnected connectionId now => exact disconnect sound ..
  | handleWrite command => exact handleAuthority sound ..
  | handleSfuInput input => exact handleSfuInput sound ..
  | handleTimeout now => exact handleTimeout sound ..
  | setDowngradeDwell dwell =>
      exact Advances.call sound rfl ⟨.setDowngradeDwell dwell, .sorted⟩ rfl
  | pollWrite | pollEvent => exact of_same sound rfl rfl
  | close =>
      refine ⟨?_, .single (.clear collider.v2Rooms)⟩
      intro roomid room found
      simp [Collider.close, V1.RoomTable.close] at found

end Advances

/-- The V1 table of every reachable collider is sound, and its V2 table has what
calls and the end of the table preserve. -/
theorem tables_of_reachable
    {decode : String -> Except String WsClientMsg}
    {registerTimeout : Duration}
    (invariant : V2.RoomTable -> Prop)
    (initial : invariant (V2.RoomTable.new registerTimeout))
    (kept : ∀ table after, V2.RoomTable.Works table after ->
      invariant table -> invariant after)
    {collider : Collider}
    (reachable : (machine decode registerTimeout).Reachable collider) :
    collider.rooms.Sound ∧ invariant collider.v2Rooms := by
  obtain ⟨history, run⟩ := reachable
  induction run with
  | start starts =>
      cases starts
      exact ⟨V1.RoomTable.Sound.new registerTimeout, initial⟩
  | next call _ inductionHypothesis =>
      obtain ⟨sound, holds⟩ := inductionHypothesis
      obtain ⟨stays, works⟩ := Advances.step decode sound call
      refine ⟨stays, ?_⟩
      refine ReflTransGen.head_induction_on
        (motive := fun table _ => invariant table -> invariant _) works id
        (fun step _ later holds => later (kept _ _ step holds)) holds

/-- The tables of every reachable collider are sound and consistent, and the V2
table has what its calls and its end preserve. -/
theorem consistent_of_reachable
    {decode : String -> Except String WsClientMsg}
    {registerTimeout : Duration}
    (invariant : V2.RoomTable -> Prop)
    (initial : invariant (V2.RoomTable.new registerTimeout))
    (kept : ∀ (table : V2.RoomTable) (call : V2.Call), table.Consistent ->
      invariant table -> invariant (table.step call))
    (ended : ∀ table : V2.RoomTable, invariant table -> invariant table.clear)
    {collider : Collider}
    (reachable : (machine decode registerTimeout).Reachable collider) :
    collider.rooms.Sound ∧ collider.v2Rooms.Consistent ∧
      invariant collider.v2Rooms := by
  refine tables_of_reachable (fun table => table.Consistent ∧ invariant table)
    ⟨.new registerTimeout, initial⟩ ?_ reachable
  rintro table after (call | _) ⟨consistent, holds⟩
  · exact ⟨consistent.step call, kept table call consistent holds⟩
  · exact ⟨consistent.clear, ended table holds⟩

end Collider
end Signaling
