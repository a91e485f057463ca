import Signaling.Collider.Run
import Signaling.V1.Lookup

/-!
# What work on the V2 side leaves alone

Carrying out the actions of the V2 table touches neither the V1 rooms nor the
V1 connections. It writes to connections that are bound to V2 members, and ends
sessions of such connections only.
-/

namespace Signaling
namespace Collider

open Std (ExtTreeMap)

/-- Every V2 connection belongs to a session registered for its member. -/
structure BoundV2 (collider : Collider) : Prop where
  session : ∀ (key : V2.MemberKey) (connectionId : ConnectionId),
    collider.v2Connections[key]? = some connectionId ->
      collider.sessions[connectionId]? = some (.registeredV2 key.1 key.2)

/-- A step aside from the V1 rooms and their connections. -/
structure Aside (collider after : Collider) : Prop where
  rooms : after.rooms = collider.rooms
  connections : after.connections = collider.connections
  v2Connections : ∀ (key : V2.MemberKey) (connectionId : ConnectionId),
    after.v2Connections[key]? = some connectionId ->
      collider.v2Connections[key]? = some connectionId
  sessions : ∀ connectionId : ConnectionId,
    after.sessions[connectionId]? = collider.sessions[connectionId]? ∨
      after.sessions[connectionId]? = none ∧
        ∃ key : V2.MemberKey,
          collider.v2Connections[key]? = some connectionId
  outputs : ∃ more, after.browserOutputs = collider.browserOutputs ++ more ∧
    ∀ connectionId frame, BrowserOutput.text connectionId frame ∈ more ->
      ∃ key : V2.MemberKey, collider.v2Connections[key]? = some connectionId

namespace Aside

variable {collider middle after : Collider}

theorem refl (collider : Collider) : collider.Aside collider where
  rooms := rfl
  connections := rfl
  v2Connections := fun _ _ found => found
  sessions := fun _ => .inl rfl
  outputs := ⟨[], by simp, by simp⟩

theorem trans
    (first : collider.Aside middle)
    (second : middle.Aside after) :
    collider.Aside after where
  rooms := second.rooms.trans first.rooms
  connections := second.connections.trans first.connections
  v2Connections := fun key connectionId found =>
    first.v2Connections _ _ (second.v2Connections key connectionId found)
  sessions := by
    intro connectionId
    rcases second.sessions connectionId with same | ⟨ended, key, bound⟩
    · rw [same]
      exact first.sessions connectionId
    · exact .inr ⟨ended, key, first.v2Connections _ _ bound⟩
  outputs := by
    obtain ⟨earlier, firstOutputs, firstBound⟩ := first.outputs
    obtain ⟨later, secondOutputs, secondBound⟩ := second.outputs
    refine ⟨earlier ++ later, by rw [secondOutputs, firstOutputs,
      List.append_assoc], fun connectionId frame listed => ?_⟩
    rcases List.mem_append.1 listed with old | new
    · exact firstBound _ _ old
    · obtain ⟨key, bound⟩ := secondBound _ _ new
      exact ⟨key, first.v2Connections _ _ bound⟩

theorem foldl
    {α : Type}
    {step : Collider -> α -> Collider}
    (aside : ∀ (collider : Collider) (entry : α),
      collider.Aside (step collider entry))
    (entries : List α)
    (collider : Collider) :
    collider.Aside (entries.foldl step collider) := by
  induction entries generalizing collider with
  | nil => exact refl collider
  | cons entry entries inductionHypothesis =>
      exact (aside collider entry).trans (inductionHypothesis _)

/-- A step that changes the V2 rooms, the responses and the counters only. -/
theorem of_same
    (rooms : after.rooms = collider.rooms)
    (connections : after.connections = collider.connections)
    (v2Connections : after.v2Connections = collider.v2Connections)
    (sessions : after.sessions = collider.sessions)
    (outputs : after.browserOutputs = collider.browserOutputs) :
    collider.Aside after where
  rooms := rooms
  connections := connections
  v2Connections := fun key connectionId found => by
    rwa [v2Connections] at found
  sessions := fun connectionId => .inl (by rw [sessions])
  outputs := ⟨[], by simp [outputs], by simp⟩

theorem pushResponse (collider : Collider) (response : AuthorityResponse) :
    collider.Aside (collider.pushResponse response) :=
  of_same rfl rfl rfl rfl rfl

theorem setV2Rooms (collider : Collider) (v2Rooms : V2.RoomTable) :
    collider.Aside { collider with v2Rooms := v2Rooms } :=
  of_same rfl rfl rfl rfl rfl

theorem pushSfu (collider : Collider) (output : Sfu.Output) :
    collider.Aside (collider.pushOutput (.sfu output)) where
  rooms := rfl
  connections := rfl
  v2Connections := fun _ _ found => found
  sessions := fun _ => .inl rfl
  outputs := ⟨[.sfu output], rfl, by simp⟩

theorem notifyMember
    (collider : Collider)
    (roomId : V2.RoomId)
    (clientId : V2.ClientId)
    (frame : Frame) :
    collider.Aside (collider.notifyMember roomId clientId frame) := by
  unfold Collider.notifyMember
  split
  · exact refl collider
  · next connectionId bound =>
      exact
        { rooms := rfl
          connections := rfl
          v2Connections := fun _ _ found => found
          sessions := fun _ => .inl rfl
          outputs := ⟨[.text connectionId frame], rfl, by
            intro other found listed
            obtain ⟨rfl, rfl⟩ := by simpa using listed
            exact ⟨(roomId, clientId), bound⟩⟩ }

theorem pushPromotion (collider : Collider) (promotion : V2.Promotion) :
    collider.Aside (collider.pushPromotion promotion) :=
  notifyMember ..

/-- A V2 connection ends with its session. -/
theorem unbind
    {key : V2.MemberKey}
    {connectionId : ConnectionId}
    (held : collider.v2Connections[key]? = some connectionId)
    {v2Rooms : V2.RoomTable} :
    collider.Aside { collider with
      v2Connections := collider.v2Connections.erase key
      v2Rooms := v2Rooms
      sessions := collider.sessions.erase connectionId } where
  rooms := rfl
  connections := rfl
  v2Connections := fun other current found => by
    simp only [ExtTreeMap.getElem?_erase] at found
    split at found
    · cases found
    · exact found
  sessions := fun other => by
    simp only [ExtTreeMap.getElem?_erase]
    split
    · next equal =>
        obtain rfl := compare_eq_iff_eq.1 equal
        exact .inr ⟨rfl, key, held⟩
    · exact .inl rfl
  outputs := ⟨[], by simp, by simp⟩

theorem pushClose (collider : Collider) (connectionId : ConnectionId) :
    collider.Aside (collider.pushOutput (.close connectionId)) where
  rooms := rfl
  connections := rfl
  v2Connections := fun _ _ found => found
  sessions := fun _ => .inl rfl
  outputs := ⟨[.close connectionId], rfl, by simp⟩

theorem closeV2ClientConnection
    (collider : Collider)
    (roomId : V2.RoomId)
    (clientId : V2.ClientId) :
    collider.Aside (collider.closeV2ClientConnection roomId clientId) := by
  unfold Collider.closeV2ClientConnection
  split
  · exact refl collider
  · next connectionId bound => exact (unbind bound).trans (pushClose ..)

theorem performAction (collider : Collider) (action : V2.Action) :
    collider.Aside (collider.performAction action) := by
  cases action with
  | sfu output => exact pushSfu collider output
  | admissionCompleted authorityRequestId result =>
      exact pushResponse collider _
  | removalCompleted authorityRequestId roomId clientId result =>
      cases result with
      | ok => exact (closeV2ClientConnection ..).trans (pushResponse ..)
      | error result => exact pushResponse ..
  | upgraded roomId signalEpoch existingClients =>
      exact foldl (fun collider clientId => notifyMember ..) _ collider
  | downgraded roomId signalEpoch initiatorClientId clients =>
      exact foldl (fun collider clientId => notifyMember ..) _ collider
  | deliver delivery => exact notifyMember ..
  | roomFailed roomId clients reason =>
      exact foldl (fun collider clientId => notifyMember ..) _ collider

theorem drainActions (fuel : Nat) (collider : Collider) :
    collider.Aside (Collider.drainActions fuel collider) := by
  induction fuel generalizing collider with
  | zero => exact refl collider
  | succ fuel inductionHypothesis =>
      unfold Collider.drainActions
      split
      · exact refl collider
      · exact ((setV2Rooms ..).trans (performAction ..)).trans
          (inductionHypothesis _)

theorem drainV2Actions (collider : Collider) :
    collider.Aside collider.drainV2Actions :=
  drainActions ..

theorem handleSfuInput
    (collider : Collider)
    (order : VisitOrder)
    (input : Sfu.Input) :
    collider.Aside (collider.handleSfuInput order input).2 := by
  unfold Collider.handleSfuInput
  rcases collider.v2Rooms.handleSfuInput order.v2 input with
    ⟨error | done, v2Rooms⟩
  · exact setV2Rooms collider v2Rooms
  · exact (setV2Rooms collider v2Rooms).trans (drainV2Actions _)

end Aside

namespace BoundV2

variable {collider : Collider}

theorem of_same
    {after : Collider}
    (bound : collider.BoundV2)
    (v2Connections : after.v2Connections = collider.v2Connections)
    (sessions : after.sessions = collider.sessions) :
    after.BoundV2 where
  session := by
    intro key connectionId found
    rw [v2Connections] at found
    rw [sessions]
    exact bound.session _ _ found

theorem notifyMember
    (bound : collider.BoundV2)
    (roomId : V2.RoomId)
    (clientId : V2.ClientId)
    (frame : Frame) :
    (collider.notifyMember roomId clientId frame).BoundV2 := by
  unfold Collider.notifyMember
  split
  · exact bound
  · exact bound.of_same rfl rfl

theorem closeV2ClientConnection
    (bound : collider.BoundV2)
    (roomId : V2.RoomId)
    (clientId : V2.ClientId) :
    (collider.closeV2ClientConnection roomId clientId).BoundV2 := by
  unfold Collider.closeV2ClientConnection
  split
  · exact bound
  · next connectionId stored =>
      refine ⟨fun key other found => ?_⟩
      simp only [pushOutput_v2Connections,
        ExtTreeMap.getElem?_erase] at found
      split at found
      · cases found
      next apart =>
      have held := bound.session _ _ found
      simp only [pushOutput_sessions, ExtTreeMap.getElem?_erase]
      split
      · next equal =>
          obtain rfl := compare_eq_iff_eq.1 equal
          -- the connection that ends is bound to one member
          have own := bound.session _ _ stored
          rw [own] at held
          obtain ⟨rfl, rfl⟩ : roomId = key.1 ∧ clientId = key.2 := by
            simpa using held
          simp at apart
      · exact held

theorem foldl
    {α : Type}
    {step : Collider -> α -> Collider}
    (kept : ∀ (collider : Collider) (entry : α),
      collider.BoundV2 -> (step collider entry).BoundV2)
    (entries : List α)
    (bound : collider.BoundV2) :
    (entries.foldl step collider).BoundV2 := by
  induction entries generalizing collider with
  | nil => exact bound
  | cons entry entries inductionHypothesis =>
      exact inductionHypothesis (kept collider entry bound)

theorem performAction
    (bound : collider.BoundV2)
    (action : V2.Action) :
    (collider.performAction action).BoundV2 := by
  cases action with
  | sfu output => exact bound.of_same rfl rfl
  | admissionCompleted authorityRequestId result =>
      exact bound.of_same rfl rfl
  | removalCompleted authorityRequestId roomId clientId result =>
      cases result with
      | ok => exact (bound.closeV2ClientConnection ..).of_same rfl rfl
      | error result => exact bound.of_same rfl rfl
  | upgraded roomId signalEpoch existingClients =>
      exact foldl (fun _ _ bound => bound.notifyMember ..) _ bound
  | downgraded roomId signalEpoch initiatorClientId clients =>
      exact foldl (fun _ _ bound => bound.notifyMember ..) _ bound
  | deliver delivery => exact bound.notifyMember ..
  | roomFailed roomId clients reason =>
      exact foldl (fun _ _ bound => bound.notifyMember ..) _ bound

theorem drainActions
    (bound : collider.BoundV2)
    (fuel : Nat) :
    (Collider.drainActions fuel collider).BoundV2 := by
  induction fuel generalizing collider with
  | zero => exact bound
  | succ fuel inductionHypothesis =>
      unfold Collider.drainActions
      split
      · exact bound
      · next action v2Rooms _ =>
          have kept : ({ collider with v2Rooms := v2Rooms } :
              Collider).BoundV2 := bound.of_same rfl rfl
          exact inductionHypothesis (kept.performAction action)

theorem drainV2Actions (bound : collider.BoundV2) :
    collider.drainV2Actions.BoundV2 :=
  bound.drainActions _

theorem handleSfuInput
    (bound : collider.BoundV2)
    (order : VisitOrder)
    (input : Sfu.Input) :
    (collider.handleSfuInput order input).2.BoundV2 := by
  unfold Collider.handleSfuInput
  rcases collider.v2Rooms.handleSfuInput order.v2 input with
    ⟨error | done, v2Rooms⟩
  · exact bound.of_same rfl rfl
  · refine drainV2Actions ?_
    exact bound.of_same rfl rfl

end BoundV2

end Collider
end Signaling
