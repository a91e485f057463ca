import Signaling.Collider.Agreement
import Signaling.Collider.Relay

/-!
# The balance of a call

What one call hands over and leaves queued is what was queued and what the call
accepts. One lemma for each operation that touches the V1 rooms; the others
step aside.
-/

namespace Signaling
namespace Collider

open Std (ExtTreeMap)

section Balance

variable
  {roomid : V1.RoomId}
  {sender receiver : V1.ClientId}
  {collider middle after : Collider}
  {answered taken : List String}

/-- A state in which the sender's queue is in order: the receiver, when it is
registered, has been handed everything. -/
structure Ready
    (roomid : V1.RoomId)
    (sender receiver : V1.ClientId)
    (collider : Collider) : Prop where
  bound : collider.Bound
  idle : collider.rooms.Idle
  settled : collider.rooms.Registered roomid receiver ->
    collider.rooms.queued roomid sender = []

/-- The balance of a step from one state to another. -/
structure Balanced
    (roomid : V1.RoomId)
    (sender receiver : V1.ClientId)
    (answered taken : List String)
    (collider after : Collider) : Prop where
  idle : after.rooms.Idle
  settled : after.rooms.Registered roomid receiver ->
    after.rooms.queued roomid sender = []
  balance : ∃ more, after.browserOutputs = collider.browserOutputs ++ more ∧
    answered ++ more.filterMap (relayedTo
        (after.connections[(roomid, receiver)]?)) ++
        after.rooms.queued roomid sender =
      collider.rooms.queued roomid sender ++ taken

/-- Frames for other connections, and other outputs, are not relayed messages
to the client. -/
theorem relayedTo_eq_nil
    {connection : Option ConnectionId}
    {more : List BrowserOutput}
    (elsewhere : ∀ connectionId frame,
      BrowserOutput.text connectionId frame ∈ more ->
        connection ≠ some connectionId) :
    more.filterMap (relayedTo connection) = [] := by
  refine List.filterMap_eq_nil_iff.2 fun output listed => ?_
  cases output with
  | text connectionId frame =>
      cases frame with
      | server frame => simp [relayedTo, elsewhere _ _ listed]
      | _ => rfl
  | _ => rfl

theorem relayFrames_own (connectionId : ConnectionId) (msgs : List String) :
    (relayFrames (some connectionId) msgs).filterMap
      (relayedTo (some connectionId)) = msgs := by
  induction msgs with
  | nil => rfl
  | cons msg msgs inductionHypothesis =>
      simp only [relayFrames, List.map_cons] at inductionHypothesis ⊢
      rw [List.filterMap_cons, inductionHypothesis]
      simp [relayedTo, serverMsg]

/-- The connection of a V1 client is none of the V2 connections. -/
theorem Bound.v2_elsewhere
    (bound : collider.Bound)
    {clientid : V1.ClientId}
    {connectionId : ConnectionId}
    {key : V2.MemberKey}
    (held : collider.v2Connections[key]? = some connectionId) :
    collider.connections[(roomid, clientid)]? ≠ some connectionId := by
  intro own
  have session := (bound.session _ _ _).1 own
  rw [bound.v2.session _ _ held] at session
  cases session

/-- A step that leaves the queues of the room's clients, and hands nothing to
the receiver. -/
theorem Ready.quiet
    (ready : Ready roomid sender receiver collider)
    (more : List BrowserOutput)
    (idle : after.rooms.Idle)
    (queued : after.rooms.queued roomid sender =
      collider.rooms.queued roomid sender)
    (registered : after.rooms.Registered roomid receiver ->
      collider.rooms.Registered roomid receiver)
    (outputs : after.browserOutputs = collider.browserOutputs ++ more)
    (elsewhere : ∀ connectionId frame,
      BrowserOutput.text connectionId frame ∈ more ->
        after.connections[(roomid, receiver)]? ≠ some connectionId ∨
          ∃ error, error ≠ "" ∧ frame = serverErr error) :
    Balanced roomid sender receiver [] [] collider after where
  idle := idle
  settled := fun now => queued.trans (ready.settled (registered now))
  balance := by
    refine ⟨more, outputs, ?_⟩
    have silent : more.filterMap (relayedTo
        (after.connections[(roomid, receiver)]?)) = [] := by
      refine List.filterMap_eq_nil_iff.2 fun output listed => ?_
      cases output with
      | text connectionId frame =>
          rcases elsewhere _ _ listed with apart | ⟨error, real, rfl⟩
          · cases frame with
            | server frame => simp [relayedTo, apart]
            | _ => rfl
          · simp [relayedTo, serverErr, real]
      | _ => rfl
    rw [silent, queued]
    simp

/-- A step that leaves the V1 rooms and connections. -/
theorem Ready.same
    (ready : Ready roomid sender receiver collider)
    (more : List BrowserOutput)
    (rooms : after.rooms = collider.rooms)
    (outputs : after.browserOutputs = collider.browserOutputs ++ more)
    (elsewhere : ∀ connectionId frame,
      BrowserOutput.text connectionId frame ∈ more ->
        after.connections[(roomid, receiver)]? ≠ some connectionId ∨
          ∃ error, error ≠ "" ∧ frame = serverErr error) :
    Balanced roomid sender receiver [] [] collider after :=
  ready.quiet more (by rw [rooms]; exact ready.idle) (by rw [rooms])
    (by rw [rooms]; exact id) outputs elsewhere

theorem Ready.aside
    (ready : Ready roomid sender receiver collider)
    (aside : collider.Aside after) :
    Balanced roomid sender receiver [] [] collider after := by
  obtain ⟨more, outputs, v2⟩ := aside.outputs
  refine ready.same more aside.rooms outputs fun connectionId frame listed =>
    .inl ?_
  obtain ⟨key, held⟩ := v2 _ _ listed
  rw [aside.connections]
  exact ready.bound.v2_elsewhere held

/-- A step aside after a balanced one. -/
theorem Balanced.aside
    (balanced : Balanced roomid sender receiver answered taken collider middle)
    (bound : middle.Bound)
    (aside : middle.Aside after) :
    Balanced roomid sender receiver answered taken collider after where
  idle := by
    rw [aside.rooms]
    exact balanced.idle
  settled := by
    rw [aside.rooms]
    exact balanced.settled
  balance := by
    obtain ⟨more, outputs, balance⟩ := balanced.balance
    obtain ⟨later, laterOutputs, v2⟩ := aside.outputs
    refine ⟨more ++ later, by rw [laterOutputs, outputs,
      List.append_assoc], ?_⟩
    have silent : later.filterMap (relayedTo
        (middle.connections[(roomid, receiver)]?)) = [] :=
      relayedTo_eq_nil fun connectionId frame listed => by
        obtain ⟨key, held⟩ := v2 _ _ listed
        exact bound.v2_elsewhere held
    rw [aside.connections, aside.rooms, List.filterMap_append, silent,
      List.append_nil]
    exact balance

/-- An error frame is not a relayed message. -/
theorem Ready.failConnection
    (ready : Ready roomid sender receiver collider)
    (connectionId : ConnectionId)
    {error : String}
    (unrelated : error ≠ "" ∨
      collider.connections[(roomid, receiver)]? ≠ some connectionId) :
    Balanced roomid sender receiver [] [] collider
      (collider.failConnection connectionId error) := by
  refine ready.same [.text connectionId (serverErr error),
    .close connectionId] rfl
    (by simp [Collider.failConnection]) fun other frame listed => ?_
  obtain ⟨rfl, rfl⟩ : other = connectionId ∧ frame = serverErr error := by
    simpa using listed
  rcases unrelated with real | apart
  · exact .inr ⟨error, real, rfl⟩
  · exact .inl apart

/-- A connection that nobody has registered on is not the receiver's. -/
theorem Bound.unregistered_elsewhere
    (bound : collider.Bound)
    (roomid : V1.RoomId)
    (clientid : V1.ClientId)
    {connectionId : ConnectionId}
    (unregistered : ¬collider.isRegistered connectionId = true) :
    collider.connections[(roomid, clientid)]? ≠ some connectionId := by
  intro held
  have session := (bound.session _ _ _).1 held
  simp [isRegistered, session] at unregistered

/-- A message that is refused changes no queue. -/
theorem Ready.refused
    (ready : Ready roomid sender receiver collider)
    {now : Instant}
    {target : V1.RoomId}
    {srcId : V1.ClientId}
    {msg error : String}
    {rooms : V1.RoomTable}
    (sent : collider.rooms.Sent now target srcId msg (.error error) rooms) :
    Balanced roomid sender receiver [] [] collider
      { collider with rooms := rooms } := by
  cases sent with
  | refused lookup =>
      refine ready.quiet [] (fun key clientId client found => ?_) ?_
        ?_ (by simp) (by simp)
      · rcases lookup key clientId with same | ⟨-, -, -, created⟩
        · exact ready.idle _ _ _ (same.symm.trans found)
        · simp only [created] at found
          cases found
          exact ⟨rfl, rfl⟩
      · simp only [V1.RoomTable.queued]
        rcases lookup roomid sender with same | ⟨-, -, absent, created⟩
        · rw [same]
        · rw [created, absent]
          rfl
      · rintro ⟨client, found, registered⟩
        rcases lookup roomid receiver with same | ⟨-, -, -, created⟩
        · exact ⟨client, same.symm.trans found, registered⟩
        · simp only [created] at found
          cases found
          cases registered

/-- A message that is accepted goes to the peer when that one is registered,
and waits on its sender otherwise. -/
theorem Ready.accepted
    (ready : Ready roomid sender receiver collider)
    (distinct : sender ≠ receiver)
    (order : V1.VisitOrder)
    {now : Instant}
    {target : V1.RoomId}
    {srcId : V1.ClientId}
    {msg : String}
    {rooms : V1.RoomTable}
    (sent : collider.rooms.Sent now target srcId msg (.ok ()) rooms)
    (only : ∀ clientid client,
      (({ collider with rooms := rooms } : Collider).drainRoomWrites
        order).rooms.client? roomid clientid = some client ->
      clientid = sender ∨ clientid = receiver) :
    Balanced roomid sender receiver []
      (if target = roomid ∧ srcId = sender then [msg] else [])
      collider (({ collider with rooms := rooms } : Collider).drainRoomWrites
        order) := by
  cases sent with
  | queued hands alone lookup =>
      next src =>
      obtain ⟨msgs, wasRegistered, reads, writes⟩ := hands.facts ready.idle
      have idle : rooms.Idle := by
        intro key clientId client found
        rw [lookup] at found
        split at found
        · cases found
          exact ⟨reads, writes⟩
        · exact ready.idle _ _ _ found
      have calm : ({ collider with rooms := rooms } : Collider).drainRoomWrites
          order = { collider with rooms := rooms } :=
        drainWrites_idle order _ fun _ _ _ found => (idle _ _ _ found).2
      rw [calm]
      by_cases own : target = roomid ∧ srcId = sender
      · obtain ⟨rfl, rfl⟩ := own
        refine ⟨idle, fun registered => ?_, [], by simp, ?_⟩
        · obtain ⟨client, found, bound⟩ := registered
          simp only [lookup, distinct, and_false, if_false] at found
          exact absurd ⟨client, found, bound⟩
            (alone receiver (Ne.symm distinct))
        · simp [V1.RoomTable.queued, lookup, msgs]
      · rw [if_neg own]
        refine ready.quiet [] idle ?_ ?_ (by simp) (by simp)
        · simp only [V1.RoomTable.queued, lookup, if_neg own]
        · rintro ⟨client, found, registered⟩
          simp only [lookup] at found
          split at found
          · next here =>
              obtain ⟨rfl, rfl⟩ := here
              cases found
              exact wasRegistered registered
          · exact ⟨client, found, registered⟩
  | delivered hands beside stored bound lookup =>
      next src other otherId =>
      obtain ⟨msgs, wasRegistered, reads, writes⟩ := hands.facts ready.idle
      have otherSound := ready.bound.rooms.client stored
      have otherIdle := ready.idle _ _ _ stored
      have found : rooms.client? target otherId =
          some (other.deliver [msg]) := by
        rw [lookup, if_pos ⟨rfl, rfl⟩]
      obtain ⟨clients, outputs, connections⟩ := drainWrites_single order [msg]
        rooms.writeCount
        (by simpa [otherIdle.2] using
          V1.RoomTable.writes_le_writeCount found)
        { collider with rooms := rooms }
        found
        (by simp [V1.Client.deliver, otherIdle.2, otherSound.id,
          otherSound.roomId])
        (fun key clientId held away present => by
          simp only [lookup, if_neg away] at present
          split at present
          · cases present
            exact writes
          · exact (ready.idle _ _ _ present).2)
      simp only [lookup] at clients
      rw [drainRoomWrites] at only ⊢
      have idle : (drainWrites order rooms.writeCount
          { collider with rooms := rooms }).rooms.Idle := by
        intro key clientId client present
        rw [clients] at present
        split at present
        · cases present
          exact ⟨otherIdle.1, rfl⟩
        · split at present
          · cases present
            exact ⟨reads, writes⟩
          · exact ready.idle _ _ _ present
      by_cases mine : target = roomid ∧ otherId = receiver
      · obtain ⟨rfl, rfl⟩ := mine
        have apart : ¬(target = target ∧ otherId = srcId) :=
          fun same => beside same.2
        have source : srcId = sender := by
          refine (only srcId src ?_).resolve_right (Ne.symm beside)
          rw [clients, if_neg apart, if_neg apart, if_pos ⟨rfl, rfl⟩]
        subst source
        have empty := ready.settled ⟨other, stored, bound⟩
        obtain ⟨connectionId, held⟩ := (ready.bound.registered _ _).2
          ⟨other, stored, bound⟩
        have left : (drainWrites order rooms.writeCount
            { collider with rooms := rooms }).rooms.queued target srcId =
              [] := by
          rw [V1.RoomTable.queued, clients, if_neg apart, if_neg apart,
            if_pos ⟨rfl, rfl⟩]
          exact msgs.trans empty
        refine ⟨idle, fun _ => left, _, outputs, ?_⟩
        rw [connections, left, empty, held, relayFrames_own]
        simp
      · have unrelated : ¬(target = roomid ∧ srcId = sender) := by
          rintro ⟨rfl, rfl⟩
          refine mine ⟨rfl, (only otherId
            { other.deliver [msg] with writes := [] } ?_).resolve_left beside⟩
          rw [clients, if_pos ⟨rfl, rfl⟩]
        rw [if_neg unrelated]
        refine ready.quiet _ idle ?_ ?_ outputs fun connectionId frame listed =>
          .inl ?_
        · rw [V1.RoomTable.queued, clients]
          by_cases own : target = roomid ∧ otherId = sender
          · obtain ⟨rfl, rfl⟩ := own
            simp [V1.RoomTable.queued, stored, V1.Client.deliver]
          · rw [if_neg own, if_neg own, if_neg unrelated]
            rfl
        · rintro ⟨client, present, registered⟩
          rw [clients, if_neg mine, if_neg mine] at present
          split at present
          · next own =>
              obtain ⟨rfl, rfl⟩ := own
              cases present
              exact wasRegistered registered
          · exact ⟨client, present, registered⟩
        · rw [connections]
          intro held
          unfold relayFrames at listed
          split at listed
          · cases listed
          · next other owned =>
              obtain ⟨_, -, same⟩ := List.mem_map.1 listed
              cases same
              have first := (ready.bound.session _ _ _).1 held
              have second := (ready.bound.session _ _ _).1 owned
              rw [first] at second
              cases second
              exact mine ⟨rfl, rfl⟩

/-- A registration hands the client what waits on its peer. -/
theorem Ready.joined
    (ready : Ready roomid sender receiver collider)
    (middle : Collider)
    (distinct : sender ≠ receiver)
    (order : V1.VisitOrder)
    {now : Instant}
    {target : V1.RoomId}
    {clientId : V1.ClientId}
    {connectionId : ConnectionId}
    (unregistered : ¬collider.isRegistered connectionId = true)
    (joined : collider.rooms.Joined now target clientId (.ok ()) middle.rooms)
    (bound : ∀ key : V1.ClientKey, middle.connections[key]? =
      if (target, clientId) = key then some connectionId
      else collider.connections[key]?)
    (same : middle.browserOutputs = collider.browserOutputs)
    (only : ∀ clientid client,
      (middle.drainRoomWrites order).rooms.client? roomid clientid =
        some client ->
      clientid = sender ∨ clientid = receiver) :
    Balanced roomid sender receiver [] [] collider
      (middle.drainRoomWrites order) := by
  have elsewhere := ready.bound.unregistered_elsewhere roomid receiver
    unregistered
  generalize tables : middle.rooms = rooms at joined
  cases joined with
  | alone hands absent lookup =>
      next client =>
      obtain ⟨msgs, -, reads, writes⟩ := hands.facts ready.idle
      have idle : rooms.Idle := by
        intro key other held found
        rw [lookup] at found
        split at found
        · cases found
          exact ⟨reads, writes⟩
        · exact ready.idle _ _ _ found
      have calm : middle.drainRoomWrites order = middle :=
        drainWrites_idle order _ fun _ _ _ found => by
          rw [tables] at found
          exact (idle _ _ _ found).2
      have queued : rooms.queued roomid sender =
          collider.rooms.queued roomid sender := by
        rw [V1.RoomTable.queued, lookup]
        split
        · next own =>
            obtain ⟨rfl, rfl⟩ := own
            exact msgs
        · rfl
      rw [calm]
      rw [← tables] at idle queued
      refine ⟨idle, fun registered => ?_, [], by simp [same], ?_⟩
      · rw [queued]
        obtain ⟨held, found, bound⟩ := registered
        rw [tables, lookup] at found
        split at found
        · next own =>
            obtain ⟨rfl, rfl⟩ := own
            rw [V1.RoomTable.queued, absent sender distinct]
            rfl
        · exact ready.settled ⟨held, found, bound⟩
      · simp [queued]
  | flushed hands beside stored lookup =>
      next client other otherId =>
      obtain ⟨msgs, -, reads, writes⟩ := hands.facts ready.idle
      have clientSound := hands.sound (ready.bound.rooms.room target).1
      rw [(ready.bound.rooms.room target).2] at clientSound
      have otherIdle := ready.idle _ _ _ stored
      have found : middle.rooms.client? target clientId =
          some (client.bind.deliver other.msgs) := by
        rw [tables, lookup, if_pos ⟨rfl, rfl⟩]
      obtain ⟨clients, outputs, connections⟩ := drainWrites_single order
        other.msgs middle.rooms.writeCount
        (by simpa [writes] using V1.RoomTable.writes_le_writeCount found)
        middle found
        (by simp [V1.Client.deliver, writes, clientSound.id,
          clientSound.roomId])
        (fun key held present away stays => by
          rw [tables, lookup, if_neg away] at stays
          split at stays
          · cases stays
            exact otherIdle.2
          · exact (ready.idle _ _ _ stays).2)
      simp only [tables, lookup] at clients outputs connections
      rw [drainRoomWrites, tables] at only ⊢
      have idle : (drainWrites order rooms.writeCount middle).rooms.Idle := by
        intro key held present stays
        rw [clients] at stays
        split at stays
        · cases stays
          exact ⟨reads, rfl⟩
        · split at stays
          · cases stays
            exact otherIdle
          · exact ready.idle _ _ _ stays
      rw [same, bound, if_pos rfl] at outputs
      by_cases mine : target = roomid ∧ clientId = receiver
      · obtain ⟨rfl, rfl⟩ := mine
        have apart : ¬(target = target ∧ clientId = otherId) :=
          fun same => beside same.2.symm
        have source : otherId = sender := by
          refine (only otherId other.drained ?_).resolve_right beside
          rw [clients, if_neg apart, if_neg apart, if_pos ⟨rfl, rfl⟩]
        subst source
        have left : (drainWrites order rooms.writeCount
            middle).rooms.queued target otherId = [] := by
          rw [V1.RoomTable.queued, clients, if_neg apart, if_neg apart,
            if_pos ⟨rfl, rfl⟩]
          rfl
        refine ⟨idle, fun _ => left, _, outputs, ?_⟩
        rw [connections, bound, if_pos rfl, left, relayFrames_own]
        simp [V1.RoomTable.queued, stored]
      · have unrelated : ¬(target = roomid ∧ otherId = sender) := by
          rintro ⟨rfl, rfl⟩
          refine mine ⟨rfl, (only clientId
            { client.bind.deliver other.msgs with
              writes := [] } ?_).resolve_left (Ne.symm beside)⟩
          rw [clients, if_pos ⟨rfl, rfl⟩]
        refine ready.quiet _ idle ?_ ?_ outputs fun current frame listed =>
          .inl ?_
        · rw [V1.RoomTable.queued, clients]
          by_cases own : target = roomid ∧ clientId = sender
          · obtain ⟨rfl, rfl⟩ := own
            rw [if_pos ⟨rfl, rfl⟩]
            exact msgs
          · rw [if_neg own, if_neg own, if_neg unrelated]
            rfl
        · rintro ⟨held, present, registered⟩
          rw [clients, if_neg mine, if_neg mine] at present
          split at present
          · next own =>
              obtain ⟨rfl, rfl⟩ := own
              cases present
              exact ⟨other, stored, registered⟩
          · exact ⟨held, present, registered⟩
        · obtain ⟨_, -, equal⟩ := List.mem_map.1 listed
          cases equal
          rw [connections, bound, if_neg]
          · exact elsewhere
          · intro own
            cases own
            exact mine ⟨rfl, rfl⟩

/-- The messages that the answer to a join carries. -/
def answerMessages : Except String (Bool × List String) -> List String
  | .ok (_, messages) => messages
  | .error _ => []

/-- A join of the client is answered with what waits on its peer. -/
theorem Ready.admitted
    (ready : Ready roomid sender receiver collider)
    (distinct : sender ≠ receiver)
    (order : V1.VisitOrder)
    (now : Instant)
    (target : V1.RoomId)
    (clientId : V1.ClientId)
    (isLoopback : Bool)
    (only : ∀ clientid client,
      (collider.rooms.join order now target clientId isLoopback).2.client?
        roomid clientid = some client ->
      clientid = sender ∨ clientid = receiver)
    (stays : ∀ clientid, (collider.rooms.client? roomid clientid).isSome ->
      ((collider.rooms.join order now target clientId
        isLoopback).2.client? roomid clientid).isSome) :
    Balanced roomid sender receiver
      (if target = roomid ∧ clientId = receiver then
        answerMessages (collider.rooms.join order now target clientId
          isLoopback).1
      else []) [] collider
      { collider with
        rooms := (collider.rooms.join order now target clientId
          isLoopback).2 } := by
  have lookup := fun key held => collider.rooms.client?_setRoom target key
    ((collider.rooms.room target).addClient order now clientId isLoopback).2
    held
  unfold V1.RoomTable.join at only stays ⊢
  rcases (collider.rooms.room target).addClient_cases order now clientId
    isLoopback with ⟨error, failed⟩ | ⟨absent, -, answer, joined⟩
  · have same : ∀ key held, (collider.rooms.setRoom target
        ((collider.rooms.room target).addClient order now clientId
          isLoopback).2).client? key held =
            collider.rooms.client? key held := by
      intro key held
      rw [lookup, failed]
      split
      · next here => rw [V1.RoomTable.room_client?, here]
      · rfl
    have nothing : (if target = roomid ∧ clientId = receiver then
        answerMessages ((collider.rooms.room target).addClient order now
          clientId isLoopback).1 else []) = [] := by
      rw [failed]
      split <;> rfl
    simp only [nothing]
    refine ready.quiet [] (fun key held client found => ?_) ?_ ?_
      (by simp) (by simp)
    · exact ready.idle key held client ((same key held).symm.trans found)
    · simp only [V1.RoomTable.queued, same]
    · rintro ⟨client, found, registered⟩
      exact ⟨client, (same _ _).symm.trans found, registered⟩
  · have found_after : ∀ {held client},
        ((collider.rooms.room target).addClient order now clientId
          isLoopback).2.clients[held]? = some client ->
        client.msgs = [] ∧ client.reads = [] ∧ client.writes = [] ∧
          (client.registered = true ->
            collider.rooms.Registered target held) := by
      intro held client found
      obtain ⟨empty, ⟨reads, writes, unset⟩ |
        ⟨before, stored, reads, writes, same⟩⟩ :=
          V1.Room.found_after_join joined found
      · exact ⟨empty, reads, writes, by simp [unset]⟩
      · rw [V1.RoomTable.room_client?] at stored
        have calm := ready.idle _ _ _ stored
        exact ⟨empty, reads.trans calm.1, writes.trans calm.2,
          fun registered => ⟨before, stored, same.symm.trans registered⟩⟩
    have idle : (collider.rooms.setRoom target
        ((collider.rooms.room target).addClient order now clientId
          isLoopback).2).Idle := by
      intro key held client found
      rw [lookup] at found
      split at found
      · exact ⟨(found_after found).2.1, (found_after found).2.2.1⟩
      · exact ready.idle _ _ _ found
    by_cases here : target = roomid
    swap
    · rw [if_neg fun both => here both.1]
      refine ready.quiet [] idle ?_ ?_ (by simp) (by simp)
      · simp only [V1.RoomTable.queued, lookup, if_neg here]
      · rintro ⟨client, found, registered⟩
        simp only [lookup, if_neg here] at found
        exact ⟨client, found, registered⟩
    subst here
    simp only [lookup, if_true, true_and] at only stays ⊢
    have left : (collider.rooms.setRoom target
        ((collider.rooms.room target).addClient order now clientId
          isLoopback).2).queued target sender = [] := by
      rw [V1.RoomTable.queued, lookup, if_pos rfl]
      cases found : ((collider.rooms.room target).addClient order now clientId
          isLoopback).2.clients[sender]? with
      | none => rfl
      | some client => exact (found_after found).1
    refine ⟨idle, fun _ => left, [], by simp, ?_⟩
    rw [left]
    simp only [List.filterMap_nil, List.append_nil]
    by_cases mine : clientId = receiver
    · subst mine
      rw [if_pos rfl, answer]
      have others : ∀ key client,
          (collider.rooms.room target).clients[key]? = some client ->
          key = sender := by
        intro key client found
        have kept := stays key (by
          rw [← V1.RoomTable.room_client?, found]
          rfl)
        obtain ⟨after, present⟩ := Option.isSome_iff_exists.1 kept
        refine (only key after present).resolve_right ?_
        rintro rfl
        simp [absent] at found
      have nodup : ((collider.rooms.room target).walk order).Nodup :=
        HashOrder.nodup_visit _ _ (nodup_toList _)
      have listed : ∀ key client,
          (key, client) ∈ (collider.rooms.room target).walk order ↔
            (collider.rooms.room target).clients[key]? = some client := by
        intro key client
        rw [V1.Room.walk, HashOrder.mem_visit,
          ExtTreeMap.mem_toList_iff_getElem?_eq_some]
      simp only [answerMessages, V1.RoomTable.queued,
        ← V1.RoomTable.room_client?]
      cases held : (collider.rooms.room target).clients[sender]? with
      | none =>
          have nobody : (collider.rooms.room target).walk order = [] := by
            refine List.eq_nil_iff_forall_not_mem.2 ?_
            rintro ⟨key, client⟩ member
            have found := (listed key client).1 member
            rw [others key client found, held] at found
            cases found
          simp [nobody]
      | some client =>
          rw [flatMap_of_single nodup ((listed sender client).2 held)]
          · rfl
          · rintro ⟨key, other⟩ member apart
            have found := (listed key other).1 member
            obtain rfl := others key other found
            rw [held] at found
            cases found
            exact absurd rfl apart
    · rw [if_neg mine]
      have joiner : clientId = sender := by
        have present : ∃ client, ((collider.rooms.room target).addClient order
            now clientId isLoopback).2.clients[clientId]? = some client := by
          rcases joined with joined | ⟨-, peer, -, joined⟩
          · rw [joined, V1.Room.joinedBy_getElem?, if_pos rfl]
            exact ⟨_, rfl⟩
          · rw [joined, V1.Room.setClient_getElem?]
            split
            · exact ⟨_, rfl⟩
            · rw [V1.Room.joinedBy_getElem?, if_pos rfl]
              exact ⟨_, rfl⟩
        obtain ⟨client, found⟩ := present
        exact (only clientId client found).resolve_right mine
      subst joiner
      rw [V1.RoomTable.room_client?] at absent
      simp [V1.RoomTable.queued, absent]

/-- A removal that takes nobody out of the room. -/
theorem Ready.removed
    (ready : Ready roomid sender receiver collider)
    (target : V1.RoomId)
    (clientId : V1.ClientId)
    (stays : ∀ clientid, (collider.rooms.client? roomid clientid).isSome ->
      (((collider.closeClientConnection target clientId).rooms.leave target
        clientId).client? roomid clientid).isSome) :
    Balanced roomid sender receiver [] [] collider
      { collider.closeClientConnection target clientId with
        rooms := (collider.closeClientConnection target clientId).rooms.leave
          target clientId } := by
  have closed : (collider.closeClientConnection target clientId).rooms =
      collider.rooms := by
    unfold closeClientConnection
    split <;> rfl
  have outputs : ∃ more,
      (collider.closeClientConnection target clientId).browserOutputs =
        collider.browserOutputs ++ more ∧
      ∀ connectionId frame, BrowserOutput.text connectionId frame ∉ more := by
    unfold closeClientConnection
    split
    · exact ⟨[], by simp, by simp⟩
    · next connectionId _ => exact ⟨[.close connectionId], rfl, by simp⟩
  obtain ⟨more, outputs, silent⟩ := outputs
  rw [closed] at stays ⊢
  have lookup := fun key other =>
    collider.rooms.client?_remove target key clientId other
  have same : ∀ other,
      (collider.rooms.leave target clientId).client? roomid other =
        collider.rooms.client? roomid other := by
    intro other
    rw [V1.RoomTable.leave, lookup]
    split
    · next here =>
        subst here
        cases present : collider.rooms.client? roomid clientId with
        | some client =>
            have kept := stays clientId (by rw [present]; rfl)
            rw [V1.RoomTable.leave, lookup, if_pos rfl, if_pos rfl] at kept
            cases kept
        | none =>
            split
            · next own => rw [own, present]
            · rfl
    · rfl
  refine ready.quiet more (fun key other client found => ?_) ?_ ?_ outputs
    fun connectionId frame listed => absurd listed (silent _ _)
  · simp only [V1.RoomTable.leave, lookup] at found
    split at found
    · split at found
      · cases found
      · split at found
        · obtain ⟨before, stored, rfl⟩ := Option.map_eq_some_iff.1 found
          have calm := ready.idle _ _ _ stored
          exact calm
        · exact ready.idle _ _ _ found
    · exact ready.idle _ _ _ found
  · simp only [V1.RoomTable.queued, same]
  · rintro ⟨client, found, registered⟩
    exact ⟨client, (same _).symm.trans found, registered⟩

/-- A sweep that takes nobody out of the room. -/
theorem Ready.swept
    (ready : Ready roomid sender receiver collider)
    (order : V1.VisitOrder)
    (now : Instant)
    (rooms : after.rooms = collider.rooms.handleTimeout order now)
    (outputs : after.browserOutputs = collider.browserOutputs)
    (stays : ∀ clientid, (collider.rooms.client? roomid clientid).isSome ->
      ((collider.rooms.handleTimeout order now).client? roomid
        clientid).isSome) :
    Balanced roomid sender receiver [] [] collider after := by
  have lookup := fun key other =>
    collider.rooms.client?_handleTimeout order now key other
  have same : ∀ other,
      (collider.rooms.handleTimeout order now).client? roomid other =
        collider.rooms.client? roomid other := by
    intro other
    rw [lookup]
    cases stored : collider.rooms.rooms[roomid]? with
    | none => simp [V1.RoomTable.client?, stored]
    | some room =>
        have kept := (ready.bound.rooms roomid room stored).1
        rw [V1.RoomTable.client?_of_found stored]
        refine (kept.handleTimeout_getElem? order now other).1 ?_
        rintro ⟨dueId, client, found, due⟩
        have remains := stays dueId (by
          rw [V1.RoomTable.client?_of_found stored, found]
          rfl)
        rw [lookup, stored] at remains
        simp only [Option.bind_some] at remains
        rw [(kept.handleTimeout_getElem? order now dueId).2
          ⟨dueId, client, found, due⟩, found] at remains
        simp [due] at remains
  refine ready.quiet [] (fun key other client found => ?_) ?_ ?_
    (by simp [outputs]) (by simp)
  · rw [rooms, lookup] at found
    obtain ⟨room, stored, inside⟩ := Option.bind_eq_some_iff.1 found
    have swept := (ready.bound.rooms key room stored).1.handleTimeout_getElem?
      order now other
    have present := V1.RoomTable.client?_of_found stored other
    by_cases expires : room.Expires now
    · rw [swept.2 expires] at inside
      obtain ⟨before, held, kept⟩ := Option.bind_eq_some_iff.1 inside
      split at kept
      · cases kept
      · cases kept
        have calm := ready.idle _ _ _ (present.trans held)
        exact calm
    · rw [swept.1 expires] at inside
      exact ready.idle _ _ _ (present.trans inside)
  · rw [rooms]
    simp only [V1.RoomTable.queued, same]
  · rw [rooms]
    rintro ⟨client, found, registered⟩
    exact ⟨client, (same _).symm.trans found, registered⟩

/-- The end of a connection leaves every queue. -/
theorem Ready.disconnect
    (ready : Ready roomid sender receiver collider)
    (connectionId : ConnectionId)
    (now : Instant) :
    Balanced roomid sender receiver [] [] collider
      (collider.disconnect connectionId now) := by
  unfold Collider.disconnect
  split
  · exact ready.aside (.refl collider)
  split
  · next target clientId _ =>
      simp only
      split
      · have lookup : ∀ key other,
            (collider.rooms.deregister now target clientId).client? key
              other = collider.rooms.client? key other ∨
            ∃ before, collider.rooms.client? key other = some before ∧
              (collider.rooms.deregister now target clientId).client? key
                other = some (before.deregister.setTimer
                  (some (now +
                    (collider.rooms.room target).registerTimeout))) := by
          intro key other
          unfold V1.RoomTable.deregister
          split
          · exact .inl rfl
          · next room stored =>
              rw [V1.RoomTable.client?_setRoom]
              split
              · next here =>
                  subst here
                  rw [room.deregister_getElem?,
                    V1.RoomTable.client?_of_found stored,
                    V1.RoomTable.room_of_found stored]
                  cases room.clients[other]? with
                  | none => exact .inl rfl
                  | some before =>
                      simp only [Option.map_some]
                      split
                      · exact .inr ⟨before, rfl, rfl⟩
                      · exact .inl rfl
              · exact .inl rfl
        refine ready.quiet [] (fun key other client found => ?_) ?_
          ?_ (by simp) (by simp)
        · rcases lookup key other with same | ⟨before, stored, changed⟩
          · exact ready.idle _ _ _ (same.symm.trans found)
          · simp only [changed] at found
            cases found
            have calm := ready.idle _ _ _ stored
            exact calm
        · simp only [V1.RoomTable.queued]
          rcases lookup roomid sender with same | ⟨before, stored, changed⟩
          · rw [same]
          · rw [changed, stored]
            rfl
        · rintro ⟨client, found, registered⟩
          rcases lookup roomid receiver with same | ⟨before, stored, changed⟩
          · exact ⟨client, same.symm.trans found, registered⟩
          · simp only [changed] at found
            cases found
            simp at registered
      · exact ready.same [] rfl (by simp) (by simp)
  · next roomId clientId _ =>
      simp only
      split
      · next held =>
          exact ready.aside ((Aside.unbind held).trans (.drainV2Actions _))
      · exact ready.same [] rfl (by simp) (by simp)
  · exact ready.same [] rfl (by simp) (by simp)

/-- Registering on behalf of a V1 client. -/
theorem Ready.registerV1
    (ready : Ready roomid sender receiver collider)
    (distinct : sender ≠ receiver)
    (order : VisitOrder)
    (connectionId : ConnectionId)
    (msg : WsClientMsg)
    (now : Instant)
    (only : ∀ clientid client,
      (collider.registerV1 order connectionId msg now).rooms.client? roomid
        clientid = some client ->
      clientid = sender ∨ clientid = receiver) :
    Balanced roomid sender receiver [] [] collider
      (collider.registerV1 order connectionId msg now) := by
  unfold Collider.registerV1 at only ⊢
  split
  · exact ready.failConnection connectionId (.inl (by decide))
  next unregistered =>
  have elsewhere := ready.bound.unregistered_elsewhere roomid receiver
    unregistered
  split
  · exact ready.failConnection connectionId (.inl (by decide))
  next complete =>
  simp only [if_neg unregistered, if_neg complete] at only
  have joined := ready.bound.rooms.joined order.v1 now msg.roomid msg.clientid
  rcases registered : collider.rooms.register order.v1 now msg.roomid
    msg.clientid with ⟨error | done, rooms⟩
  · rw [registered] at joined
    cases joined with
    | refused lookup =>
        have quiet : Balanced roomid sender receiver [] [] collider
            { collider with rooms := rooms } :=
          ready.quiet []
            (fun key other client found => ready.idle key other client
              ((lookup key other).symm.trans found))
            (by simp only [V1.RoomTable.queued, lookup])
            (by
              rintro ⟨client, found, registered⟩
              exact ⟨client, (lookup _ _).symm.trans found, registered⟩)
            (by simp) (by simp)
        refine ⟨quiet.idle, quiet.settled, ?_⟩
        refine ⟨[.text connectionId (serverErr error), .close connectionId],
          by simp [Collider.failConnection], ?_⟩
        have silent : [BrowserOutput.text connectionId (serverErr error),
            .close connectionId].filterMap (relayedTo
              (collider.connections[(roomid, receiver)]?)) = [] :=
          relayedTo_eq_nil fun other frame listed => by
            obtain ⟨rfl, -⟩ : other = connectionId ∧
                frame = serverErr error := by simpa using listed
            exact elsewhere
        have same : rooms.queued roomid sender =
            collider.rooms.queued roomid sender := by
          simp only [V1.RoomTable.queued, lookup]
        simp only [Collider.failConnection, pushOutput_connections,
          pushOutput_rooms, silent, same]
        simp
  · simp only [registered] at only joined ⊢
    exact ready.joined
      { collider with
        rooms := rooms
        sessions := collider.sessions.insert connectionId
          (.registeredV1 msg.roomid msg.clientid)
        connections := collider.connections.insert
          (msg.roomid, msg.clientid) connectionId
        totalWebsocketConnections :=
          saturatingAdd collider.totalWebsocketConnections 1 }
      distinct order.v1 unregistered joined (fun key => connection_insert ..) rfl only

/-- Registering on behalf of a V2 member. -/
theorem Ready.registerV2
    (ready : Ready roomid sender receiver collider)
    (order : VisitOrder)
    (connectionId : ConnectionId)
    (msg : WsClientMsg) :
    Balanced roomid sender receiver [] [] collider
      (collider.registerV2 order connectionId msg) := by
  unfold Collider.registerV2
  split
  · exact ready.failConnection connectionId (.inl (by decide))
  next unregistered =>
  have elsewhere := ready.bound.unregistered_elsewhere roomid receiver
    unregistered
  split
  · exact ready.failConnection connectionId (.inl (by decide))
  next roomId _ =>
  split
  · exact ready.failConnection connectionId (.inl (by decide))
  next clientId _ =>
  split
  · exact ready.failConnection connectionId (.inl (by decide))
  rcases collider.v2Rooms.register order.v2 roomId clientId msg.token with
    ⟨error | registration, v2Rooms⟩
  · refine ready.same [.text connectionId (serverErr error),
      .close connectionId] rfl (by simp [Collider.failConnection])
        fun other frame listed => .inl ?_
    obtain ⟨rfl, -⟩ : other = connectionId ∧ frame = serverErr error := by
      simpa using listed
    exact elsewhere
  · simp only [Bound.pushTexts_eq]
    refine ready.same _ rfl (List.append_assoc ..)
      fun other frame listed => .inl ?_
    have own : other = connectionId := by
      rcases List.mem_cons.1 listed with first | later
      · cases first
        rfl
      · obtain ⟨_, -, same⟩ := List.mem_map.1 later
        cases same
        rfl
    subst own
    exact elsewhere

/-- Sending on behalf of a registered browser. -/
theorem Ready.send
    (ready : Ready roomid sender receiver collider)
    (distinct : sender ≠ receiver)
    (order : VisitOrder)
    (connectionId : ConnectionId)
    (msg : WsClientMsg)
    (now : Instant)
    (only : ∀ clientid client,
      (collider.send order connectionId msg now).2.rooms.client? roomid
        clientid = some client ->
      clientid = sender ∨ clientid = receiver) :
    Balanced roomid sender receiver []
      (if msg.msg.isEmpty = false ∧
          collider.sessions[connectionId]? =
            some (.registeredV1 roomid sender) ∧
          (collider.send order connectionId msg now).1 = .ok () then
        [msg.msg]
      else []) collider (collider.send order connectionId msg now).2 := by
  unfold Collider.send at only ⊢
  cases stored : collider.sessions[connectionId]? with
  | none =>
      simp only [reduceCtorEq, false_and, and_false, if_false]
      exact ready.failConnection connectionId (.inl (by decide))
  | some session =>
      simp only [stored] at only ⊢
      cases empty : msg.msg.isEmpty with
      | true =>
          simp only [Bool.true_eq_false, false_and, if_false, if_true]
          exact ready.failConnection connectionId (.inl (by decide))
      | false =>
          simp only [empty, Bool.false_eq_true, if_false, true_and] at only ⊢
          cases session with
          | connected =>
              simp only [Option.some.injEq, reduceCtorEq, false_and, if_false]
              exact ready.failConnection connectionId (.inl (by decide))
          | registeredV2 roomId clientId =>
              simp only [Option.some.injEq, reduceCtorEq, false_and, if_false]
              unfold sendV2
              split
              · exact ready.aside (.refl collider)
              · next signalEpoch _ =>
                  rcases collider.v2Rooms.send order.v2 roomId clientId
                    signalEpoch msg.msg with ⟨error | result, v2Rooms⟩
                  · exact ready.aside (.setV2Rooms collider v2Rooms)
                  · have first := Aside.setV2Rooms collider v2Rooms
                    simp only
                    split
                    · exact ready.aside ((first.trans
                        (.notifyMember ..)).trans (.drainV2Actions _))
                    · exact ready.aside (first.trans (.drainV2Actions _))
          | registeredV1 target clientId =>
              obtain ⟨client, found, -⟩ := (ready.bound.registered _ _).1
                ⟨_, (ready.bound.session _ _ _).2 stored⟩
              have relayed := relayReads_single order.v1 now ready.bound.rooms
                ready.idle found msg.msg
              have sent := ready.bound.rooms.sent order.v1 now target clientId
                msg.msg
              simp only [sendV1, relayed, Option.some.injEq,
                Session.registeredV1.injEq] at only ⊢
              rcases result : collider.rooms.send order.v1 now target clientId
                msg.msg with ⟨error | done, rooms⟩
              · rw [result] at sent
                simp only [reduceCtorEq, and_false, if_false]
                exact ready.refused sent
              · rw [result] at sent
                simp only [result] at only
                simp only [and_true]
                exact ready.accepted distinct order.v1 sent only

/-- A frame from a browser. -/
theorem Ready.text
    (ready : Ready roomid sender receiver collider)
    (distinct : sender ≠ receiver)
    (decode : String -> Except String WsClientMsg)
    {call : Call}
    {connectionId : ConnectionId}
    {text : String}
    {now : Instant}
    (operation : call.operation =
      .handleRead (.text connectionId text now))
    (only : ∀ clientid client,
      (collider.handleBrowserText decode call.order connectionId text
        now).2.rooms.client? roomid clientid = some client ->
      clientid = sender ∨ clientid = receiver) :
    Balanced roomid sender receiver []
      (Collider.accepted decode roomid sender collider call) collider
      (collider.handleBrowserText decode call.order connectionId text
        now).2 := by
  unfold Collider.accepted
  rw [operation]
  simp only
  unfold handleBrowserText at only ⊢
  cases decoded : decode text with
  | error error =>
      simp only
      refine ready.failConnection connectionId (.inl fun empty => ?_)
      rw [String.append_eq_empty_iff] at empty
      exact absurd empty.1 (by decide)
  | ok msg =>
      simp only [decoded] at only ⊢
      by_cases registers : msg.cmd = "register"
      · have refused : ¬(msg.cmd = "send") := by
          rw [registers]
          decide
        simp only [if_pos registers, refused, false_and, if_false] at only ⊢
        split
        · exact ready.registerV2 ..
        · next other =>
            simp only [if_neg other] at only
            split
            · next plain =>
                simp only [if_pos plain] at only
                exact ready.registerV1 distinct _ _ _ _ only
            · exact ready.failConnection connectionId (.inl (by decide))
      · simp only [if_neg registers] at only ⊢
        by_cases sends : msg.cmd = "send"
        · simp only [sends, true_and] at only ⊢
          exact ready.send distinct _ _ _ _ only
        · simp only [sends, false_and, if_false]
          exact ready.failConnection connectionId (.inl (by decide))

/-- An operation fails or succeeds. -/
theorem outcome
    {ε α σ : Type}
    (result : Except ε α × σ) :
    (∃ error state, result = (.error error, state)) ∨
      ∃ value state, result = (.ok value, state) := by
  rcases result with ⟨error | value, state⟩
  · exact .inl ⟨error, state, rfl⟩
  · exact .inr ⟨value, state, rfl⟩

/-- A command of the authority, before its answer is handed to the driver. -/
theorem Ready.perform
    (ready : Ready roomid sender receiver collider)
    (distinct : sender ≠ receiver)
    (decode : String -> Except String WsClientMsg)
    {call : Call}
    {command : AuthorityCommand}
    (operation : call.operation = .handleWrite command)
    (only : ∀ clientid client,
      (collider.perform call.order command).2.rooms.client? roomid clientid =
        some client ->
      clientid = sender ∨ clientid = receiver)
    (stays : ∀ clientid, (collider.rooms.client? roomid clientid).isSome ->
      ((collider.perform call.order command).2.rooms.client? roomid
        clientid).isSome) :
    Balanced roomid sender receiver
      (joinMessages roomid receiver collider call)
      (Collider.accepted decode roomid sender collider call) collider
      (collider.perform call.order command).2 := by
  unfold Collider.accepted joinMessages
  rw [operation]
  simp only
  unfold Collider.perform at only stays ⊢
  cases performed : command.operation with
  | admitClient target clientId isLoopback now =>
      simp only [performed] at only stays ⊢
      have balanced := ready.admitted distinct call.order.v1 now target
        clientId isLoopback only stays
      rcases outcome (collider.rooms.join call.order.v1 now target clientId
        isLoopback) with ⟨error, rooms, joined⟩ | ⟨answer, rooms, joined⟩
      · simp only [joined] at balanced ⊢
        exact balanced
      · simp only [joined] at balanced ⊢
        exact balanced
  | remove target clientId =>
      simp only [performed] at stays ⊢
      exact ready.removed target clientId stays
  | inject target clientId msg now =>
      have sent := ready.bound.rooms.sent call.order.v1 now target clientId msg
      simp only [performed, V1.RoomTable.saveOrSend] at only ⊢
      rcases outcome (collider.rooms.send call.order.v1 now target clientId
        msg) with ⟨error, rooms, result⟩ | ⟨_, rooms, result⟩
      · rw [result] at sent
        simp only [result, Option.some.injEq, reduceCtorEq, and_false,
          if_false]
        exact ready.refused sent
      · rw [result] at sent
        simp only [result] at only
        simp only [result, and_true]
        exact ready.accepted distinct call.order.v1 sent only
  | occupancy target => exact ready.aside (.refl collider)
  | admitV2 roomId clientId admissionToken now =>
      exact ready.aside (.setV2Rooms collider _)
  | removeV2 roomId clientId admissionToken =>
      simp only
      rcases collider.v2Rooms.remove command.requestId roomId clientId
        admissionToken with ⟨error | ⟨promotion⟩ | -, v2Rooms⟩
      · exact ready.aside (.setV2Rooms collider v2Rooms)
      · exact ready.aside (((Aside.setV2Rooms collider v2Rooms).trans
          (.closeV2ClientConnection ..)).trans
            (.foldl Aside.pushPromotion _ _))
      · exact ready.aside (.setV2Rooms collider v2Rooms)
  | occupancyV2 roomId => exact ready.aside (.refl collider)
  | status => exact ready.aside (.refl collider)

/-- Calls that are no command of the authority answer no join. -/
theorem idleAnswer
    {call : Call}
    {operation : Operation}
    (same : call.operation = operation)
    (other : (∀ command, operation ≠ .handleWrite command) := by
      intro command; simp) :
    joinMessages roomid receiver collider call = [] := by
  unfold joinMessages
  rw [same]
  cases operation <;> first | rfl | exact absurd rfl (other _)

/-- Calls without an input from a browser or the authority accept nothing. -/
theorem idleAccept
    {decode : String -> Except String WsClientMsg}
    {call : Call}
    {operation : Operation}
    (same : call.operation = operation)
    (other : (∀ command, operation ≠ .handleWrite command) ∧
        ∀ input, operation ≠ .handleRead input := by
      constructor <;> intro input <;> simp) :
    accepted decode roomid sender collider call = [] := by
  unfold accepted
  rw [same]
  cases operation <;>
    first | rfl | exact absurd rfl (other.1 _) | exact absurd rfl (other.2 _)

theorem pushCloses
    (connections : List ConnectionId)
    (collider : Collider) :
    (connections.foldl
      (fun collider connectionId => collider.pushOutput (.close connectionId))
      collider).browserOutputs =
        collider.browserOutputs ++ connections.map .close := by
  induction connections generalizing collider with
  | nil => simp
  | cons connectionId connections inductionHypothesis =>
      rw [List.foldl_cons, inductionHypothesis]
      simp [pushOutput]

/-- Every call that hands outputs out is balanced, when nobody else is in the
room afterwards and nobody is taken out of it. -/
theorem Ready.step
    (ready : Ready roomid sender receiver collider)
    (distinct : sender ≠ receiver)
    (decode : String -> Except String WsClientMsg)
    (call : Call)
    (only : ∀ clientid client,
      (collider.step decode call).rooms.client? roomid clientid =
        some client ->
      clientid = sender ∨ clientid = receiver)
    (stays : ∀ clientid, (collider.rooms.client? roomid clientid).isSome ->
      ((collider.step decode call).rooms.client? roomid clientid).isSome)
    (handsOut : call.operation ≠ .pollWrite) :
    Balanced roomid sender receiver
      (joinMessages roomid receiver collider call)
      (Collider.accepted decode roomid sender collider call) collider
      (collider.step decode call) := by
  unfold Collider.step at only stays ⊢
  cases operation : call.operation with
  | handleRead input =>
      have unanswered : joinMessages roomid receiver collider call = [] := by
        unfold joinMessages
        rw [operation]
      rw [unanswered]
      cases input with
      | connected connectionId =>
          have nothing : Collider.accepted decode roomid sender collider
              call = [] := by
            unfold Collider.accepted
            rw [operation]
          rw [nothing]
          exact ready.same [] rfl (by simp [handleRead]) (by simp)
      | text connectionId text now =>
          simp only [operation, handleRead] at only
          exact ready.text distinct decode operation only
      | disconnected connectionId now =>
          have nothing : Collider.accepted decode roomid sender collider
              call = [] := by
            unfold Collider.accepted
            rw [operation]
          rw [nothing]
          exact ready.disconnect connectionId now
  | handleWrite command =>
      simp only [operation, handleAuthority] at only stays ⊢
      have later : (collider.perform call.order command).2.Aside
          ((collider.perform call.order command).1.toList.foldl
            (fun collider result => collider.pushResponse
              ⟨command.requestId, result⟩)
            (collider.perform call.order command).2).drainV2Actions :=
        (Aside.foldl (fun collider result => .pushResponse ..) _ _).trans
          (.drainV2Actions _)
      rw [later.rooms] at only stays
      exact (ready.perform distinct decode operation only stays).aside
        (ready.bound.perform call.order command) later
  | handleSfuInput input =>
      rw [idleAnswer operation, idleAccept operation]
      exact ready.aside (.handleSfuInput collider call.order input)
  | handleTimeout now =>
      rw [idleAnswer operation, idleAccept operation]
      simp only [operation] at stays ⊢
      have later : ({ collider with
          rooms := collider.rooms.handleTimeout call.order.v1 now
          v2Rooms := (collider.v2Rooms.handleTimeout call.order.v2 now).2 } :
            Collider).Aside (collider.handleTimeout call.order now) :=
        (Aside.foldl Aside.pushPromotion _ _).trans (.drainV2Actions _)
      rw [later.rooms] at stays
      have swept : Balanced roomid sender receiver [] [] collider
          { collider with
            rooms := collider.rooms.handleTimeout call.order.v1 now
            v2Rooms := (collider.v2Rooms.handleTimeout call.order.v2 now).2 } :=
        ready.swept call.order.v1 now rfl rfl stays
      exact swept.aside (ready.bound.of_steady
        (ready.bound.rooms.registered_handleTimeout call.order.v1 now)
        rfl rfl rfl) later
  | setDowngradeDwell dwell =>
      rw [idleAnswer operation, idleAccept operation]
      exact ready.same [] rfl (by simp) (by simp)
  | pollWrite => exact absurd operation handsOut
  | pollEvent =>
      rw [idleAnswer operation, idleAccept operation]
      exact ready.same [] rfl (by simp [pollEvent]) (by simp)
  | close =>
      rw [idleAnswer operation, idleAccept operation]
      simp only [operation] at stays ⊢
      have emptied : ∀ key other,
          (collider.close call.order).rooms.client? key other = none := by
        simp [Collider.close, V1.RoomTable.close, V1.RoomTable.client?]
      refine ready.quiet ((call.order.sessions.visit ()
          collider.sessions.keys).map .close)
        (fun key other client found => ?_) ?_ ?_ ?_ (by simp)
      · simp [emptied] at found
      · cases present : collider.rooms.client? roomid sender with
        | none => simp [V1.RoomTable.queued, emptied, present]
        | some client =>
            have kept := stays sender (by rw [present]; rfl)
            simp [emptied] at kept
      · rintro ⟨client, found, -⟩
        simp [emptied] at found
      · simp only [Collider.close, pushCloses]

/-- What a balanced call hands over and leaves is what waited and what it
accepts. -/
theorem Ready.handed
    (ready : Ready roomid sender receiver collider)
    (distinct : sender ≠ receiver)
    (decode : String -> Except String WsClientMsg)
    (call : Call)
    (only : ∀ clientid client,
      (collider.step decode call).rooms.client? roomid clientid =
        some client ->
      clientid = sender ∨ clientid = receiver)
    (stays : ∀ clientid, (collider.rooms.client? roomid clientid).isSome ->
      ((collider.step decode call).rooms.client? roomid clientid).isSome)
    (bound : (collider.step decode call).Bound) :
    Ready roomid sender receiver (collider.step decode call) ∧
      Collider.handed decode roomid receiver collider call ++
          (collider.step decode call).rooms.queued roomid sender =
        collider.rooms.queued roomid sender ++
          Collider.accepted decode roomid sender collider call := by
  by_cases polls : call.operation = .pollWrite
  · have same : (collider.step decode call).rooms = collider.rooms := by
      simp [Collider.step, polls, pollWrite]
    refine ⟨⟨bound, by rw [same]; exact ready.idle,
      by rw [same]; exact ready.settled⟩, ?_⟩
    rw [idleAccept polls, Collider.handed, idleAnswer polls, same]
    simp [outputs, polls]
  · obtain ⟨idle, settled, more, appended, balance⟩ :=
      ready.step distinct decode call only stays polls
    refine ⟨⟨bound, idle, settled⟩, ?_⟩
    have handsOut : collider.outputs decode call = more := by
      have dropped : (collider.step decode call).browserOutputs.drop
          collider.browserOutputs.length = more := by
        rw [appended]
        simp
      rw [← dropped]
      unfold outputs
      split
      · next poll => exact absurd poll polls
      · rfl
    rw [Collider.handed, handsOut]
    exact balance

end Balance

/-- In every run in which a connection opens at most once and before its other
inputs, and in which two clients of a V1 room are alone there and never
removed, what the one has been handed, followed by what waits on the other, is
exactly what was accepted from the other. -/
theorem relayed_once
    {decode : String -> Except String WsClientMsg}
    {registerTimeout : Duration}
    {history : History}
    {collider : Collider}
    {roomid : V1.RoomId}
    {sender receiver : V1.ClientId}
    (run : (machine decode registerTimeout).Run history collider)
    (introduced : Introduced history)
    (distinct : sender ≠ receiver)
    (paired : Paired decode roomid sender receiver history) :
    handedOver decode roomid receiver history ++
        collider.rooms.queued roomid sender =
      acceptedFrom decode roomid sender history := by
  have balanced : Ready roomid sender receiver collider ∧
      handedOver decode roomid receiver history ++
          collider.rooms.queued roomid sender =
        acceptedFrom decode roomid sender history := by
    induction run with
    | start starts =>
        subst starts
        refine ⟨⟨Bound.new _, fun key other client found => ?_,
          fun _ => ?_⟩, ?_⟩
        · simp [V1.RoomTable.client?] at found
        · simp [V1.RoomTable.queued, V1.RoomTable.client?]
        · simp [handedOver, acceptedFrom, V1.RoomTable.queued,
            V1.RoomTable.client?]
    | @next older earlier call run inductionHypothesis =>
        obtain ⟨ready, balance⟩ := inductionHypothesis introduced.2
          fun event listed => paired event (List.mem_cons_of_mem _ listed)
        obtain ⟨only, stays⟩ := paired _ List.mem_cons_self
        obtain ⟨after, step⟩ := ready.handed distinct decode call only stays
          (bound_of_run (run.next call) introduced).1
        refine ⟨after, ?_⟩
        simp only [handedOver, acceptedFrom]
        have next : (machine decode registerTimeout).next earlier call =
            earlier.step decode call := rfl
        rw [next, List.append_assoc, step, ← List.append_assoc, balance]
  exact balanced.2

/-- The clients that a listing shows are the only ones of the room. -/
theorem listed_of_found
    {rooms : V1.RoomTable}
    {roomid : V1.RoomId}
    {keys : List V1.ClientId}
    (listing : (rooms.rooms[roomid]?).map (fun room => room.clients.keys) =
      some keys)
    (clientid : V1.ClientId) :
    clientid ∈ keys ↔ (rooms.client? roomid clientid).isSome := by
  obtain ⟨room, stored, rfl⟩ := Option.map_eq_some_iff.1 listing
  rw [V1.RoomTable.client?_of_found stored, ExtTreeMap.mem_keys,
    ExtTreeMap.mem_iff_isSome_getElem?]

/-- The authority injects a message of the first client; then the second client
joins. -/
def joiningOperations : List Operation :=
  [.handleWrite ⟨1, .inject "room" "first" "hello" 0⟩,
    .handleWrite ⟨2, .admitClient "room" "second" false 0⟩]

/-- The second client is handed the message of the first one. -/
theorem relayed_once_joining :
    handedOver registerFrame "room" "second"
      (played registerFrame 10 joiningOperations).1 = ["hello"] := by
  have shape : (played registerFrame 10 joiningOperations).1.map
      (fun event =>
        ((event.1.rooms.rooms["room"]?).map fun room => room.clients.keys,
          ((event.1.step registerFrame event.2).rooms.rooms["room"]?).map
            fun room => room.clients.keys)) =
      [(some ["first"], some ["first", "second"]),
        (none, some ["first"])] := by decide +kernel
  have paired : Paired registerFrame "room" "first" "second"
      (played registerFrame 10 joiningOperations).1 := by
    intro event taken
    have listed := List.mem_map_of_mem (f := fun event : Collider × Call =>
      ((event.1.rooms.rooms["room"]?).map fun room => room.clients.keys,
        ((event.1.step registerFrame event.2).rooms.rooms["room"]?).map
          fun room => room.clients.keys)) taken
    rw [shape] at listed
    simp only [List.mem_cons, Prod.mk.injEq, List.not_mem_nil,
      or_false] at listed
    rcases listed with ⟨before, after⟩ | ⟨before, after⟩
    · refine ⟨fun clientid client found => ?_, fun clientid present => ?_⟩
      · have inside := (listed_of_found after clientid).2 (by simp [found])
        simpa using inside
      · have inside := (listed_of_found before clientid).2 present
        exact (listed_of_found after clientid).1 (by
          rw [List.mem_singleton.1 inside]
          simp)
    · refine ⟨fun clientid client found => ?_, fun clientid present => ?_⟩
      · have inside := (listed_of_found after clientid).2 (by simp [found])
        exact .inl (by simpa using inside)
      · rw [Option.map_eq_none_iff] at before
        simp [V1.RoomTable.client?, before] at present
  have balance := relayed_once (played_run registerFrame 10 joiningOperations)
    ⟨by rintro _ ⟨⟩, by rintro _ ⟨⟩, trivial⟩ (by decide) paired
  have waiting : (played registerFrame 10
      joiningOperations).2.rooms.queued "room" "first" = [] := by
    decide +kernel
  have accepted : acceptedFrom registerFrame "room" "first"
      (played registerFrame 10 joiningOperations).1 = ["hello"] := by
    decide +kernel
  rw [waiting, List.append_nil, accepted] at balance
  exact balance

end Collider
end Signaling
