import Signaling.V1.Lookup

/-!
# The bounds of the V1 room table

Every stored room has a client, every queue is bounded, and a deadline runs for
exactly those clients that nobody is connected to. A call that fails finds its
room stored and leaves it as it is.
-/

namespace Signaling
namespace V1

open Std (ExtTreeMap)

namespace Client

/-- A deadline runs exactly while nobody is connected, and the queue respects
its limit. -/
structure Regular (client : Client) : Prop where
  armed : client.timeout.isSome = !client.registered
  queue : client.msgs.length ≤ maxQueuedMsgCount

theorem Regular.new
    (clientId : ClientId)
    (roomId : RoomId)
    (deadline : Instant) :
    (Client.new clientId roomId (some deadline)).Regular where
  armed := rfl
  queue := Nat.zero_le _

/-- Regularity looks at the registration, the deadline and the queue only. -/
theorem Regular.of_same
    {client after : Client}
    (regular : client.Regular)
    (registered : after.registered = client.registered)
    (timeout : after.timeout = client.timeout)
    (queue : after.msgs.length ≤ maxQueuedMsgCount) :
    after.Regular where
  armed := by rw [registered, timeout, regular.armed]
  queue := queue

theorem Regular.bind
    {client : Client}
    (regular : client.Regular) :
    client.bind.Regular where
  armed := rfl
  queue := regular.queue

theorem Regular.drained
    {client : Client}
    (regular : client.Regular) :
    client.drained.Regular :=
  regular.of_same rfl rfl (Nat.zero_le _)

theorem Regular.setInitiator
    {client : Client}
    (regular : client.Regular)
    (isInitiator : Bool) :
    (client.setInitiator isInitiator).Regular :=
  regular.of_same rfl rfl regular.queue

theorem Regular.deliver
    {client : Client}
    (regular : client.Regular)
    (msgs : List String) :
    (client.deliver msgs).Regular :=
  regular.of_same rfl rfl regular.queue

end Client

namespace Room

/-- Every client of the room is regular. -/
structure Regular (room : Room) : Prop where
  clients : ∀ (clientId : ClientId) (client : Client),
    room.clients[clientId]? = some client -> client.Regular

theorem empty_iff {room : Room} :
    room.empty = true ↔ room.clients = ∅ := by
  simp [empty]

theorem occupied_iff {room : Room} :
    room.empty = false ↔ 1 ≤ room.clients.size := by
  rw [← Bool.not_eq_true, empty_iff, ExtTreeMap.eq_empty_iff_size_eq_zero]
  omega

theorem occupied_of_found
    {room : Room}
    {clientId : ClientId}
    {client : Client}
    (found : room.clients[clientId]? = some client) :
    room.empty = false := by
  rw [← Bool.not_eq_true, empty_iff]
  intro nothing
  simp [nothing] at found

theorem setClient_occupied
    (room : Room)
    (clientId : ClientId)
    (client : Client) :
    (room.setClient clientId client).empty = false :=
  occupied_of_found (room.setClient_stored clientId client)

namespace Regular

variable {room : Room}

theorem new (id : RoomId) (registerTimeout : Duration) :
    (Room.new id registerTimeout).Regular where
  clients := by simp

theorem hands
    (regular : room.Regular)
    {now : Instant}
    {clientId : ClientId}
    {client : Client}
    (hands : room.Hands now clientId client) :
    client.Regular := by
  cases hands with
  | stored found => exact regular.clients _ _ found
  | created => exact Client.Regular.new ..

theorem setClient
    (regular : room.Regular)
    (clientId : ClientId)
    {client : Client}
    (kept : client.Regular) :
    (room.setClient clientId client).Regular := by
  refine ⟨fun key found present => ?_⟩
  rw [setClient_getElem?] at present
  split at present
  · cases present
    exact kept
  · exact regular.clients _ _ present

theorem remove
    (regular : room.Regular)
    (clientId : ClientId) :
    (room.remove clientId).Regular := by
  refine ⟨fun key client found => ?_⟩
  rw [remove_getElem?] at found
  split at found
  · cases found
  split at found
  · obtain ⟨before, stored, rfl⟩ := Option.map_eq_some_iff.1 found
    exact (regular.clients _ _ stored).setInitiator true
  · exact regular.clients _ _ found

theorem deregister
    (regular : room.Regular)
    (now : Instant)
    (clientId : ClientId) :
    (room.deregister now clientId).2.Regular := by
  refine ⟨fun key client found => ?_⟩
  rw [deregister_getElem?] at found
  obtain ⟨before, stored, rfl⟩ := Option.map_eq_some_iff.1 found
  split
  · exact ⟨rfl, (regular.clients _ _ stored).queue⟩
  · exact regular.clients _ _ stored

/-- A survivor of a sweep keeps its registration, its deadline and its
queue. -/
theorem handleTimeout
    (regular : room.Regular)
    (sound : room.Sound)
    (order : VisitOrder)
    (now : Instant) :
    (room.handleTimeout order now).Regular := by
  refine ⟨fun key client found => ?_⟩
  obtain ⟨calm, swept⟩ := sound.handleTimeout_getElem? order now key
  by_cases expires : room.Expires now
  · rw [swept expires] at found
    obtain ⟨before, stored, kept⟩ := Option.bind_eq_some_iff.1 found
    split at kept
    · cases kept
    · cases kept
      exact (regular.clients _ _ stored).setInitiator true
  · rw [calm expires] at found
    exact regular.clients _ _ found

theorem send
    (regular : room.Regular)
    (sound : room.Sound)
    (order : VisitOrder)
    (now : Instant)
    (srcId : ClientId)
    (msg : String) :
    (room.send order now srcId msg).2.Regular := by
  rcases sound.send_cases order now srcId msg with ⟨error, failed, -⟩ |
    ⟨src, hands, ⟨-, spare, done⟩ | ⟨otherId, other, -, found, -, done⟩⟩
  · rw [failed]
    exact regular
  · rw [done]
    refine regular.setClient srcId
      ((regular.hands hands).of_same rfl rfl ?_)
    simp only [Client.queue_msgs, List.length_append, List.length_singleton]
    exact spare
  · rw [done]
    exact (regular.setClient srcId (regular.hands hands)).setClient otherId
      ((regular.clients _ _ found).deliver [msg])

theorem register
    (regular : room.Regular)
    (sound : room.Sound)
    (order : VisitOrder)
    (now : Instant)
    (clientId : ClientId) :
    (room.register order now clientId).2.Regular := by
  rcases sound.register_cases order now clientId with ⟨error, failed⟩ |
    ⟨client, hands, -, ⟨-, done⟩ | ⟨otherId, other, -, found, done⟩⟩
  · rw [failed]
    exact regular
  · rw [done]
    exact regular.setClient clientId (regular.hands hands).bind
  · rw [done]
    have bound := (regular.hands hands).bind
    exact ((regular.setClient clientId bound).setClient otherId
      (regular.clients _ _ found).drained).setClient clientId
        (bound.deliver other.msgs)

theorem joinedBy
    (regular : room.Regular)
    (now : Instant)
    (clientId : ClientId) :
    (room.joinedBy now clientId).Regular := by
  refine ⟨fun key client found => ?_⟩
  rw [joinedBy_getElem?] at found
  split at found
  · cases found
    exact (Client.Regular.new ..).setInitiator _
  · obtain ⟨before, stored, rfl⟩ := Option.map_eq_some_iff.1 found
    exact (regular.clients _ _ stored).drained

theorem addClient
    (regular : room.Regular)
    (order : VisitOrder)
    (now : Instant)
    (clientId : ClientId)
    (isLoopback : Bool) :
    (room.addClient order now clientId isLoopback).2.Regular := by
  have base := regular.joinedBy now clientId
  rcases room.addClient_cases order now clientId isLoopback with
    ⟨error, failed⟩ | ⟨-, -, -, joined | ⟨-, peer, hands, joined⟩⟩
  · rw [failed]
    exact regular
  · rw [joined]
    exact base
  · rw [joined]
    exact base.setClient loopbackClientId
      ((base.hands hands).setInitiator false)

end Regular

/-- What an operation that creates its client leaves: a room with a client, and
the room itself when the operation fails. -/
structure Settles
    {ε α : Type}
    (room : Room)
    (outcome : Except ε α × Room) : Prop where
  occupied : outcome.2.empty = false
  refused : ∀ error, outcome.1 = .error error -> outcome.2 = room

theorem Sound.send_settles
    {room : Room}
    (sound : room.Sound)
    (order : VisitOrder)
    (now : Instant)
    (srcId : ClientId)
    (msg : String) :
    room.Settles (room.send order now srcId msg) := by
  rcases sound.send_cases order now srcId msg with ⟨error, failed, -⟩ |
    ⟨src, -, ⟨-, -, done⟩ | ⟨otherId, other, -, -, -, done⟩⟩
  · refine ⟨?_, fun _ _ => by rw [failed]⟩
    rw [failed, ← Bool.not_eq_true]
    intro (empty : room.empty = true)
    -- an empty room has space for the sender, whose queue is empty
    have accepted : (room.send order now srcId msg).1 = .ok () := by
      rw [empty_iff] at empty
      simp [Room.send, Room.client, Client.enqueue, empty, maxRoomCapacity,
        maxQueuedMsgCount, ExtTreeMap.size_insert]
    rw [failed] at accepted
    cases accepted
  · rw [done]
    exact ⟨setClient_occupied .., fun _ failed => by cases failed⟩
  · rw [done]
    exact ⟨setClient_occupied .., fun _ failed => by cases failed⟩

theorem Sound.register_settles
    {room : Room}
    (sound : room.Sound)
    (order : VisitOrder)
    (now : Instant)
    (clientId : ClientId) :
    room.Settles (room.register order now clientId) := by
  rcases sound.register_cases order now clientId with ⟨error, failed⟩ |
    ⟨client, -, -, ⟨-, done⟩ | ⟨otherId, other, -, -, done⟩⟩
  · refine ⟨?_, fun _ _ => by rw [failed]⟩
    rw [failed, ← Bool.not_eq_true]
    intro (empty : room.empty = true)
    have accepted : (room.register order now clientId).1 = .ok () := by
      rw [empty_iff] at empty
      simp [Room.register, Room.client, Client.register, empty,
        maxRoomCapacity, ExtTreeMap.size_insert]
    rw [failed] at accepted
    cases accepted
  · rw [done]
    exact ⟨setClient_occupied .., fun _ failed => by cases failed⟩
  · rw [done]
    exact ⟨setClient_occupied .., fun _ failed => by cases failed⟩

theorem addClient_settles
    (room : Room)
    (order : VisitOrder)
    (now : Instant)
    (clientId : ClientId)
    (isLoopback : Bool) :
    room.Settles (room.addClient order now clientId isLoopback) := by
  rcases room.addClient_cases order now clientId isLoopback with
    ⟨error, failed⟩ | ⟨-, -, accepted, joined⟩
  · refine ⟨?_, fun _ _ => by rw [failed]⟩
    rw [failed, ← Bool.not_eq_true]
    intro (empty : room.empty = true)
    have accepted : ∃ granted,
        (room.addClient order now clientId isLoopback).1 = .ok granted := by
      rw [empty_iff] at empty
      simp [Room.addClient, Room.client, empty, maxRoomCapacity]
    rw [failed] at accepted
    obtain ⟨granted, accepted⟩ := accepted
    cases accepted
  · refine ⟨?_, fun error failed => ?_⟩
    · rcases joined with joined | ⟨-, peer, -, joined⟩
      · rw [joined]
        exact setClient_occupied ..
      · rw [joined]
        exact setClient_occupied ..
    · rw [accepted] at failed
      cases failed

end Room

/-- The error of an outcome, when there is one. -/
def error? {ε α : Type} : Except ε α -> Option ε
  | .error error => some error
  | .ok _ => none

theorem error?_eq_some
    {ε α : Type}
    {outcome : Except ε α}
    {error : ε} :
    error? outcome = some error ↔ outcome = .error error := by
  cases outcome <;> simp [error?]

namespace RoomTable

/-- Storing a room again changes nothing. -/
theorem setRoom_self
    {table : RoomTable}
    {roomId : RoomId}
    {room : Room}
    (found : table.rooms[roomId]? = some room) :
    table.setRoom roomId room = table := by
  simp only [setRoom]
  congr 1
  ext key : 1
  rw [ExtTreeMap.getElem?_insert]
  split
  · next equal => rw [← compare_eq_iff_eq.1 equal, found]
  · rfl

/-- Every room of the table has a client, and all of its clients are
regular. -/
def Regular (table : RoomTable) : Prop :=
  ∀ (roomId : RoomId) (room : Room),
    table.rooms[roomId]? = some room -> room.Regular ∧ room.empty = false

namespace Regular

variable {table : RoomTable}

theorem new (registerTimeout : Duration) :
    (RoomTable.new registerTimeout).Regular := by
  intro roomId room found
  simp at found

theorem room
    (regular : table.Regular)
    (roomId : RoomId) :
    (table.room roomId).Regular := by
  cases found : table.rooms[roomId]? with
  | none =>
      have fresh : table.room roomId =
          Room.new roomId table.registerTimeout := by
        simp [RoomTable.room, ExtTreeMap.getD_eq_getD_getElem?, found]
      rw [fresh]
      exact Room.Regular.new ..
  | some room =>
      rw [room_of_found found]
      exact (regular roomId room found).1

theorem setRoom
    (regular : table.Regular)
    (roomId : RoomId)
    {room : Room}
    (kept : room.Regular)
    (occupied : room.empty = false) :
    (table.setRoom roomId room).Regular := by
  intro key found present
  rw [setRoom_getElem?] at present
  split at present
  · cases present
    exact ⟨kept, occupied⟩
  · exact regular _ _ present

theorem remove
    (regular : table.Regular)
    (roomId : RoomId)
    (clientId : ClientId) :
    (table.remove roomId clientId).Regular := by
  unfold RoomTable.remove
  cases found : table.rooms[roomId]? with
  | none => exact regular
  | some room =>
      simp only
      split
      · intro key other present
        simp only [ExtTreeMap.getElem?_erase] at present
        split at present
        · cases present
        · exact regular _ _ present
      · next occupied =>
          exact regular.setRoom roomId
            ((regular roomId room found).1.remove clientId)
            (by simpa using occupied)

theorem handleTimeout
    (regular : table.Regular)
    (sound : table.Sound)
    (order : VisitOrder)
    (now : Instant) :
    (table.handleTimeout order now).Regular := by
  intro roomId room found
  simp only [RoomTable.handleTimeout, ExtTreeMap.getElem?_filter',
    ExtTreeMap.getElem?_map] at found
  obtain ⟨swept, occupied⟩ := Option.filter_eq_some_iff.1 found
  obtain ⟨before, stored, rfl⟩ := Option.map_eq_some_iff.1 swept
  exact ⟨(regular roomId before stored).1.handleTimeout
    (sound roomId before stored).1 order now, by simpa using occupied⟩

/-- A deregistration keeps every client in its room. -/
theorem deregister
    (regular : table.Regular)
    (now : Instant)
    (roomId : RoomId)
    (clientId : ClientId) :
    (table.deregister now roomId clientId).Regular := by
  unfold RoomTable.deregister
  cases found : table.rooms[roomId]? with
  | none => exact regular
  | some room =>
      obtain ⟨kept, occupied⟩ := regular roomId room found
      refine regular.setRoom roomId (kept.deregister now clientId) ?_
      unfold Room.deregister
      split
      · exact occupied
      · split
        · exact Room.setClient_occupied ..
        · exact occupied

/-- Every call keeps the table regular. -/
theorem step
    (regular : table.Regular)
    (sound : table.Sound)
    (call : Call) :
    (table.step call).Regular := by
  unfold RoomTable.step
  cases call.operation with
  | join now roomId clientId isLoopback =>
      exact regular.setRoom roomId ((regular.room roomId).addClient ..)
        ((table.room roomId).addClient_settles ..).occupied
  | leave roomId clientId => exact regular.remove roomId clientId
  | register now roomId clientId =>
      have kept := (sound.room roomId).1
      exact regular.setRoom roomId ((regular.room roomId).register kept ..)
        (kept.register_settles ..).occupied
  | deregister now roomId clientId =>
      exact regular.deregister now roomId clientId
  | send now roomId sourceId msg =>
      have kept := (sound.room roomId).1
      exact regular.setRoom roomId ((regular.room roomId).send kept ..)
        (kept.send_settles ..).occupied
  | saveOrSend now roomId sourceId msg =>
      have kept := (sound.room roomId).1
      exact regular.setRoom roomId ((regular.room roomId).send kept ..)
        (kept.send_settles ..).occupied
  | handleTimeout now => exact regular.handleTimeout sound call.order now

end Regular

/-- Every reachable table is sound and regular. -/
theorem sound_of_reachable
    {registerTimeout : Duration}
    {table : RoomTable}
    (reachable : (machine registerTimeout).Reachable table) :
    table.Sound ∧ table.Regular := by
  obtain ⟨history, run⟩ := reachable
  induction run with
  | start starts =>
      cases starts
      exact ⟨Sound.new _, Regular.new _⟩
  | next call _ inductionHypothesis =>
      obtain ⟨sound, regular⟩ := inductionHypothesis
      exact ⟨sound.step call, regular.step sound call⟩

/-- An operation that fails stores the room that was stored before: a room that
was not there is empty, and an empty room refuses nothing. -/
theorem setRoom_of_refused
    {ε α : Type}
    {table : RoomTable}
    {roomId : RoomId}
    {outcome : Except ε α × Room}
    (settles : (table.room roomId).Settles outcome)
    {error : ε}
    (failed : outcome.1 = .error error) :
    table.setRoom roomId outcome.2 = table := by
  have occupied := settles.occupied
  rw [settles.refused error failed] at occupied ⊢
  cases found : table.rooms[roomId]? with
  | none =>
      simp [RoomTable.room, ExtTreeMap.getD_eq_getD_getElem?, found,
        Room.empty] at occupied
  | some room =>
      rw [room_of_found found]
      exact setRoom_self found

/-- The error that a call returns, when it fails. -/
def refusal? (table : RoomTable) (call : Call) : Option String :=
  match call.operation with
  | .join now roomId clientId isLoopback =>
      error? (table.join call.order now roomId clientId isLoopback).1
  | .register now roomId clientId =>
      error? (table.register call.order now roomId clientId).1
  | .send now roomId sourceId msg =>
      error? (table.send call.order now roomId sourceId msg).1
  | .saveOrSend now roomId sourceId msg =>
      error? (table.saveOrSend call.order now roomId sourceId msg).1
  | .leave _ _ | .deregister _ _ _ | .handleTimeout _ => none

theorem Sound.step_of_refused
    {table : RoomTable}
    (sound : table.Sound)
    {call : Call}
    {error : String}
    (refused : table.refusal? call = some error) :
    table.step call = table := by
  obtain ⟨operation, order⟩ := call
  cases operation with
  | join now roomId clientId isLoopback =>
      exact setRoom_of_refused ((table.room roomId).addClient_settles ..)
        (error?_eq_some.1 refused)
  | leave roomId clientId => cases refused
  | register now roomId clientId =>
      exact setRoom_of_refused ((sound.room roomId).1.register_settles ..)
        (error?_eq_some.1 refused)
  | deregister now roomId clientId => cases refused
  | send now roomId sourceId msg =>
      exact setRoom_of_refused ((sound.room roomId).1.send_settles ..)
        (error?_eq_some.1 refused)
  | saveOrSend now roomId sourceId msg =>
      exact setRoom_of_refused ((sound.room roomId).1.send_settles ..)
        (error?_eq_some.1 refused)
  | handleTimeout now => cases refused

/-- A message is refused in a full room or with a full queue only. -/
theorem Sound.send_error
    {table : RoomTable}
    (sound : table.Sound)
    {order : VisitOrder}
    {now : Instant}
    {roomId : RoomId}
    {srcId : ClientId}
    {msg error : String}
    (refused : (table.send order now roomId srcId msg).1 = .error error) :
    error = "Max room capacity reached" ∨
      error = "Too many messages queued for the client" := by
  have refused : ((table.room roomId).send order now srcId msg).1 =
      .error error := refused
  rcases (sound.room roomId).1.send_cases order now srcId msg with
    ⟨found, failed, reason⟩ | ⟨src, -, ⟨-, -, done⟩ | ⟨_, _, -, -, -, done⟩⟩
  · rw [failed] at refused
    cases refused
    exact reason
  · rw [done] at refused
    cases refused
  · rw [done] at refused
    cases refused

/-- The error says that the sender or the room is broken. -/
def Corrupt (error : String) : Prop :=
  error = "Invalid client" ∨ ∃ roomId : RoomId,
    error = s!"Corrupted room {roomId}"

theorem Sound.send_uncorrupted
    {table : RoomTable}
    (sound : table.Sound)
    {order : VisitOrder}
    {now : Instant}
    {roomId : RoomId}
    {srcId : ClientId}
    {msg error : String}
    (refused : (table.send order now roomId srcId msg).1 = .error error) :
    ¬Corrupt error := by
  -- the possible errors begin with other letters
  have initial (id : RoomId) : (s!"Corrupted room {id}").toList.head? =
      some 'C' := by
    have prefixed : (s!"Corrupted room {id}").toList =
        'C' :: ("orrupted room ".toList ++ (toString id).toList) := by
      rw [String.toList_append]
      rfl
    rw [prefixed]
    rfl
  rintro (rfl | ⟨id, rfl⟩)
  · rcases sound.send_error refused with equal | equal <;>
      exact absurd equal (by decide)
  · rcases sound.send_error refused with equal | equal
    · have letter := initial id
      rw [equal] at letter
      exact absurd letter (by decide)
    · have letter := initial id
      rw [equal] at letter
      exact absurd letter (by decide)

/-- In every reachable table a room has one or two clients with bounded queues,
a call that returns an error changes nothing, and a message is never refused
because of a corrupted room or an invalid client. -/
theorem rooms_bounded
    {registerTimeout : Duration}
    {table : RoomTable}
    (reachable : (machine registerTimeout).Reachable table) :
    (∀ (roomId : RoomId) (room : Room), table.rooms[roomId]? = some room ->
      1 ≤ room.clients.size ∧ room.clients.size ≤ 2 ∧
        ∀ (clientId : ClientId) (client : Client),
          room.clients[clientId]? = some client ->
            client.msgs.length ≤ 1024) ∧
      (∀ (call : Call) (error : String), table.refusal? call = some error ->
        table.step call = table) ∧
      ∀ (order : VisitOrder) (now : Instant) (roomId : RoomId)
        (sourceId : ClientId) (msg error : String),
        (table.send order now roomId sourceId msg).1 = .error error ∨
          (table.saveOrSend order now roomId sourceId msg).1 = .error error ->
        ¬Corrupt error := by
  obtain ⟨sound, regular⟩ := sound_of_reachable reachable
  refine ⟨fun roomId room found => ?_,
    fun call error refused => sound.step_of_refused refused,
    fun order now roomId sourceId msg error refused =>
      sound.send_uncorrupted (refused.elim id id)⟩
  obtain ⟨kept, occupied⟩ := regular roomId room found
  exact ⟨Room.occupied_iff.1 occupied, (sound roomId room found).1.space,
    fun clientId client present => (kept.clients clientId client present).queue⟩

/-- Two clients join a room and a third one finds it full. -/
theorem third_join_refused :
    (played 10 [.join 0 "room" "first" false,
        .join 1 "room" "second" false]).2.step
        ⟨.join 2 "room" "third" false, .sorted⟩ =
      (played 10 [.join 0 "room" "first" false,
        .join 1 "room" "second" false]).2 :=
  (rooms_bounded ⟨_, played_run 10 _⟩).2.1 _ "FULL" (by decide +kernel)

end RoomTable
end V1
end Signaling
