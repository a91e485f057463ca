import Signaling.V1.Bounds
import Signaling.V1.Deadlines

/-!
# What a V1 timeout removes

A timeout removes the clients that nobody is connected to and whose deadline
has passed, promotes whoever is left beside them, and drops the rooms in which
nobody is left. It changes nothing else.
-/

namespace Signaling
namespace V1

open Std (ExtTreeMap)

namespace Room

variable {room : Room}

@[simp] theorem remove_registerTimeout (room : Room) (clientId : ClientId) :
    (room.remove clientId).registerTimeout = room.registerTimeout := by
  simp only [remove]
  split <;> rfl

theorem removeAll_registerTimeout (room : Room) (expired : List ClientId) :
    (expired.foldl remove room).registerTimeout = room.registerTimeout := by
  induction expired generalizing room with
  | nil => rfl
  | cons clientId expired inductionHypothesis =>
      rw [List.foldl_cons, inductionHypothesis, remove_registerTimeout]

theorem handleTimeout_registerTimeout
    (room : Room)
    (order : VisitOrder)
    (now : Instant) :
    (room.handleTimeout order now).registerTimeout = room.registerTimeout :=
  removeAll_registerTimeout ..

/-- A sweep of a room in which nobody is due changes nothing. -/
theorem Sound.handleTimeout_of_calm
    (sound : room.Sound)
    (order : VisitOrder)
    (now : Instant)
    (calm : ¬room.Expires now) :
    room.handleTimeout order now = room := by
  have id := (sound.handleTimeout order now).2
  have registerTimeout := room.handleTimeout_registerTimeout order now
  have clients : (room.handleTimeout order now).clients = room.clients := by
    ext key : 1
    exact (sound.handleTimeout_getElem? order now key).1 calm
  cases swept : room.handleTimeout order now with
  | mk sweptId sweptClients sweptTimeout =>
      rw [swept] at id registerTimeout clients
      cases room
      simp only at id registerTimeout clients
      rw [id, registerTimeout, clients]

/-- A sweep of a room keeps exactly the clients that are not due. -/
theorem Sound.handleTimeout_eq_none
    (sound : room.Sound)
    (order : VisitOrder)
    (now : Instant)
    {key : ClientId}
    {client : Client}
    (found : room.clients[key]? = some client) :
    (room.handleTimeout order now).clients[key]? = none ↔ client.Due now := by
  obtain ⟨calm, swept⟩ := sound.handleTimeout_getElem? order now key
  by_cases expires : room.Expires now
  · rw [swept expires, found, Option.bind_some]
    split
    · next due => simp [due]
    · next spared => simp [spared]
  · rw [calm expires, found]
    have spared : ¬client.Due now := fun due => expires ⟨key, client, found, due⟩
    simp [spared]

theorem Sound.handleTimeout_absent
    (sound : room.Sound)
    (order : VisitOrder)
    (now : Instant)
    {key : ClientId}
    (absent : room.clients[key]? = none) :
    (room.handleTimeout order now).clients[key]? = none := by
  obtain ⟨calm, swept⟩ := sound.handleTimeout_getElem? order now key
  by_cases expires : room.Expires now
  · rw [swept expires, absent]
    rfl
  · rw [calm expires, absent]

end Room

namespace RoomTable

/-- The table after a sweep, compared with the one before. -/
structure Reaped
    (table : RoomTable)
    (now : Instant)
    (after : RoomTable) : Prop where
  removed : ∀ (roomId : RoomId) (clientId : ClientId) (client : Client),
    table.client? roomId clientId = some client ->
    (after.client? roomId clientId = none ↔
      client.registered = false ∧
        ∃ deadline, client.timeout = some deadline ∧ deadline ≤ now)
  promoted : ∀ (roomId : RoomId) (clientId goneId : ClientId)
      (client gone : Client),
    table.client? roomId clientId = some client ->
    after.client? roomId clientId ≠ none ->
    table.client? roomId goneId = some gone ->
    after.client? roomId goneId = none ->
    after.client? roomId clientId = some (client.setInitiator true)
  untouched : ∀ (roomId : RoomId) (room : Room),
    table.rooms[roomId]? = some room ->
    (∀ clientId client, room.clients[clientId]? = some client ->
      after.client? roomId clientId ≠ none) ->
    after.rooms[roomId]? = some room
  deleted : ∀ (roomId : RoomId) (room : Room),
    table.rooms[roomId]? = some room ->
    (after.rooms[roomId]? = none ↔
      ∀ clientId, after.client? roomId clientId = none)
  settings : ∀ (roomId : RoomId) (room kept : Room),
    table.rooms[roomId]? = some room -> after.rooms[roomId]? = some kept ->
    kept.id = room.id ∧ kept.registerTimeout = room.registerTimeout
  absent : ∀ (roomId : RoomId) (clientId : ClientId),
    table.client? roomId clientId = none ->
    after.client? roomId clientId = none
  unknown : ∀ roomId : RoomId,
    table.rooms[roomId]? = none -> after.rooms[roomId]? = none
  registerTimeout : after.registerTimeout = table.registerTimeout
  waits : ∀ deadline, after.pollTimeout = some deadline -> now < deadline

variable {table : RoomTable}

theorem handleTimeout_getElem?
    (table : RoomTable)
    (order : VisitOrder)
    (now : Instant)
    (roomId : RoomId) :
    (table.handleTimeout order now).rooms[roomId]? =
      (table.rooms[roomId]?).bind fun room =>
        if (room.handleTimeout order now).empty then none
        else some (room.handleTimeout order now) := by
  simp only [handleTimeout, ExtTreeMap.getElem?_filter',
    ExtTreeMap.getElem?_map]
  cases table.rooms[roomId]? with
  | none => rfl
  | some room =>
      simp only [Option.map_some, Option.filter_some, Option.bind_some]
      cases (room.handleTimeout order now).empty <;> rfl

/-- A timeout keeps exactly the clients that are not due. -/
theorem Sound.handleTimeout_eq_none
    (sound : table.Sound)
    (order : VisitOrder)
    (now : Instant)
    {roomId : RoomId}
    {clientId : ClientId}
    {client : Client}
    (found : table.client? roomId clientId = some client) :
    (table.handleTimeout order now).client? roomId clientId = none ↔
      client.Due now := by
  obtain ⟨room, stored, inside⟩ := Option.bind_eq_some_iff.1 found
  rw [client?_handleTimeout, stored, Option.bind_some]
  exact (sound roomId room stored).1.handleTimeout_eq_none order now inside

theorem Sound.reaped
    (sound : table.Sound)
    (regular : table.Regular)
    (order : VisitOrder)
    (now : Instant) :
    table.Reaped now (table.handleTimeout order now) where
  removed := fun roomId clientId client found =>
    sound.handleTimeout_eq_none order now found
  promoted := by
    intro roomId clientId goneId client gone found stays left removed
    obtain ⟨room, stored, inside⟩ := Option.bind_eq_some_iff.1 found
    have spared : ¬client.Due now := fun due =>
      stays ((sound.handleTimeout_eq_none order now found).2 due)
    have due := (sound.handleTimeout_eq_none order now left).1 removed
    have expires : room.Expires now :=
      ⟨goneId, gone, by rwa [client?_of_found stored] at left, due⟩
    rw [client?_handleTimeout, stored, Option.bind_some,
      ((sound roomId room stored).1.handleTimeout_getElem? order now
        clientId).2 expires, inside, Option.bind_some, if_neg spared]
  untouched := by
    intro roomId room stored stay
    have calm : ¬room.Expires now := by
      rintro ⟨clientId, client, found, due⟩
      refine stay clientId client found
        ((sound.handleTimeout_eq_none order now ?_).2 due)
      rw [client?_of_found stored, found]
    rw [handleTimeout_getElem?, stored, Option.bind_some,
      (sound roomId room stored).1.handleTimeout_of_calm order now calm,
      (regular roomId room stored).2]
    rfl
  deleted := by
    intro roomId room stored
    rw [handleTimeout_getElem?, stored, Option.bind_some]
    simp only [client?_handleTimeout, stored, Option.bind_some,
      ite_eq_left_iff, reduceCtorEq, imp_false, not_not]
    rw [Room.empty_iff]
    constructor
    · intro nothing clientId
      simp [nothing]
    · intro nobody
      ext key : 1
      rw [nobody key, ExtTreeMap.getElem?_empty]
  settings := by
    intro roomId room kept stored stays
    rw [handleTimeout_getElem?, stored, Option.bind_some] at stays
    split at stays
    · cases stays
    · cases stays
      exact ⟨((sound roomId room stored).1.handleTimeout order now).2,
        room.handleTimeout_registerTimeout order now⟩
  absent := by
    intro roomId clientId gone
    rw [client?_handleTimeout]
    cases stored : table.rooms[roomId]? with
    | none => rfl
    | some room =>
        rw [client?_of_found stored] at gone
        exact (sound roomId room stored).1.handleTimeout_absent order now gone
  unknown := by
    intro roomId gone
    rw [handleTimeout_getElem?, gone]
    rfl
  registerTimeout := rfl
  waits := by
    intro deadline reported
    refine Nat.lt_of_not_le fun passed => ?_
    exact sound.undue_handleTimeout order now
      ((sound.handleTimeout order now).due_iff.2 ⟨deadline, reported, passed⟩)

/-- In every reachable table a deadline runs for exactly the clients that nobody
is connected to, a timeout at any time removes exactly those of them whose
deadline has passed, and it keeps every connected client. -/
theorem reaping_exact
    {registerTimeout : Duration}
    {table : RoomTable}
    (reachable : (machine registerTimeout).Reachable table) :
    (∀ (roomId : RoomId) (clientId : ClientId) (client : Client),
      table.client? roomId clientId = some client ->
      (client.timeout.isSome = true ↔ client.registered = false)) ∧
      ∀ (order : VisitOrder) (now : Instant),
        table.Reaped now (table.handleTimeout order now) ∧
          ∀ (roomId : RoomId) (clientId : ClientId),
            table.Registered roomId clientId ->
              (table.handleTimeout order now).Registered roomId clientId := by
  obtain ⟨sound, regular⟩ := sound_of_reachable reachable
  refine ⟨fun roomId clientId client found => ?_, fun order now =>
    ⟨sound.reaped regular order now, ?_⟩⟩
  · rw [← room_client?] at found
    rw [((regular.room roomId).clients clientId client found).armed]
    simp
  · rintro roomId clientId ⟨client, found, registered⟩
    obtain ⟨room, stored, inside⟩ := Option.bind_eq_some_iff.1 found
    have spared : ¬client.Due now := by simp [Client.Due, registered]
    obtain ⟨calm, swept⟩ := (sound roomId room stored).1.handleTimeout_getElem?
      order now clientId
    rw [Registered, client?_handleTimeout, stored, Option.bind_some]
    by_cases expires : room.Expires now
    · rw [swept expires, inside, Option.bind_some, if_neg spared]
      exact ⟨_, rfl, registered⟩
    · rw [calm expires, inside]
      exact ⟨client, rfl, registered⟩

/-- Two clients join, the second one connects, loses its connection and
connects again; the timer that it armed meanwhile fires. -/
def resumedOperations : List Operation :=
  [.join 0 "room" "first" false, .join 1 "room" "second" false,
    .register 2 "room" "second", .deregister 3 "room" "second",
    .register 5 "room" "second"]

/-- The timer of the lost connection removes the client that never connected,
and the client that came back stays. -/
theorem resumed_client_stays :
    (played 10 resumedOperations).2.Reaped 13
        ((played 10 resumedOperations).2.handleTimeout .sorted 13) ∧
      ((played 10 resumedOperations).2.handleTimeout .sorted 13).Registered
        "room" "second" := by
  obtain ⟨-, exactly⟩ := reaping_exact ⟨_, played_run 10 resumedOperations⟩
  obtain ⟨reaped, connected⟩ := exactly .sorted 13
  refine ⟨reaped, connected "room" "second" ?_⟩
  have found : ((played 10 resumedOperations).2.client? "room" "second").map
      Client.registered = some true := by decide +kernel
  obtain ⟨client, stored, registered⟩ := Option.map_eq_some_iff.1 found
  exact ⟨client, stored, registered⟩

end RoomTable
end V1
end Signaling
