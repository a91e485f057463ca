import Signaling.V1.Lookup
import Signaling.Support.MapValues

/-!
# Queues of the V1 room table

What sending and registering do to the queues of a room's two clients, and how
many messages wait between the sockets and the rooms.
-/

namespace Signaling
namespace V1

open Std (ExtTreeMap)

/-- After a join nobody has a message queued, and whoever was there before is
connected as before. -/
theorem Room.found_after_join
    {room after : Room}
    {now : Instant}
    {clientId key : ClientId}
    {isLoopback : Bool}
    {client : Client}
    (joined : after = room.joinedBy now clientId ∨
      isLoopback = true ∧ ∃ peer,
        (room.joinedBy now clientId).Hands now loopbackClientId peer ∧
        after = (room.joinedBy now clientId).setClient loopbackClientId
          (peer.setInitiator false))
    (found : after.clients[key]? = some client) :
    client.msgs = [] ∧
      (client.reads = [] ∧ client.writes = [] ∧ client.registered = false ∨
        ∃ before, room.clients[key]? = some before ∧
          client.reads = before.reads ∧ client.writes = before.writes ∧
          client.registered = before.registered) := by
  have base : ∀ client,
      (room.joinedBy now clientId).clients[key]? = some client ->
      client.msgs = [] ∧
        (client.reads = [] ∧ client.writes = [] ∧ client.registered = false ∨
          ∃ before, room.clients[key]? = some before ∧
            client.reads = before.reads ∧ client.writes = before.writes ∧
            client.registered = before.registered) := by
    intro client found
    rw [joinedBy_getElem?] at found
    split at found
    · cases found
      exact ⟨rfl, .inl ⟨rfl, rfl, rfl⟩⟩
    · obtain ⟨before, stored, rfl⟩ := Option.map_eq_some_iff.1 found
      exact ⟨rfl, .inr ⟨before, stored, rfl, rfl, rfl⟩⟩
  rcases joined with rfl | ⟨-, peer, hands, rfl⟩
  · exact base client found
  · rw [setClient_getElem?] at found
    split at found
    · next own =>
        subst own
        cases found
        cases hands with
        | stored present => exact base peer present
        | created => exact ⟨rfl, .inl ⟨rfl, rfl, rfl⟩⟩
    · exact base client found

namespace RoomTable

/-- Nothing waits on its way from or to a socket. -/
def Idle (table : RoomTable) : Prop :=
  ∀ (roomId : RoomId) (clientId : ClientId) (client : Client),
    table.client? roomId clientId = some client ->
      client.reads = [] ∧ client.writes = []

/-- The messages that wait on a client for its peer. -/
def queued
    (table : RoomTable)
    (roomId : RoomId)
    (clientId : ClientId) : List String :=
  ((table.client? roomId clientId).map (·.msgs)).getD []

/-- The client that an operation on a room works on. -/
abbrev Hands
    (table : RoomTable)
    (now : Instant)
    (roomId : RoomId)
    (clientId : ClientId)
    (client : Client) : Prop :=
  (table.room roomId).Hands now clientId client

variable {table : RoomTable}

/-- What is handed out is stored, or new and empty. -/
theorem Hands.facts
    {now : Instant}
    {roomId : RoomId}
    {clientId : ClientId}
    {client : Client}
    (hands : table.Hands now roomId clientId client)
    (idle : table.Idle) :
    client.msgs = table.queued roomId clientId ∧
      (client.registered = true -> table.Registered roomId clientId) ∧
      client.reads = [] ∧ client.writes = [] := by
  cases hands with
  | stored found =>
      rw [room_client?] at found
      exact ⟨by simp [queued, found], fun registered =>
        ⟨client, found, registered⟩, idle _ _ _ found⟩
  | created absent =>
      rw [room_client?] at absent
      exact ⟨by simp [queued, absent], by simp, rfl, rfl⟩

theorem client?_set
    (table : RoomTable)
    (target roomId : RoomId)
    (clientId other : ClientId)
    (client : Client) :
    (table.setRoom target
        ((table.room target).setClient clientId client)).client? roomId other =
      if target = roomId ∧ clientId = other then some client
      else table.client? roomId other :=
  table.client?_setClient target roomId clientId other client

theorem client?_set_set
    (table : RoomTable)
    (target roomId : RoomId)
    (first second other : ClientId)
    (client after : Client) :
    (table.setRoom target (((table.room target).setClient first
        client).setClient second after)).client? roomId other =
      if target = roomId ∧ second = other then some after
      else if target = roomId ∧ first = other then some client
      else table.client? roomId other := by
  rw [client?_setRoom]
  by_cases here : target = roomId
  · subst here
    simp only [if_true, true_and, Room.setClient_getElem?, room_client?]
  · simp [here]

/-- What a message does to the clients of the table. -/
inductive Sent
    (table : RoomTable)
    (now : Instant)
    (roomId : RoomId)
    (srcId : ClientId)
    (msg : String) : Except String Unit -> RoomTable -> Prop
  | refused {error : String} {after : RoomTable} :
      (∀ key other, after.client? key other = table.client? key other ∨
        key = roomId ∧ other = srcId ∧
          table.client? key other = none ∧
          after.client? key other = some (Client.new srcId roomId
            (some (now + (table.room roomId).registerTimeout)))) ->
      Sent table now roomId srcId msg (.error error) after
  | queued {src : Client} {after : RoomTable} :
      table.Hands now roomId srcId src ->
      (∀ key, key ≠ srcId -> ¬table.Registered roomId key) ->
      (∀ key other, after.client? key other =
        if roomId = key ∧ srcId = other then some (src.queue msg)
        else table.client? key other) ->
      Sent table now roomId srcId msg (.ok ()) after
  | delivered {src other : Client} {otherId : ClientId} {after : RoomTable} :
      table.Hands now roomId srcId src ->
      otherId ≠ srcId ->
      table.client? roomId otherId = some other ->
      other.registered = true ->
      (∀ key client, after.client? key client =
        if roomId = key ∧ otherId = client then some (other.deliver [msg])
        else if roomId = key ∧ srcId = client then some src
        else table.client? key client) ->
      Sent table now roomId srcId msg (.ok ()) after

theorem Sound.sent
    (sound : table.Sound)
    (order : VisitOrder)
    (now : Instant)
    (roomId : RoomId)
    (srcId : ClientId)
    (msg : String) :
    table.Sent now roomId srcId msg
      (table.send order now roomId srcId msg).1
      (table.send order now roomId srcId msg).2 := by
  unfold send
  rcases (sound.room roomId).1.send_cases order now srcId msg with
    ⟨error, failed, -⟩ | ⟨src, hands, ⟨alone, -, done⟩ |
      ⟨otherId, other, beside, found, bound, done⟩⟩
  · rw [failed]
    refine .refused fun key client => .inl ?_
    rw [client?_setRoom]
    split
    · next here => rw [room_client?, here]
    · rfl
  · rw [done]
    refine .queued hands (fun key away registered => ?_)
      fun key client => client?_set ..
    obtain ⟨client, found, bound⟩ := registered
    have unbound := alone key client away ((room_client? ..).trans found)
    simp [bound] at unbound
  · rw [done]
    exact .delivered hands beside ((room_client? ..).symm.trans found) bound
      fun key client => client?_set_set ..

/-- A message leaves the reads of every client as they were. -/
theorem Sent.reads
    {after : RoomTable}
    {now : Instant}
    {roomId : RoomId}
    {srcId : ClientId}
    {msg : String}
    {result : Except String Unit}
    (sent : table.Sent now roomId srcId msg result after)
    (idle : table.Idle)
    {key : RoomId}
    {clientId : ClientId}
    {client : Client}
    (found : after.client? key clientId = some client) :
    client.reads = [] := by
  cases sent with
  | refused lookup =>
      rcases lookup key clientId with same | ⟨-, -, -, created⟩
      · exact (idle _ _ _ (same.symm.trans found)).1
      · rw [created] at found
        cases found
        rfl
  | queued hands alone lookup =>
      rw [lookup] at found
      split at found
      · cases found
        exact (hands.facts idle).2.2.1
      · exact (idle _ _ _ found).1
  | delivered hands beside stored bound lookup =>
      rw [lookup] at found
      split at found
      · cases found
        exact (idle _ _ _ stored).1
      · split at found
        · cases found
          exact (hands.facts idle).2.2.1
        · exact (idle _ _ _ found).1

/-- What a registration does to the clients of the table. -/
inductive Joined
    (table : RoomTable)
    (now : Instant)
    (roomId : RoomId)
    (clientId : ClientId) : Except String Unit -> RoomTable -> Prop
  | refused {error : String} {after : RoomTable} :
      (∀ key other, after.client? key other = table.client? key other) ->
      Joined table now roomId clientId (.error error) after
  | alone {client : Client} {after : RoomTable} :
      table.Hands now roomId clientId client ->
      (∀ key, key ≠ clientId -> table.client? roomId key = none) ->
      (∀ key other, after.client? key other =
        if roomId = key ∧ clientId = other then some client.bind
        else table.client? key other) ->
      Joined table now roomId clientId (.ok ()) after
  | flushed {client other : Client} {otherId : ClientId} {after : RoomTable} :
      table.Hands now roomId clientId client ->
      otherId ≠ clientId ->
      table.client? roomId otherId = some other ->
      (∀ key held, after.client? key held =
        if roomId = key ∧ clientId = held then
          some (client.bind.deliver other.msgs)
        else if roomId = key ∧ otherId = held then some other.drained
        else table.client? key held) ->
      Joined table now roomId clientId (.ok ()) after

theorem Sound.joined
    (sound : table.Sound)
    (order : VisitOrder)
    (now : Instant)
    (roomId : RoomId)
    (clientId : ClientId) :
    table.Joined now roomId clientId
      (table.register order now roomId clientId).1
      (table.register order now roomId clientId).2 := by
  unfold register
  rcases (sound.room roomId).1.register_cases order now clientId with
    ⟨error, failed⟩ |
    ⟨client, hands, -, ⟨alone, done⟩ | ⟨otherId, other, beside, found, done⟩⟩
  · rw [failed]
    refine .refused fun key other => ?_
    rw [client?_setRoom]
    split
    · next here => rw [room_client?, here]
    · rfl
  · rw [done]
    exact .alone hands
      (fun key away => (room_client? ..).symm.trans (alone key away))
      fun key other => client?_set ..
  · rw [done]
    refine .flushed hands beside ((room_client? ..).symm.trans found)
      fun key held => ?_
    rw [client?_setRoom]
    by_cases here : roomId = key
    · subst here
      simp only [if_true, true_and, Room.setClient_getElem?, room_client?]
      split
      · rfl
      · split <;> rfl
    · simp [here]

/-- The client stored last is the one that stays. -/
theorem setClient_setClient
    (table : RoomTable)
    (roomId : RoomId)
    (clientId : ClientId)
    (client after : Client) :
    (table.setClient roomId clientId client).setClient roomId clientId after =
      table.setClient roomId clientId after := by
  have stored : (table.setClient roomId clientId client).room roomId =
      (table.room roomId).setClient clientId client :=
    room_of_found (by rw [setClient, setRoom_getElem?, if_pos rfl])
  simp only [setClient] at stored ⊢
  rw [stored, Room.setClient_setClient]
  simp only [setRoom]
  congr 1
  ext key : 1
  simp only [ExtTreeMap.getElem?_insert]
  split <;> rfl

/-- Storing a client again changes nothing. -/
theorem setClient_self
    {roomId : RoomId}
    {clientId : ClientId}
    {client : Client}
    (found : table.client? roomId clientId = some client) :
    table.setClient roomId clientId client = table := by
  obtain ⟨room, stored, inside⟩ := Option.bind_eq_some_iff.1 found
  rw [setClient, room_of_found stored, Room.setClient_self inside]
  simp only [setRoom]
  cases table
  congr 1
  ext key : 1
  simp only [ExtTreeMap.getElem?_insert]
  split
  · next equal => rw [← compare_eq_iff_eq.1 equal, stored]
  · rfl

/-- A client that has received something can be polled. -/
theorem readCount_pos
    {roomId : RoomId}
    {clientId : ClientId}
    {client : Client}
    (found : table.client? roomId clientId = some client)
    (waiting : client.reads ≠ []) :
    0 < table.readCount := by
  obtain ⟨room, stored, inside⟩ := Option.bind_eq_some_iff.1 found
  by_contra zero
  have nothing : table.readCount = 0 := by omega
  simp only [readCount, List.sum_eq_zero_iff_forall_eq_nat, List.mem_map,
    forall_exists_index, and_imp, forall_apply_eq_imp_iff₂] at nothing
  have empty := nothing room (mem_values.2 ⟨roomId, stored⟩) client
    (mem_values.2 ⟨clientId, inside⟩)
  exact waiting (List.length_eq_zero_iff.1 empty)

/-- Every message for a client can be polled. -/
theorem writes_le_writeCount
    {roomId : RoomId}
    {clientId : ClientId}
    {client : Client}
    (found : table.client? roomId clientId = some client) :
    client.writes.length ≤ table.writeCount := by
  obtain ⟨room, stored, inside⟩ := Option.bind_eq_some_iff.1 found
  have inner : client.writes.length ≤
      (room.clients.values.map fun client => client.writes.length).sum :=
    List.single_le_sum (by simp) _
      (List.mem_map.2 ⟨client, mem_values.2 ⟨clientId, inside⟩, rfl⟩)
  have outer : (room.clients.values.map
        fun client => client.writes.length).sum ≤ table.writeCount :=
    List.single_le_sum (by simp) _
      (List.mem_map.2 ⟨room, mem_values.2 ⟨roomId, stored⟩, rfl⟩)
  exact Nat.le_trans inner outer

end RoomTable
end V1
end Signaling
