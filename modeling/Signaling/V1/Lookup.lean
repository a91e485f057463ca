import Signaling.V1.Effects
import Signaling.V1.Run

/-!
# Clients of the V1 room table

A client is looked up by its room and its id. An operation on one room leaves
the clients of all others as they are.
-/

namespace Signaling
namespace V1

open Std (ExtTreeMap)

namespace RoomTable

/-- The client of a room, when both exist. -/
def client?
    (table : RoomTable)
    (roomId : RoomId)
    (clientId : ClientId) : Option Client :=
  (table.rooms[roomId]?).bind fun room => room.clients[clientId]?

/-- Every room is sound and stored under its own id. -/
def Sound (table : RoomTable) : Prop :=
  ∀ (roomId : RoomId) (room : Room),
    table.rooms[roomId]? = some room -> room.Sound ∧ room.id = roomId

theorem Sound.new (registerTimeout : Duration) :
    (RoomTable.new registerTimeout).Sound := by
  intro roomId room found
  simp at found

theorem setRoom_getElem?
    (table : RoomTable)
    (roomId key : RoomId)
    (room : Room) :
    (table.setRoom roomId room).rooms[key]? =
      if roomId = key then some room else table.rooms[key]? := by
  simp [setRoom, ExtTreeMap.getElem?_insert]

@[simp] theorem client?_setRoom
    (table : RoomTable)
    (roomId key : RoomId)
    (room : Room)
    (clientId : ClientId) :
    (table.setRoom roomId room).client? key clientId =
      if roomId = key then room.clients[clientId]?
      else table.client? key clientId := by
  rw [client?, setRoom_getElem?]
  split <;> rfl

theorem room_of_found
    {table : RoomTable}
    {roomId : RoomId}
    {room : Room}
    (found : table.rooms[roomId]? = some room) :
    table.room roomId = room := by
  simp [RoomTable.room, ExtTreeMap.getD_eq_getD_getElem?, found]

theorem client?_of_found
    {table : RoomTable}
    {roomId : RoomId}
    {room : Room}
    (found : table.rooms[roomId]? = some room)
    (clientId : ClientId) :
    table.client? roomId clientId = room.clients[clientId]? := by
  simp [client?, found]

@[simp] theorem room_client?
    (table : RoomTable)
    (roomId : RoomId)
    (clientId : ClientId) :
    (table.room roomId).clients[clientId]? = table.client? roomId clientId := by
  cases found : table.rooms[roomId]? with
  | none =>
      simp [RoomTable.room, ExtTreeMap.getD_eq_getD_getElem?, found, client?]
  | some room => rw [room_of_found found, client?_of_found found]

namespace Sound

variable {table : RoomTable}

theorem room
    (sound : table.Sound)
    (roomId : RoomId) :
    (table.room roomId).Sound ∧ (table.room roomId).id = roomId := by
  cases found : table.rooms[roomId]? with
  | none =>
      have fresh : table.room roomId =
          Room.new roomId table.registerTimeout := by
        simp [RoomTable.room, ExtTreeMap.getD_eq_getD_getElem?, found]
      rw [fresh]
      exact ⟨Room.Sound.new .., rfl⟩
  | some room =>
      rw [room_of_found found]
      exact sound roomId room found

theorem client
    (sound : table.Sound)
    {roomId : RoomId}
    {clientId : ClientId}
    {client : Client}
    (found : table.client? roomId clientId = some client) :
    client.Sound roomId clientId := by
  obtain ⟨kept, named⟩ := sound.room roomId
  rw [← room_client?] at found
  rw [← named]
  exact kept.clients _ _ found

theorem setRoom
    (sound : table.Sound)
    {roomId : RoomId}
    {room : Room}
    (kept : room.Sound ∧ room.id = roomId) :
    (table.setRoom roomId room).Sound := by
  intro key found present
  rw [setRoom_getElem?] at present
  split at present
  · next equal =>
      cases present
      exact equal ▸ kept
  · exact sound _ _ present

/-- A result of a room's operation that keeps the room's id is kept. -/
theorem update
    (sound : table.Sound)
    {roomId : RoomId}
    {room : Room}
    (kept : room.Sound ∧ room.id = (table.room roomId).id) :
    (table.setRoom roomId room).Sound :=
  sound.setRoom ⟨kept.1, kept.2.trans (sound.room roomId).2⟩

theorem remove
    (sound : table.Sound)
    (roomId : RoomId)
    (clientId : ClientId) :
    (table.remove roomId clientId).Sound := by
  unfold RoomTable.remove
  cases found : table.rooms[roomId]? with
  | none => exact sound
  | some room =>
      obtain ⟨kept, named⟩ := sound roomId room found
      simp only
      split
      · intro key other present
        simp only [ExtTreeMap.getElem?_erase] at present
        split at present
        · cases present
        · exact sound _ _ present
      · exact sound.setRoom ⟨kept.remove clientId, by simpa using named⟩

theorem handleTimeout
    (sound : table.Sound)
    (order : VisitOrder)
    (now : Instant) :
    (table.handleTimeout order now).Sound := by
  intro roomId room found
  simp only [RoomTable.handleTimeout, ExtTreeMap.getElem?_filter',
    ExtTreeMap.getElem?_map] at found
  obtain ⟨before, stored, rfl⟩ :=
    Option.map_eq_some_iff.1 (Option.filter_eq_some_iff.1 found).1
  obtain ⟨kept, named⟩ := sound _ _ stored
  exact ⟨(kept.handleTimeout order now).1,
    (kept.handleTimeout order now).2.trans named⟩

/-- Every call keeps the table sound. -/
theorem step
    (sound : table.Sound)
    (call : Call) :
    (table.step call).Sound := by
  unfold RoomTable.step
  cases call.operation with
  | join now roomId clientId isLoopback =>
      exact sound.update ((sound.room roomId).1.addClient ..)
  | leave roomId clientId => exact sound.remove roomId clientId
  | register now roomId clientId =>
      exact sound.update ((sound.room roomId).1.register ..)
  | deregister now roomId clientId =>
      simp only [RoomTable.deregister]
      split
      · exact sound
      · next room found =>
          obtain ⟨kept, named⟩ := sound roomId room found
          obtain ⟨after, same⟩ := kept.deregister now clientId
          exact sound.setRoom ⟨after, same.trans named⟩
  | send now roomId sourceId msg =>
      exact sound.update ((sound.room roomId).1.send ..)
  | saveOrSend now roomId sourceId msg =>
      exact sound.update ((sound.room roomId).1.send ..)
  | handleTimeout now => exact sound.handleTimeout call.order now

end Sound

/-- A removal takes its client out and promotes whoever is left in the room. -/
theorem client?_remove
    (table : RoomTable)
    (roomId key : RoomId)
    (clientId other : ClientId) :
    (table.remove roomId clientId).client? key other =
      if key = roomId then
        if other = clientId then none
        else if (table.client? roomId clientId).isSome then
          (table.client? roomId other).map (Client.setInitiator · true)
        else table.client? roomId other
      else table.client? key other := by
  unfold remove
  cases found : table.rooms[roomId]? with
  | none =>
      by_cases same : key = roomId
      · subst same
        simp [client?, found]
      · simp [same]
  | some room =>
      simp only
      have removed := room.remove_getElem? clientId other
      simp only [ExtTreeMap.mem_iff_isSome_getElem?] at removed
      rw [← client?_of_found found, ← client?_of_found found] at removed
      split
      · next empty =>
          by_cases same : key = roomId
          · subst same
            have nothing : (room.remove clientId).clients[other]? = none := by
              have empty : (room.remove clientId).clients = ∅ := by
                simpa [Room.empty] using empty
              simp [empty]
            rw [if_pos rfl, ← removed, nothing]
            simp [client?]
          · simp [client?, ExtTreeMap.getElem?_erase, same, Ne.symm same]
      · by_cases same : key = roomId
        · subst same
          rw [client?_setRoom, if_pos rfl, if_pos rfl, removed]
        · rw [client?_setRoom, if_neg (Ne.symm same), if_neg same]

/-- A sweep of the table sweeps every room. -/
theorem client?_handleTimeout
    (table : RoomTable)
    (order : VisitOrder)
    (now : Instant)
    (roomId : RoomId)
    (clientId : ClientId) :
    (table.handleTimeout order now).client? roomId clientId =
      (table.rooms[roomId]?).bind fun room =>
        (room.handleTimeout order now).clients[clientId]? := by
  simp only [client?, handleTimeout, ExtTreeMap.getElem?_filter',
    ExtTreeMap.getElem?_map]
  cases table.rooms[roomId]? with
  | none => rfl
  | some room =>
      simp only [Option.map_some, Option.bind_some, Option.filter_some]
      split
      · rfl
      · next empty =>
          have nothing : (room.handleTimeout order now).clients = ∅ := by
            simpa [Room.empty] using empty
          simp [nothing]

/-- The client exists and a connection is bound to it. -/
def Registered
    (table : RoomTable)
    (roomId : RoomId)
    (clientId : ClientId) : Prop :=
  ∃ client, table.client? roomId clientId = some client ∧
    client.registered = true

/-- The table after a step that registers and deregisters nobody. -/
structure Steady (table after : RoomTable) : Prop where
  sound : after.Sound
  registered : ∀ roomId clientId,
    after.Registered roomId clientId ↔ table.Registered roomId clientId

namespace Steady

variable {table middle after : RoomTable}

theorem refl (sound : table.Sound) : table.Steady table where
  sound := sound
  registered := fun _ _ => Iff.rfl

theorem trans
    (first : table.Steady middle)
    (second : middle.Steady after) :
    table.Steady after where
  sound := second.sound
  registered := fun roomId clientId =>
    (second.registered roomId clientId).trans
      (first.registered roomId clientId)

/-- An operation that registers and deregisters nobody in its room. -/
theorem setRoom
    (sound : table.Sound)
    {target : RoomId}
    {room : Room}
    (kept : room.Sound ∧ room.id = (table.room target).id)
    (keeps : (table.room target).Keeps Client.registered room) :
    table.Steady (table.setRoom target room) where
  sound := sound.update kept
  registered := by
    intro roomId clientId
    simp only [Registered, client?_setRoom]
    by_cases here : target = roomId
    · subst here
      simp only [if_true]
      constructor
      · rintro ⟨client, found, registered⟩
        rcases keeps.backward _ _ found with ⟨before, stored, same⟩ |
          ⟨-, unset⟩
        · exact ⟨before, (table.room_client? _ _).symm.trans stored,
            same.trans registered⟩
        · simp [unset] at registered
      · rintro ⟨client, found, registered⟩
        obtain ⟨after, stays, same⟩ := keeps.forward clientId client
          ((table.room_client? _ _).trans found)
        exact ⟨after, stays, same.trans registered⟩
    · simp [here]

theorem send
    (sound : table.Sound)
    (order : VisitOrder)
    (now : Instant)
    (roomId : RoomId)
    (sourceId : ClientId)
    (msg : String) :
    table.Steady (table.send order now roomId sourceId msg).2 :=
  setRoom sound ((sound.room roomId).1.send ..)
    ((sound.room roomId).1.send_keeps (fun _ _ _ => rfl)
      (fun _ _ _ => rfl) ..)

theorem join
    (sound : table.Sound)
    (order : VisitOrder)
    (now : Instant)
    (roomId : RoomId)
    (clientId : ClientId)
    (isLoopback : Bool) :
    table.Steady (table.join order now roomId clientId isLoopback).2 :=
  setRoom sound ((sound.room roomId).1.addClient ..)
    ((table.room roomId).addClient_keeps ..)

end Steady

/-- A message from a socket is stored with its client, when that exists. -/
theorem handleRead_eq (table : RoomTable) (message : Message) :
    table.handleRead message =
      match table.client? message.roomid message.clientid with
      | none => table
      | some client => table.setRoom message.roomid
          ((table.room message.roomid).setClient message.clientid
            (client.handleRead message)) := by
  have modified : ∀ {room : Room} {client : Client},
      room.clients[message.clientid]? = some client ->
      room.handleRead message =
        room.setClient message.clientid (client.handleRead message) := by
    intro room client found
    simp only [Room.handleRead, Room.setClient]
    congr 1
    ext key : 1
    simp only [ExtTreeMap.getElem?_modify, ExtTreeMap.getElem?_insert]
    split
    · next equal =>
        rw [found]
        rfl
    · rfl
  have untouched : ∀ {room : Room},
      room.clients[message.clientid]? = none ->
      room.handleRead message = room := by
    intro room absent
    simp only [Room.handleRead]
    congr 1
    ext key : 1
    simp only [ExtTreeMap.getElem?_modify]
    split
    · next equal => rw [← compare_eq_iff_eq.1 equal, absent]; rfl
    · rfl
  cases stored : table.rooms[message.roomid]? with
  | none =>
      simp only [client?, stored, Option.bind_none]
      simp only [handleRead]
      congr 1
      ext key : 1
      simp only [ExtTreeMap.getElem?_modify]
      split
      · next equal => rw [← compare_eq_iff_eq.1 equal, stored]; rfl
      · rfl
  | some room =>
      have renewed : table.handleRead message =
          table.setRoom message.roomid (room.handleRead message) := by
        simp only [handleRead, setRoom]
        congr 1
        ext key : 1
        simp only [ExtTreeMap.getElem?_modify, ExtTreeMap.getElem?_insert]
        split
        · next equal =>
            rw [stored]
            rfl
        · rfl
      rw [renewed, room_of_found stored, client?_of_found stored]
      cases found : room.clients[message.clientid]? with
      | some client => rw [modified found]
      | none =>
          rw [untouched found]
          simp only [setRoom]
          cases table
          congr 1
          ext key : 1
          simp only [ExtTreeMap.getElem?_insert]
          split
          · next equal => rw [← compare_eq_iff_eq.1 equal, stored]
          · rfl

/-- The walk over rooms and their clients finds a client with a property, if
there is one. -/
theorem find_client
    (table : RoomTable)
    (order : VisitOrder)
    (wanted : Client -> Bool) :
    ((table.walk order).find? (fun entry =>
          ((entry.2.walk order).find? fun inner => wanted inner.2).isSome) =
        none ∧
      ∀ roomId clientId client,
        table.client? roomId clientId = some client ->
          wanted client = false) ∨
    ∃ roomId room clientId client,
      (table.walk order).find? (fun entry =>
          ((entry.2.walk order).find? fun inner => wanted inner.2).isSome) =
        some (roomId, room) ∧
      table.rooms[roomId]? = some room ∧
      (room.walk order).find? (fun inner => wanted inner.2) =
        some (clientId, client) ∧
      room.clients[clientId]? = some client ∧ wanted client = true := by
  cases found : (table.walk order).find? (fun entry =>
      ((entry.2.walk order).find? fun inner => wanted inner.2).isSome) with
  | none =>
      refine .inl ⟨rfl, fun roomId clientId client present => ?_⟩
      obtain ⟨room, stored, inside⟩ := Option.bind_eq_some_iff.1 present
      have listed : (roomId, room) ∈ table.walk order := by
        rw [walk, HashOrder.mem_visit]
        exact ExtTreeMap.mem_toList_iff_getElem?_eq_some.2 stored
      have rejected := List.find?_eq_none.1 found _ listed
      simp only [Option.not_isSome_iff_eq_none] at rejected
      have member : (clientId, client) ∈ room.walk order := by
        rw [Room.walk, HashOrder.mem_visit]
        exact ExtTreeMap.mem_toList_iff_getElem?_eq_some.2 inside
      simpa using List.find?_eq_none.1 rejected _ member
  | some entry =>
      obtain ⟨roomId, room⟩ := entry
      have listed := List.mem_of_find?_eq_some found
      rw [walk, HashOrder.mem_visit] at listed
      have hit := List.find?_some found
      obtain ⟨⟨clientId, client⟩, met⟩ := Option.isSome_iff_exists.1 hit
      have member := List.mem_of_find?_eq_some met
      rw [Room.walk, HashOrder.mem_visit] at member
      exact .inr ⟨roomId, room, clientId, client, rfl,
        ExtTreeMap.mem_toList_iff_getElem?_eq_some.1 listed, met,
        ExtTreeMap.mem_toList_iff_getElem?_eq_some.1 member,
        by simpa using List.find?_some met⟩

/-- Store a client of a room that the table has. -/
def setClient
    (table : RoomTable)
    (roomId : RoomId)
    (clientId : ClientId)
    (client : Client) : RoomTable :=
  table.setRoom roomId ((table.room roomId).setClient clientId client)

theorem client?_setClient
    (table : RoomTable)
    (roomId key : RoomId)
    (clientId other : ClientId)
    (client : Client) :
    (table.setClient roomId clientId client).client? key other =
      if roomId = key ∧ clientId = other then some client
      else table.client? key other := by
  rw [setClient, client?_setRoom]
  by_cases here : roomId = key
  · subst here
    simp only [if_true, true_and, Room.setClient_getElem?, room_client?]
  · simp [here]

/-- Taking a message from the sockets takes the first one of some client, or
there is none. -/
theorem pollRead_cases
    (table : RoomTable)
    (order : VisitOrder) :
    (table.pollRead order = (none, table) ∧
      ∀ roomId clientId client,
        table.client? roomId clientId = some client -> client.reads = []) ∨
    ∃ roomId clientId client message rest,
      table.client? roomId clientId = some client ∧
      client.reads = message :: rest ∧
      table.pollRead order = (some message,
        table.setClient roomId clientId { client with reads := rest }) := by
  have surfaced : ∀ room : Room, (room.pollRead order).1.isSome =
      ((room.walk order).find?
        fun inner => inner.2.pollRead.1.isSome).isSome := by
    intro room
    unfold Room.pollRead
    split
    · next nothing => rw [nothing]; rfl
    · next met => rw [met, List.find?_some met]; rfl
  unfold RoomTable.pollRead
  simp only [surfaced]
  rcases table.find_client order (fun client => client.pollRead.1.isSome) with
    ⟨nothing, idle⟩ | ⟨roomId, room, clientId, client, first, stored, met,
      inside, hit⟩
  · rw [nothing]
    refine .inl ⟨rfl, fun roomId clientId client found => ?_⟩
    simpa [Client.pollRead] using idle roomId clientId client found
  · rw [first]
    cases reads : client.reads with
    | nil => simp [Client.pollRead, reads] at hit
    | cons message rest =>
        refine .inr ⟨roomId, clientId, client, message, rest,
          (client?_of_found stored clientId).trans inside, reads, ?_⟩
        simp only [Room.pollRead, met, setClient, room_of_found stored]
        simp [Client.pollRead, reads]

/-- Taking a message for the sockets takes the first one of some client, or
there is none. -/
theorem pollWrite_cases
    (table : RoomTable)
    (order : VisitOrder) :
    (table.pollWrite order = (none, table) ∧
      ∀ roomId clientId client,
        table.client? roomId clientId = some client -> client.writes = []) ∨
    ∃ roomId clientId client message rest,
      table.client? roomId clientId = some client ∧
      client.writes = message :: rest ∧
      table.pollWrite order = (some message,
        table.setClient roomId clientId { client with writes := rest }) := by
  have surfaced : ∀ room : Room, (room.pollWrite order).1.isSome =
      ((room.walk order).find?
        fun inner => inner.2.pollWrite.1.isSome).isSome := by
    intro room
    unfold Room.pollWrite
    split
    · next nothing => rw [nothing]; rfl
    · next met => rw [met, List.find?_some met]; rfl
  unfold RoomTable.pollWrite
  simp only [surfaced]
  rcases table.find_client order (fun client => client.pollWrite.1.isSome) with
    ⟨nothing, idle⟩ | ⟨roomId, room, clientId, client, first, stored, met,
      inside, hit⟩
  · rw [nothing]
    refine .inl ⟨rfl, fun roomId clientId client found => ?_⟩
    simpa [Client.pollWrite] using idle roomId clientId client found
  · rw [first]
    cases writes : client.writes with
    | nil => simp [Client.pollWrite, writes] at hit
    | cons message rest =>
        refine .inr ⟨roomId, clientId, client, message, rest,
          (client?_of_found stored clientId).trans inside, writes, ?_⟩
        simp only [Room.pollWrite, met, setClient, room_of_found stored]
        simp [Client.pollWrite, writes]

namespace Steady

variable {table : RoomTable}

/-- A stored client changes its queues. -/
theorem setClient
    (sound : table.Sound)
    {roomId : RoomId}
    {clientId : ClientId}
    {client after : Client}
    (found : table.client? roomId clientId = some client)
    (kept : after.Sound roomId clientId)
    (same : after.registered = client.registered) :
    table.Steady (table.setClient roomId clientId after) := by
  have hands : (table.room roomId).Hands 0 clientId client :=
    .stored ((table.room_client? roomId clientId).trans found)
  refine setRoom sound ⟨(sound.room roomId).1.setClient hands ?_, rfl⟩
    (.setClient (fun _ _ _ => rfl) hands after same)
  rw [(sound.room roomId).2]
  exact kept

theorem handleRead
    (sound : table.Sound)
    (message : Message) :
    table.Steady (table.handleRead message) := by
  rw [handleRead_eq]
  split
  · exact refl sound
  · next client found =>
      exact setClient sound found
        ((sound.client found).of_same rfl rfl rfl rfl rfl) rfl

theorem pollRead
    (sound : table.Sound)
    (order : VisitOrder) :
    table.Steady (table.pollRead order).2 := by
  rcases table.pollRead_cases order with ⟨same, -⟩ |
    ⟨roomId, clientId, client, message, rest, found, -, taken⟩
  · rw [same]
    exact refl sound
  · rw [taken]
    exact setClient sound found
      ((sound.client found).of_same rfl rfl rfl rfl rfl) rfl

theorem pollWrite
    (sound : table.Sound)
    (order : VisitOrder) :
    table.Steady (table.pollWrite order).2 := by
  rcases table.pollWrite_cases order with ⟨same, -⟩ |
    ⟨roomId, clientId, client, message, rest, found, -, taken⟩
  · rw [same]
    exact refl sound
  · rw [taken]
    exact setClient sound found
      ((sound.client found).of_same rfl rfl rfl rfl rfl) rfl

end Steady

/-- A registration fails without a change, or registers its client. -/
theorem Sound.registered_register
    {table : RoomTable}
    (sound : table.Sound)
    (order : VisitOrder)
    (now : Instant)
    (target : RoomId)
    (clientId : ClientId) :
    ((∃ error, (table.register order now target clientId).1 = .error error) ∧
        table.Steady (table.register order now target clientId).2) ∨
      (table.register order now target clientId).1 = .ok () ∧
        ¬table.Registered target clientId ∧
        (table.register order now target clientId).2.Sound ∧
        ∀ roomId other,
          (table.register order now target clientId).2.Registered roomId
              other ↔
            (roomId = target ∧ other = clientId) ∨
              table.Registered roomId other := by
  have kept := sound.update ((sound.room target).1.register order now clientId)
  rcases (sound.room target).1.register_cases order now clientId with
    ⟨error, failed⟩ | ⟨client, hands, unbound, done⟩
  · refine .inl ⟨⟨error, by rw [register, failed]⟩, ?_⟩
    rw [register, failed]
    exact .setRoom sound ⟨(sound.room target).1, rfl⟩ .refl
  have free : ¬table.Registered target clientId := by
    rintro ⟨stored, found, registered⟩
    rw [← room_client?] at found
    cases hands with
    | stored present =>
        obtain rfl : stored = client := by simpa [found] using present
        simp [unbound] at registered
    | created absent => simp [found] at absent
  have bind : ∀ key (after : Room),
      (∀ key found, key ≠ clientId -> after.clients[key]? = some found ->
        ∃ before, (table.room target).clients[key]? = some before ∧
          before.registered = found.registered) ->
      (∀ key found, key ≠ clientId ->
        (table.room target).clients[key]? = some found ->
        ∃ stays : Client, after.clients[key]? = some stays ∧
          stays.registered = found.registered) ->
      (∃ bound : Client, after.clients[clientId]? = some bound ∧
        bound.registered = true) ->
      ((∃ found, after.clients[key]? = some found ∧
          found.registered = true) ↔
        key = clientId ∨ table.Registered target key) := by
    intro key after backward forward own
    by_cases same : key = clientId
    · subst same
      exact ⟨fun _ => .inl rfl, fun _ => own⟩
    · constructor
      · rintro ⟨found, present, registered⟩
        obtain ⟨before, stored, kept⟩ := backward _ _ same present
        exact .inr ⟨before, (table.room_client? _ _).symm.trans stored,
          kept.trans registered⟩
      · rintro (equal | ⟨found, present, registered⟩)
        · exact absurd equal same
        · obtain ⟨stays, stored, kept⟩ := forward _ _ same
            ((table.room_client? _ _).trans present)
          exact ⟨stays, stored, kept.trans registered⟩
  have spread : ∀ after : Room,
      (∀ key, ((∃ found, after.clients[key]? = some found ∧
          found.registered = true) ↔
        key = clientId ∨ table.Registered target key)) ->
      ∀ roomId other, (table.setRoom target after).Registered roomId other ↔
        (roomId = target ∧ other = clientId) ∨
          table.Registered roomId other := by
    intro after inside roomId other
    rw [Registered, client?_setRoom]
    by_cases here : target = roomId
    · subst here
      simp only [if_true, true_and]
      exact inside other
    · simp only [if_neg here, Ne.symm here, false_and, false_or]
      exact Iff.rfl
  rcases done with ⟨alone, done⟩ | ⟨otherId, other, beside, stored, done⟩
  · refine .inr ⟨by rw [register, done], free, kept, ?_⟩
    rw [register, done]
    refine spread _ fun key => bind key _ (fun key found away present => ?_)
      (fun key found away present => ?_)
      ⟨_, Room.setClient_stored .., rfl⟩
    · rw [Room.setClient_beside _ _ (Ne.symm away)] at present
      exact ⟨found, present, rfl⟩
    · exact ⟨found, (Room.setClient_beside _ _ (Ne.symm away)).trans present,
        rfl⟩
  · refine .inr ⟨by rw [register, done], free, kept, ?_⟩
    rw [register, done]
    refine spread _ fun key => bind key _ (fun key found away present => ?_)
      (fun key found away present => ?_)
      ⟨_, Room.setClient_stored .., rfl⟩
    · rw [Room.setClient_beside _ _ (Ne.symm away),
        Room.setClient_getElem?] at present
      split at present
      · next equal =>
          cases equal
          cases present
          exact ⟨other, stored, rfl⟩
      · rw [Room.setClient_beside _ _ (Ne.symm away)] at present
        exact ⟨found, present, rfl⟩
    · rw [Room.setClient_beside _ _ (Ne.symm away), Room.setClient_getElem?]
      split
      · next equal =>
          cases equal
          obtain rfl : other = found := by simpa [stored] using present
          exact ⟨_, rfl, rfl⟩
      · exact ⟨found,
          (Room.setClient_beside _ _ (Ne.symm away)).trans present, rfl⟩

/-- A client that leaves is registered no longer; nobody else changes. -/
theorem registered_leave
    (table : RoomTable)
    (target roomId : RoomId)
    (clientId other : ClientId) :
    (table.leave target clientId).Registered roomId other ↔
      ¬(roomId = target ∧ other = clientId) ∧
        table.Registered roomId other := by
  rw [Registered, leave, client?_remove]
  by_cases here : roomId = target
  · subst here
    by_cases own : other = clientId
    · simp [own]
    · simp only [if_true, own, if_false, and_false, not_false_eq_true,
        true_and, Registered]
      split
      · constructor
        · rintro ⟨client, found, registered⟩
          obtain ⟨before, stored, rfl⟩ := Option.map_eq_some_iff.1 found
          exact ⟨before, stored, registered⟩
        · rintro ⟨client, found, registered⟩
          exact ⟨client.setInitiator true, by rw [found]; rfl, registered⟩
      · exact Iff.rfl
  · simp [here, Registered]

/-- A client that is deregistered is registered no longer; nobody else
changes. -/
theorem Sound.registered_deregister
    {table : RoomTable}
    (sound : table.Sound)
    (now : Instant)
    (target roomId : RoomId)
    (clientId other : ClientId) :
    (table.deregister now target clientId).Sound ∧
    ((table.deregister now target clientId).Registered roomId other ↔
      ¬(roomId = target ∧ other = clientId) ∧
        table.Registered roomId other) := by
  refine ⟨sound.step ⟨.deregister now target clientId, .sorted⟩, ?_⟩
  unfold deregister
  cases stored : table.rooms[target]? with
  | none =>
      refine ⟨fun registered => ⟨?_, registered⟩, fun both => both.2⟩
      rintro ⟨rfl, rfl⟩
      obtain ⟨client, found, -⟩ := registered
      simp [client?, stored] at found
  | some room =>
      rw [Registered, client?_setRoom]
      by_cases here : target = roomId
      · subst here
        rw [if_pos rfl, room.deregister_getElem?, Registered,
          client?_of_found stored]
        constructor
        · rintro ⟨client, found, registered⟩
          obtain ⟨before, present, rfl⟩ := Option.map_eq_some_iff.1 found
          split at registered
          · simp at registered
          · next kept =>
              refine ⟨?_, before, present, registered⟩
              rintro ⟨-, rfl⟩
              exact kept ⟨rfl, registered⟩
        · rintro ⟨away, client, found, registered⟩
          rw [found]
          refine ⟨_, rfl, ?_⟩
          have other : ¬(other = clientId) := fun equal => away ⟨rfl, equal⟩
          simpa [other] using registered
      · simp only [if_neg here, Ne.symm here, false_and, not_false_eq_true,
          true_and]
        exact Iff.rfl

/-- A sweep keeps every registered client, and registers nobody. -/
theorem Sound.registered_handleTimeout
    {table : RoomTable}
    (sound : table.Sound)
    (order : VisitOrder)
    (now : Instant) :
    table.Steady (table.handleTimeout order now) where
  sound := sound.handleTimeout order now
  registered := by
    intro roomId clientId
    rw [Registered, client?_handleTimeout, Registered, client?]
    cases stored : table.rooms[roomId]? with
    | none => simp
    | some room =>
        have swept := (sound roomId room stored).1.handleTimeout_getElem? order
          now clientId
        simp only [Option.bind_some]
        by_cases expires : room.Expires now
        · rw [swept.2 expires]
          constructor
          · rintro ⟨client, found, registered⟩
            obtain ⟨before, present, kept⟩ := Option.bind_eq_some_iff.1 found
            split at kept
            · cases kept
            · cases kept
              exact ⟨before, present, registered⟩
          · rintro ⟨client, found, registered⟩
            have spared : ¬client.Due now := by
              rintro ⟨unset, -⟩
              simp [registered] at unset
            exact ⟨client.setInitiator true, by simp [found, spared],
              registered⟩
        · rw [swept.1 expires]

end RoomTable
end V1
end Signaling
