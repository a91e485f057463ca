import Signaling.Collider.Connections
import Signaling.Support.MapValues

/-!
# What the agreement of the V1 maps gives

Counting registered clients counts sessions, a timeout spares every client with
a live connection, and the end of a superseded connection deregisters nobody.
-/

namespace Signaling

open Std (ExtTreeMap)

/-- The session of a registered V1 client. -/
def Session.v1? : Session -> Option V1.ClientKey
  | .registeredV1 roomid clientid => some (roomid, clientid)
  | .registeredV2 .. => none
  | .connected => none

@[simp] theorem Session.v1?_eq_some
    {session : Session}
    {key : V1.ClientKey} :
    session.v1? = some key ↔ session = .registeredV1 key.1 key.2 := by
  obtain ⟨roomid, clientid⟩ := key
  cases session <;> simp [v1?]

namespace V1.RoomTable

/-- The registered clients of the rooms. -/
def registeredKeys (table : RoomTable) : List V1.ClientKey :=
  table.rooms.toList.flatMap fun entry =>
    (entry.2.clients.toList.filter fun inner => inner.2.registered).map
      fun inner => (entry.1, inner.1)

theorem mem_registeredKeys
    {table : RoomTable}
    {roomId : V1.RoomId}
    {clientId : V1.ClientId} :
    (roomId, clientId) ∈ table.registeredKeys ↔
      table.Registered roomId clientId := by
  simp only [registeredKeys, List.mem_flatMap, List.mem_map, List.mem_filter,
    Prod.exists, Prod.mk.injEq, ExtTreeMap.mem_toList_iff_getElem?_eq_some,
    Registered, client?]
  constructor
  · rintro ⟨key, room, stored, inner, client, ⟨found, registered⟩, rfl, rfl⟩
    exact ⟨client, by simp [stored, found], registered⟩
  · rintro ⟨client, found, registered⟩
    obtain ⟨room, stored, inside⟩ := Option.bind_eq_some_iff.1 found
    exact ⟨roomId, room, stored, clientId, client, ⟨inside, registered⟩, rfl,
      rfl⟩

theorem nodup_registeredKeys (table : RoomTable) :
    table.registeredKeys.Nodup := by
  refine List.nodup_flatMap.2 ⟨fun entry _ => ?_, ?_⟩
  · refine List.Nodup.of_map Prod.snd ?_
    rw [List.map_map]
    have distinct : (entry.2.clients.toList.map Prod.fst).Nodup := by
      rw [ExtTreeMap.map_fst_toList_eq_keys]
      exact ExtTreeMap.nodup_keys
    exact distinct.sublist (List.filter_sublist.map Prod.fst)
  · have distinct : table.rooms.toList.Pairwise fun left right =>
        left.1 ≠ right.1 := by
      rw [← List.pairwise_map, ExtTreeMap.map_fst_toList_eq_keys]
      exact ExtTreeMap.nodup_keys
    refine distinct.imp fun {left right} apart key first second => ?_
    obtain ⟨_, -, rfl⟩ := List.mem_map.1 first
    obtain ⟨_, -, same⟩ := List.mem_map.1 second
    exact apart (congrArg Prod.fst same).symm

/-- The count of registered clients is the length of their listing. -/
theorem wsCount_eq (table : RoomTable) :
    table.wsCount = table.registeredKeys.length := by
  rw [wsCount, values_eq_map_toList, List.map_map, registeredKeys,
    List.length_flatMap]
  congr 1
  refine List.map_congr_left fun entry _ => ?_
  simp only [Function.comp_apply, Room.wsCount, values_eq_map_toList,
    List.length_map, List.countP_eq_length_filter]
  rw [List.filter_map, List.length_map]
  rfl

end V1.RoomTable

namespace Collider

/-- The keys of the registered V1 sessions. -/
def sessionKeys (collider : Collider) : List V1.ClientKey :=
  collider.sessions.toList.filterMap fun entry => entry.2.v1?

theorem Bound.mem_sessionKeys
    {collider : Collider}
    (bound : collider.Bound)
    {roomid : V1.RoomId}
    {clientid : V1.ClientId} :
    (roomid, clientid) ∈ collider.sessionKeys ↔
      collider.rooms.Registered roomid clientid := by
  rw [← bound.registered]
  simp only [sessionKeys, List.mem_filterMap, Prod.exists,
    ExtTreeMap.mem_toList_iff_getElem?_eq_some, Session.v1?_eq_some,
    bound.session]
  constructor
  · rintro ⟨connectionId, session, stored, rfl⟩
    exact ⟨connectionId, stored⟩
  · rintro ⟨connectionId, stored⟩
    exact ⟨connectionId, _, stored, rfl⟩

theorem Bound.nodup_sessionKeys
    {collider : Collider}
    (bound : collider.Bound) :
    collider.sessionKeys.Nodup := by
  have distinct := nodup_toList collider.sessions
  have injective : ∀ left ∈ collider.sessions.toList,
      ∀ right ∈ collider.sessions.toList, ∀ key,
      left.2.v1? = some key -> right.2.v1? = some key -> left = right := by
    rintro ⟨left, leftSession⟩ leftListed ⟨right, rightSession⟩ rightListed
      ⟨roomid, clientid⟩ leftKey rightKey
    simp only [Session.v1?_eq_some] at leftKey rightKey
    subst leftKey rightKey
    rw [ExtTreeMap.mem_toList_iff_getElem?_eq_some, ← bound.session]
      at leftListed rightListed
    rw [leftListed] at rightListed
    cases rightListed
    rfl
  rw [sessionKeys]
  exact List.pairwise_filterMap.2 (distinct.imp_of_mem
    fun {left right} leftListed rightListed apart key leftKey other
      rightKey same => by
        subst same
        exact apart (injective left leftListed right rightListed key leftKey
          rightKey))

/-- As many V1 clients are registered as sessions are. -/
theorem Bound.wsCount
    {collider : Collider}
    (bound : collider.Bound) :
    collider.rooms.wsCount =
      collider.sessions.values.countP fun session => session.v1?.isSome := by
  have perm : collider.rooms.registeredKeys.Perm collider.sessionKeys :=
    (List.perm_ext_iff_of_nodup collider.rooms.nodup_registeredKeys
      bound.nodup_sessionKeys).2 fun key => by
        rw [V1.RoomTable.mem_registeredKeys, bound.mem_sessionKeys]
  rw [V1.RoomTable.wsCount_eq, perm.length_eq, sessionKeys,
    values_eq_map_toList, List.countP_map, List.length_filterMap_eq_countP]
  rfl

/-- A disconnect changes the V1 client that the connection is bound to only. -/
theorem disconnect_spares
    {collider : Collider}
    {connectionId : ConnectionId}
    {roomid : V1.RoomId}
    {clientid : V1.ClientId}
    (other : collider.connections[(roomid, clientid)]? ≠ some connectionId)
    (now : Instant) :
    (collider.disconnect connectionId now).rooms.client? roomid clientid =
      collider.rooms.client? roomid clientid := by
  unfold disconnect
  split
  · rfl
  split
  · next ended endedClient _ =>
      simp only
      split
      · next held =>
          have apart : ¬(roomid = ended ∧ clientid = endedClient) := by
            rintro ⟨rfl, rfl⟩
            exact other held
          simp only [V1.RoomTable.deregister]
          split
          · rfl
          · next room stored =>
              rw [V1.RoomTable.client?_setRoom]
              split
              · next here =>
                  subst here
                  have away : ¬(clientid = endedClient) :=
                    fun equal => apart ⟨rfl, equal⟩
                  rw [V1.Room.deregister_getElem?,
                    V1.RoomTable.client?_of_found stored]
                  cases room.clients[clientid]? <;> simp [away]
              · rfl
      · rfl
  · simp only
    split
    · rw [(Aside.drainV2Actions _).rooms]
    · rfl
  · rfl

/-- In every run of the collider in which a connection opens at most once and
before its other inputs, the V1 sessions, connections and rooms agree in every
state. -/
theorem v1_maps_agree
    {decode : String -> Except String WsClientMsg}
    {registerTimeout : Duration}
    {history : History}
    {collider : Collider}
    (run : (machine decode registerTimeout).Run history collider)
    (introduced : Introduced history) :
    (∀ (roomid : V1.RoomId) (clientid : V1.ClientId)
        (connectionId : ConnectionId),
      collider.connections[(roomid, clientid)]? = some connectionId ↔
        collider.sessions[connectionId]? =
          some (.registeredV1 roomid clientid)) ∧
    (∀ (roomid : V1.RoomId) (clientid : V1.ClientId),
      (∃ connectionId,
          collider.connections[(roomid, clientid)]? = some connectionId) ↔
        ∃ client, collider.rooms.client? roomid clientid = some client ∧
          client.registered = true) ∧
    (∀ (first second : V1.ClientKey) (connectionId : ConnectionId),
      collider.connections[first]? = some connectionId ->
      collider.connections[second]? = some connectionId ->
      first = second) ∧
    (∀ order now (roomid : V1.RoomId) (clientid : V1.ClientId)
        (connectionId : ConnectionId),
      collider.connections[(roomid, clientid)]? = some connectionId ->
      ∃ client, (collider.handleTimeout order now).rooms.client? roomid
        clientid = some client ∧ client.registered = true) ∧
    (∀ connectionId now (roomid : V1.RoomId) (clientid : V1.ClientId),
      collider.connections[(roomid, clientid)]? ≠ some connectionId ->
      (collider.disconnect connectionId now).rooms.client? roomid clientid =
        collider.rooms.client? roomid clientid) ∧
    collider.rooms.wsCount =
      collider.sessions.values.countP fun session => session.v1?.isSome := by
  have bound := (bound_of_run run introduced).1
  refine ⟨bound.session, bound.registered, ?_, ?_,
    fun connectionId now roomid clientid other => disconnect_spares other now,
    bound.wsCount⟩
  · rintro ⟨firstRoom, firstClient⟩ ⟨secondRoom, secondClient⟩ connectionId
      first second
    rw [bound.session] at first second
    rw [first] at second
    cases second
    rfl
  · intro order now roomid clientid connectionId held
    have registered := (bound.registered roomid clientid).1 ⟨_, held⟩
    have spared := ((bound.rooms.registered_handleTimeout order.v1
      now).registered roomid clientid).2 registered
    have same : (collider.handleTimeout order now).rooms =
        collider.rooms.handleTimeout order.v1 now := by
      unfold Collider.handleTimeout
      rw [(Aside.drainV2Actions _).rooms,
        (Aside.foldl Aside.pushPromotion _ _).rooms]
    rw [same]
    exact spared

/-- Every frame of a browser registers the first client of a room. -/
def registerFrame (_ : String) : Except String WsClientMsg :=
  .ok ⟨"register", "room", "first", "", none, "", none⟩

/-- A client registers on a connection that has opened. -/
theorem v1_maps_agree_registered :
    (played registerFrame 10 [.handleRead (.connected 1),
        .handleRead (.text 1 "" 0)]).2.sessions[1]? =
      some (.registeredV1 "room" "first") := by
  have held : (played registerFrame 10 [.handleRead (.connected 1),
      .handleRead (.text 1 "" 0)]).2.connections[("room", "first")]? =
        some 1 := by decide +kernel
  refine ((v1_maps_agree (played_run registerFrame 10
    [.handleRead (.connected 1), .handleRead (.text 1 "" 0)])
    ⟨fun _ opens => ?_, fun _ _ _ listed => ?_, trivial⟩).1 "room" "first"
      1).1 held
  · cases opens
  · cases listed

end Collider
end Signaling
