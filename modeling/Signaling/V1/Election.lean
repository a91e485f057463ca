import Signaling.V1.Lookup

/-!
# The initiator of a V1 room

The first client that joins is elected, and a removal elects the survivor. So
a room whose clients all joined has one initiator, as long as no join in
loopback mode clears the flag of a loopback peer that is alone.
-/

namespace Signaling
namespace V1

open Std (ExtTreeMap)

/-- The operation is a join of the room. -/
def Operation.Joins (operation : Operation) (roomId : RoomId) : Prop :=
  match operation with
  | .join _ joined _ _ => joined = roomId
  | _ => False

instance (operation : Operation) (roomId : RoomId) :
    Decidable (operation.Joins roomId) := by
  unfold Operation.Joins
  split <;> infer_instance

/-- The client's present stay in the room began with a join of the room, its own
one or the one that added it as the loopback peer. -/
def EnteredThroughJoin :
    History -> RoomId -> ClientId -> Prop
  | [], _, _ => False
  | (table, call) :: older, roomId, clientId =>
      if (table.client? roomId clientId).isSome then
        EnteredThroughJoin older roomId clientId
      else call.operation.Joins roomId

instance decidableEntered :
    (history : History) -> (roomId : RoomId) -> (clientId : ClientId) ->
      Decidable (EnteredThroughJoin history roomId clientId)
  | [], _, _ => .isFalse id
  | (table, call) :: older, roomId, clientId =>
      have := decidableEntered older roomId clientId
      inferInstanceAs (Decidable (
        if (table.client? roomId clientId).isSome then
          EnteredThroughJoin older roomId clientId
        else call.operation.Joins roomId))

/-- The operation is a join in loopback mode that clears the flag of the client
just elected, or of the only client: a loopback peer that joined. -/
def Demotes
    (older : History)
    (table : RoomTable) : Operation -> Prop
  | .join _ roomId clientId true =>
      if clientId = loopbackClientId then
        (table.room roomId).clients.isEmpty = true
      else
        (table.room roomId).clients.size = 1 ∧
          loopbackClientId ∈ (table.room roomId).clients ∧
            EnteredThroughJoin older roomId loopbackClientId
  | _ => False

/-- No step of the history demotes an elected client. -/
def Undemoted : History -> Prop
  | [] => True
  | (table, call) :: older =>
      ¬Demotes older table call.operation ∧ Undemoted older

theorem Room.Sound.register_keepsFlags
    {room : Room}
    (sound : room.Sound)
    (order : VisitOrder)
    (now : Instant)
    (clientId : ClientId) :
    room.Keeps Client.isInitiator (room.register order now clientId).2 := by
  have fresh : ∀ id roomId timeout,
      (Client.new id roomId timeout).isInitiator = false := fun _ _ _ => rfl
  rcases sound.register_cases order now clientId with ⟨error, failed⟩ |
    ⟨client, hands, -, ⟨-, done⟩ | ⟨otherId, other, beside, found, done⟩⟩
  · rw [failed]
    exact .refl
  · rw [done]
    exact .setClient fresh hands client.bind rfl
  · rw [done]
    have otherHands :
        (room.setClient clientId client.bind).Hands now otherId other :=
      .stored ((room.setClient_beside _ (Ne.symm beside)).trans found)
    have clientHands : ((room.setClient clientId client.bind).setClient otherId
        other.drained).Hands now clientId client.bind := by
      refine .stored ?_
      rw [Room.setClient_beside _ _ beside, Room.setClient_stored]
    exact ((Room.Keeps.setClient fresh hands client.bind rfl).trans
      (.setClient fresh otherHands other.drained rfl)).trans
        (.setClient fresh clientHands (client.bind.deliver other.msgs) rfl)

theorem Room.deregister_keepsFlags
    (room : Room)
    (now : Instant)
    (clientId : ClientId) :
    room.Keeps Client.isInitiator (room.deregister now clientId).2 where
  backward := by
    intro key client found
    rw [deregister_getElem?] at found
    obtain ⟨before, stored, rfl⟩ := Option.map_eq_some_iff.1 found
    refine .inl ⟨before, stored, ?_⟩
    split <;> rfl
  forward := by
    intro key client found
    rw [deregister_getElem?, found]
    refine ⟨_, rfl, ?_⟩
    simp only
    split <;> rfl

theorem Undemoted.taken
    {newer older : History}
    {table : RoomTable}
    {call : Call}
    (undemoted : Undemoted (newer ++ (table, call) :: older)) :
    ¬Demotes older table call.operation := by
  induction newer with
  | nil => exact undemoted.1
  | cons event newer inductionHypothesis =>
      exact inductionHypothesis undemoted.2

/-- At most one client of the room is the initiator, and one is when all
joined. -/
structure Elected
    (history : History)
    (table : RoomTable)
    (roomId : RoomId) : Prop where
  unique : ∀ left right first second,
    table.client? roomId left = some first ->
    table.client? roomId right = some second ->
    first.isInitiator = true -> second.isInitiator = true ->
    left = right
  elected : ∀ clientId client,
    table.client? roomId clientId = some client ->
    (∀ other present, table.client? roomId other = some present ->
      EnteredThroughJoin history roomId other) ->
    ∃ initiator chosen, table.client? roomId initiator = some chosen ∧
      chosen.isInitiator = true

theorem entered_of_present
    {table : RoomTable}
    {call : Call}
    {older : History}
    {roomId : RoomId}
    {clientId : ClientId}
    {client : Client}
    (present : table.client? roomId clientId = some client) :
    EnteredThroughJoin ((table, call) :: older) roomId clientId ↔
      EnteredThroughJoin older roomId clientId := by
  simp [EnteredThroughJoin, present]

theorem entered_of_absent
    {table : RoomTable}
    {call : Call}
    {older : History}
    {roomId : RoomId}
    {clientId : ClientId}
    (absent : table.client? roomId clientId = none) :
    EnteredThroughJoin ((table, call) :: older) roomId clientId ↔
      call.operation.Joins roomId := by
  simp [EnteredThroughJoin, absent]

namespace Elected

variable
  {older : History}
  {table after : RoomTable}
  {call : Call}
  {roomId : RoomId}

/-- A step that keeps the flags of the room, and adds at most a client that does
not join, keeps the election. -/
theorem of_kept
    (elected : Elected older table roomId)
    (backward : ∀ clientId client,
      after.client? roomId clientId = some client ->
      (∃ before, table.client? roomId clientId = some before ∧
        before.isInitiator = client.isInitiator) ∨
      table.client? roomId clientId = none ∧ client.isInitiator = false ∧
        ¬call.operation.Joins roomId)
    (forward : ∀ clientId client,
      table.client? roomId clientId = some client ->
      ∃ kept, after.client? roomId clientId = some kept ∧
        kept.isInitiator = client.isInitiator) :
    Elected ((table, call) :: older) after roomId where
  unique := by
    intro left right first second leftFound rightFound leftFlag rightFlag
    rcases backward _ _ leftFound with ⟨firstBefore, leftStored, leftSame⟩ |
      ⟨-, cleared, -⟩
    · rcases backward _ _ rightFound with
        ⟨secondBefore, rightStored, rightSame⟩ | ⟨-, cleared, -⟩
      · exact elected.unique _ _ _ _ leftStored rightStored
          (leftSame.trans leftFlag) (rightSame.trans rightFlag)
      · simp [cleared] at rightFlag
    · simp [cleared] at leftFlag
  elected := by
    intro clientId client found entered
    rcases backward _ _ found with ⟨before, stored, -⟩ | ⟨absent, -, strange⟩
    · obtain ⟨initiator, chosen, present, flag⟩ :=
        elected.elected _ _ stored fun other earlier present => by
          obtain ⟨kept, stays, -⟩ := forward _ _ present
          exact (entered_of_present present).1 (entered _ _ stays)
      obtain ⟨kept, stays, same⟩ := forward _ _ present
      exact ⟨initiator, kept, stays, same.trans flag⟩
    · exact absurd ((entered_of_absent absent).1 (entered _ _ found)) strange

/-- A step that does not touch the room keeps the election. -/
theorem of_same
    (elected : Elected older table roomId)
    (same : ∀ clientId,
      after.client? roomId clientId = table.client? roomId clientId) :
    Elected ((table, call) :: older) after roomId :=
  elected.of_kept
    (fun clientId client found =>
      .inl ⟨client, (same clientId).symm.trans found, rfl⟩)
    (fun clientId client found =>
      ⟨client, (same clientId).trans found, rfl⟩)

/-- A removal elects the survivor. -/
theorem of_survivor
    (promoted : ∀ clientId client,
      after.client? roomId clientId = some client ->
        client.isInitiator = true)
    (alone : ∀ left right first second,
      after.client? roomId left = some first ->
      after.client? roomId right = some second ->
      left = right) :
    Elected ((table, call) :: older) after roomId where
  unique := fun left right first second leftFound rightFound _ _ =>
    alone left right first second leftFound rightFound
  elected := fun clientId client found _ =>
    ⟨clientId, client, found, promoted _ _ found⟩

end Elected

variable
  {older : History}
  {table : RoomTable}
  {call : Call}
  {roomId : RoomId}

/-- An operation that keeps the flags of its room keeps the election of every
room. -/
theorem elected_setRoom
    (elected : ∀ roomId, Elected older table roomId)
    {target : RoomId}
    {room : Room}
    (strange : ¬call.operation.Joins target)
    (kept : (table.room target).Keeps Client.isInitiator room)
    (roomId : RoomId) :
    Elected ((table, call) :: older) (table.setRoom target room) roomId := by
  by_cases here : target = roomId
  · subst here
    refine (elected target).of_kept (fun clientId client found => ?_)
      (fun clientId client found => ?_)
    · rw [RoomTable.client?_setRoom, if_pos rfl] at found
      have before := kept.backward _ _ found
      simp only [RoomTable.room_client?] at before
      rcases before with kept | ⟨absent, cleared⟩
      · exact .inl kept
      · exact .inr ⟨absent, cleared, strange⟩
    · rw [RoomTable.client?_setRoom, if_pos rfl]
      exact kept.forward _ _ ((table.room_client? target clientId).trans found)
  · exact (elected roomId).of_same fun clientId => by
      rw [RoomTable.client?_setRoom, if_neg here]

/-- Leaving elects the survivor. -/
theorem elected_leave
    (sound : table.Sound)
    (elected : ∀ roomId, Elected older table roomId)
    (target : RoomId)
    (leaving : ClientId)
    (roomId : RoomId) :
    Elected ((table, call) :: older) (table.leave target leaving) roomId := by
  have lookup := fun clientId =>
    table.client?_remove target roomId leaving clientId
  by_cases here : roomId = target
  · subst here
    cases present : table.client? roomId leaving with
    | none =>
        refine (elected roomId).of_same fun clientId => ?_
        rw [RoomTable.leave, lookup, if_pos rfl, present]
        split
        · next equal => rw [equal, present]
        · rfl
    | some client =>
        simp only [present, if_true, Option.isSome_some] at lookup
        refine Elected.of_survivor (fun clientId client found => ?_)
          (fun left right first second leftFound rightFound => ?_)
        · rw [RoomTable.leave, lookup] at found
          split at found
          · cases found
          · obtain ⟨before, -, rfl⟩ := Option.map_eq_some_iff.1 found
            rfl
        · rw [RoomTable.leave, lookup] at leftFound rightFound
          split at leftFound
          · cases leftFound
          split at rightFound
          · cases rightFound
          next leftAway rightAway =>
            obtain ⟨before, leftStored, -⟩ :=
              Option.map_eq_some_iff.1 leftFound
            obtain ⟨other, rightStored, -⟩ :=
              Option.map_eq_some_iff.1 rightFound
            rw [← RoomTable.room_client?] at present leftStored rightStored
            exact eq_of_beside (sound.room roomId).1.space
              (mem_of_found present) (mem_of_found leftStored)
              (mem_of_found rightStored) leftAway rightAway
  · refine (elected roomId).of_same fun clientId => ?_
    rw [RoomTable.leave, lookup, if_neg here]

/-- An expiry elects the survivor. -/
theorem elected_handleTimeout
    (sound : table.Sound)
    (elected : ∀ roomId, Elected older table roomId)
    (now : Instant)
    (roomId : RoomId) :
    Elected ((table, call) :: older)
      (table.handleTimeout call.order now) roomId := by
  have lookup := fun clientId =>
    table.client?_handleTimeout call.order now roomId clientId
  cases found : table.rooms[roomId]? with
  | none =>
      refine (elected roomId).of_same fun clientId => ?_
      rw [lookup, found, RoomTable.client?, found]
      rfl
  | some room =>
      have stored := RoomTable.client?_of_found found
      have swept := fun clientId =>
        (sound roomId room found).1.handleTimeout_getElem? call.order now
          clientId
      simp only [found, Option.bind_some] at lookup
      by_cases expires : room.Expires now
      · have survivors : ∀ clientId client,
            (table.handleTimeout call.order now).client? roomId clientId =
              some client ->
            ∃ before, room.clients[clientId]? = some before ∧
              ¬before.Due now ∧ client = before.setInitiator true := by
          intro clientId client present
          rw [lookup, (swept clientId).2 expires] at present
          obtain ⟨before, stored, kept⟩ := Option.bind_eq_some_iff.1 present
          split at kept
          · cases kept
          · next spared =>
              cases kept
              exact ⟨before, stored, spared, rfl⟩
        obtain ⟨dueId, dueClient, dueFound, due⟩ := expires
        have away : ∀ clientId client,
            (table.handleTimeout call.order now).client? roomId clientId =
              some client -> clientId ≠ dueId := by
          rintro clientId client present rfl
          obtain ⟨before, stored, spared, -⟩ := survivors _ _ present
          obtain rfl : dueClient = before := by simpa [dueFound] using stored
          exact spared due
        refine Elected.of_survivor (fun clientId client present => ?_)
          (fun left right first second leftFound rightFound => ?_)
        · obtain ⟨before, -, -, rfl⟩ := survivors _ _ present
          rfl
        · obtain ⟨before, leftStored, -⟩ := survivors _ _ leftFound
          obtain ⟨other, rightStored, -⟩ := survivors _ _ rightFound
          exact eq_of_beside (sound roomId room found).1.space
            (mem_of_found dueFound) (mem_of_found leftStored)
            (mem_of_found rightStored) (away _ _ leftFound)
            (away _ _ rightFound)
      · refine (elected roomId).of_same fun clientId => ?_
        rw [lookup, (swept clientId).1 expires, stored]

/-- A join in loopback mode that is not harmful finds the loopback peer, if it
clears that peer's flag, in a room that does not owe its election to it. -/
theorem not_cleared
    {now : Instant}
    {target : RoomId}
    {clientId : ClientId}
    (undemoted : ¬Demotes older table (.join now target clientId true))
    (absent : (table.room target).clients[clientId]? = none)
    (spare : (table.room target).clients.size < maxRoomCapacity) :
    ((table.room target).clients.isEmpty = true ->
        clientId ≠ loopbackClientId) ∧
      ∀ peer, (table.room target).clients[loopbackClientId]? = some peer ->
        ¬EnteredThroughJoin older target loopbackClientId := by
  constructor
  · rintro empty rfl
    exact undemoted (by simpa [Demotes] using empty)
  · intro peer found entered
    have other : clientId ≠ loopbackClientId := by
      rintro rfl
      simp [absent] at found
    refine undemoted ?_
    have member := mem_of_found found
    have occupied : (table.room target).clients.size ≠ 0 := by
      intro zero
      rw [ExtTreeMap.eq_empty_iff_size_eq_zero.2 zero] at member
      exact ExtTreeMap.not_mem_empty member
    simp only [Demotes, if_neg other]
    simp only [maxRoomCapacity] at spare
    exact ⟨by omega, member, entered⟩

/-- What a lookup finds after a join that succeeded. -/
theorem found_of_join
    {room after : Room}
    {now : Instant}
    {clientId key : ClientId}
    {isLoopback : Bool}
    {client : Client}
    (joined : after = room.joinedBy now clientId ∨
      isLoopback = true ∧ ∃ peer,
        (room.joinedBy now clientId).Hands now loopbackClientId peer ∧
        after = (room.joinedBy now clientId).setClient loopbackClientId
          (peer.setInitiator false))
    (found : after.clients[key]? = some client)
    (flag : client.isInitiator = true) :
    clientId = key ∧ room.clients.isEmpty = true ∨
      ∃ before, room.clients[key]? = some before ∧
        before.isInitiator = true := by
  have base : ∀ client,
      (room.joinedBy now clientId).clients[key]? = some client ->
      client.isInitiator = true ->
      clientId = key ∧ room.clients.isEmpty = true ∨
        ∃ before, room.clients[key]? = some before ∧
          before.isInitiator = true := by
    intro client found flag
    rw [Room.joinedBy_getElem?] at found
    split at found
    · next equal =>
        cases found
        exact .inl ⟨equal, flag⟩
    · obtain ⟨before, stored, rfl⟩ := Option.map_eq_some_iff.1 found
      exact .inr ⟨before, stored, flag⟩
  rcases joined with rfl | ⟨-, peer, -, rfl⟩
  · exact base client found flag
  · rw [Room.setClient_getElem?] at found
    split at found
    · cases found
      simp at flag
    · exact base client found flag

/-- A lookup after a join that succeeded finds every client of before, with its
flag unless the loopback peer's was cleared. -/
theorem kept_of_join
    {room after : Room}
    {now : Instant}
    {clientId key : ClientId}
    {isLoopback : Bool}
    {client : Client}
    (absent : room.clients[clientId]? = none)
    (joined : after = room.joinedBy now clientId ∨
      isLoopback = true ∧ ∃ peer,
        (room.joinedBy now clientId).Hands now loopbackClientId peer ∧
        after = (room.joinedBy now clientId).setClient loopbackClientId
          (peer.setInitiator false))
    (found : room.clients[key]? = some client) :
    ∃ kept, after.clients[key]? = some kept ∧
      (kept.isInitiator = client.isInitiator ∨
        isLoopback = true ∧ key = loopbackClientId) := by
  have other : clientId ≠ key := by
    rintro rfl
    simp [absent] at found
  have base : (room.joinedBy now clientId).clients[key]? =
      some client.drained := by
    rw [Room.joinedBy_getElem?, if_neg other, found]
    rfl
  rcases joined with rfl | ⟨loopback, peer, -, rfl⟩
  · exact ⟨client.drained, base, .inl rfl⟩
  · rw [Room.setClient_getElem?]
    split
    · next equal => exact ⟨_, rfl, .inr ⟨loopback, equal.symm⟩⟩
    · exact ⟨client.drained, base, .inl rfl⟩

/-- The flag that a join returns is the one it stores. -/
theorem joiner_of_join
    {room after : Room}
    {now : Instant}
    {clientId : ClientId}
    {isLoopback : Bool}
    (joined : after = room.joinedBy now clientId ∨
      isLoopback = true ∧ ∃ peer,
        (room.joinedBy now clientId).Hands now loopbackClientId peer ∧
        after = (room.joinedBy now clientId).setClient loopbackClientId
          (peer.setInitiator false))
    (plain : isLoopback = true -> room.clients.isEmpty = true ->
      clientId ≠ loopbackClientId) :
    ∃ client, after.clients[clientId]? = some client ∧
      client.isInitiator = room.clients.isEmpty := by
  have base : (room.joinedBy now clientId).clients[clientId]? =
      some ((Client.new clientId room.id
        (some (now + room.registerTimeout))).setInitiator
          room.clients.isEmpty) := by
    rw [Room.joinedBy_getElem?, if_pos rfl]
  rcases joined with rfl | ⟨loopback, peer, -, rfl⟩
  · exact ⟨_, base, rfl⟩
  · rw [Room.setClient_getElem?]
    split
    · next equal =>
        refine ⟨_, rfl, ?_⟩
        cases empty : room.clients.isEmpty with
        | true => exact absurd equal.symm (plain loopback empty)
        | false => rfl
    · exact ⟨_, base, rfl⟩

/-- A join that does not demote keeps the election. -/
theorem elected_join
    (elected : ∀ roomId, Elected older table roomId)
    {now : Instant}
    {target : RoomId}
    {clientId : ClientId}
    {isLoopback : Bool}
    (operation : call.operation = .join now target clientId isLoopback)
    (undemoted : ¬Demotes older table call.operation)
    (roomId : RoomId) :
    Elected ((table, call) :: older)
      (table.join call.order now target clientId isLoopback).2 roomId := by
  have lookup := fun key => table.client?_setRoom target roomId
    ((table.room target).addClient call.order now clientId isLoopback).2 key
  rcases (table.room target).addClient_cases call.order now clientId
    isLoopback with ⟨error, failed⟩ | ⟨absent, spare, -, joined⟩
  · refine (elected roomId).of_same fun key => ?_
    rw [RoomTable.join, lookup, failed]
    split
    · next here => rw [RoomTable.room_client?, here]
    · rfl
  by_cases here : target = roomId
  swap
  · refine (elected roomId).of_same fun key => ?_
    rw [RoomTable.join, lookup, if_neg here]
  subst here
  simp only [if_true] at lookup
  have joins : call.operation.Joins target := by
    rw [operation]
    rfl
  -- what the guard says when the loopback branch ran
  have guard : isLoopback = true ->
      ((table.room target).clients.isEmpty = true ->
        clientId ≠ loopbackClientId) ∧
      ∀ peer, (table.room target).clients[loopbackClientId]? = some peer ->
        ¬EnteredThroughJoin older target loopbackClientId := by
    rintro rfl
    rw [operation] at undemoted
    exact not_cleared undemoted absent spare
  constructor
  · intro left right first second leftFound rightFound leftFlag rightFlag
    rw [RoomTable.join, lookup] at leftFound rightFound
    rcases found_of_join joined leftFound leftFlag with
      ⟨leftJoined, empty⟩ | ⟨leftBefore, leftStored, leftWas⟩
    · rcases found_of_join joined rightFound rightFlag with
        ⟨rightJoined, -⟩ | ⟨rightBefore, rightStored, -⟩
      · exact leftJoined.symm.trans rightJoined
      · have nothing : (table.room target).clients = ∅ := by simpa using empty
        simp [nothing] at rightStored
    · rcases found_of_join joined rightFound rightFlag with
        ⟨-, empty⟩ | ⟨rightBefore, rightStored, rightWas⟩
      · have nothing : (table.room target).clients = ∅ := by simpa using empty
        simp [nothing] at leftStored
      · rw [RoomTable.room_client?] at leftStored rightStored
        exact (elected target).unique _ _ _ _ leftStored rightStored leftWas
          rightWas
  · intro someId someClient _ entered
    cases empty : (table.room target).clients.isEmpty with
    | true =>
        obtain ⟨client, found, flag⟩ := joiner_of_join joined
          fun loopback => (guard loopback).1
        exact ⟨clientId, client, (lookup clientId).trans found,
          flag.trans empty⟩
    | false =>
        -- whoever was elected before still is
        obtain ⟨⟨present, client⟩, listed⟩ := List.exists_mem_of_ne_nil
          (table.room target).clients.toList fun nothing => by
            rw [← ExtTreeMap.isEmpty_toList, nothing] at empty
            cases empty
        have found := ExtTreeMap.mem_toList_iff_getElem?_eq_some.1 listed
        have before : ∀ other earlier,
            table.client? target other = some earlier ->
            EnteredThroughJoin older target other := by
          intro other earlier was
          rw [← RoomTable.room_client?] at was
          obtain ⟨kept, stays, -⟩ := kept_of_join absent joined was
          rw [RoomTable.room_client?] at was
          exact (entered_of_present was).1
            (entered other kept ((lookup other).trans stays))
        obtain ⟨initiator, chosen, was, flag⟩ :=
          (elected target).elected present client
            ((table.room_client? target present).symm.trans found) before
        have entered := before _ _ was
        rw [← RoomTable.room_client?] at was
        obtain ⟨kept, stays, same | ⟨loopback, rfl⟩⟩ :=
          kept_of_join absent joined was
        · exact ⟨initiator, kept, (lookup initiator).trans stays,
            same.trans flag⟩
        · exact absurd entered ((guard loopback).2 _ was)

theorem elected_step
    (sound : table.Sound)
    (elected : ∀ roomId, Elected older table roomId)
    (undemoted : ¬Demotes older table call.operation)
    (roomId : RoomId) :
    Elected ((table, call) :: older) (table.step call) roomId := by
  unfold RoomTable.step
  cases operation : call.operation with
  | join now target clientId isLoopback =>
      exact elected_join elected operation undemoted roomId
  | leave target clientId =>
      exact elected_leave sound elected target clientId roomId
  | register now target clientId =>
      exact elected_setRoom elected (by simp [operation, Operation.Joins])
        ((sound.room target).1.register_keepsFlags ..) roomId
  | deregister now target clientId =>
      simp only [RoomTable.deregister]
      split
      · exact (elected roomId).of_same fun _ => rfl
      · next room found =>
          refine elected_setRoom elected (by simp [operation, Operation.Joins])
            ?_ roomId
          rw [RoomTable.room_of_found found]
          exact room.deregister_keepsFlags now clientId
  | send now target sourceId msg =>
      exact elected_setRoom elected (by simp [operation, Operation.Joins])
        ((sound.room target).1.send_keeps (fun _ _ _ => rfl)
          (fun _ _ _ => rfl) ..) roomId
  | saveOrSend now target sourceId msg =>
      exact elected_setRoom elected (by simp [operation, Operation.Joins])
        ((sound.room target).1.send_keeps (fun _ _ _ => rfl)
          (fun _ _ _ => rfl) ..) roomId
  | handleTimeout now => exact elected_handleTimeout sound elected now roomId

/-- Along a run without a demotion every room is elected. -/
theorem elected_of_run
    {registerTimeout : Duration}
    {history : History}
    {table : RoomTable}
    (run : (RoomTable.machine registerTimeout).Run history table)
    (undemoted : Undemoted history) :
    table.Sound ∧ ∀ roomId, Elected history table roomId := by
  induction run with
  | start starts =>
      subst starts
      refine ⟨RoomTable.Sound.new _, fun roomId => ⟨?_, ?_⟩⟩
      · intro left right first second found
        simp [RoomTable.client?] at found
      · intro clientId client found
        simp [RoomTable.client?] at found
  | next call run inductionHypothesis =>
      obtain ⟨sound, elected⟩ := inductionHypothesis undemoted.2
      exact ⟨sound.step call, elected_step sound elected undemoted.1⟩

/-- A join that does not demote returns the flag that it stores. -/
theorem join_returns_stored
    {now : Instant}
    {target : RoomId}
    {clientId : ClientId}
    {isLoopback isInitiator : Bool}
    {messages : List String}
    (operation : call.operation = .join now target clientId isLoopback)
    (undemoted : ¬Demotes older table call.operation)
    (answer : (table.join call.order now target clientId isLoopback).1 =
      .ok (isInitiator, messages)) :
    ∃ client, (table.step call).client? target clientId = some client ∧
      client.isInitiator = isInitiator := by
  have result := answer
  simp only [RoomTable.join] at result
  rcases (table.room target).addClient_cases call.order now clientId
    isLoopback with ⟨error, failed⟩ | ⟨absent, spare, returned, joined⟩
  · rw [failed] at result
    cases result
  rw [returned] at result
  cases result
  obtain ⟨client, found, flag⟩ := joiner_of_join joined fun loopback => by
    rw [operation, loopback] at undemoted
    exact (not_cleared undemoted absent spare).1
  refine ⟨client, ?_, flag⟩
  simp only [RoomTable.step, operation, RoomTable.join,
    RoomTable.client?_setRoom, if_true]
  exact found

/-- In every run of the table in which no join in loopback mode demotes an
elected client, a room that is not empty and whose clients all entered through
a join has exactly one initiator, and every join returns the flag that it
stores. -/
theorem one_initiator
    {registerTimeout : Duration}
    {history : History}
    {table : RoomTable}
    (run : (RoomTable.machine registerTimeout).Run history table)
    (undemoted : Undemoted history) :
    (∀ (roomId : RoomId) (room : Room), table.rooms[roomId]? = some room ->
      room.clients.isEmpty = false ->
      (∀ clientId, clientId ∈ room.clients ->
        EnteredThroughJoin history roomId clientId) ->
      ∃! clientId : ClientId, ∃ client : Client,
        room.clients[clientId]? = some client ∧
          client.isInitiator = true) ∧
    ∀ before call, (before, call) ∈ history ->
      ∀ now roomId clientId isLoopback isInitiator messages,
        call.operation = .join now roomId clientId isLoopback ->
        (before.join call.order now roomId clientId isLoopback).1 =
          .ok (isInitiator, messages) ->
        ∃ client,
          (before.step call).client? roomId clientId = some client ∧
            client.isInitiator = isInitiator := by
  constructor
  · intro roomId room found occupied entered
    have elected := (elected_of_run run undemoted).2 roomId
    have stored := RoomTable.client?_of_found found
    obtain ⟨⟨present, client⟩, listed⟩ := List.exists_mem_of_ne_nil
      room.clients.toList fun nothing => by
        rw [← ExtTreeMap.isEmpty_toList, nothing] at occupied
        cases occupied
    have inside := ExtTreeMap.mem_toList_iff_getElem?_eq_some.1 listed
    obtain ⟨initiator, chosen, held, flag⟩ := elected.elected present client
      ((stored present).trans inside) fun other earlier was => by
        rw [stored] at was
        exact entered other (mem_of_found was)
    refine ⟨initiator, ⟨chosen, (stored initiator).symm.trans held, flag⟩, ?_⟩
    rintro other ⟨second, also, set⟩
    exact elected.unique _ _ _ _ ((stored other).trans also) held set flag
  · intro before call taken now roomId clientId isLoopback isInitiator
      messages operation answer
    obtain ⟨newer, older, rfl⟩ := List.append_of_mem taken
    exact join_returns_stored operation undemoted.taken answer

/-- Two clients join a room. -/
def pairedOperations : List Operation :=
  [.join 0 "room" "first" false, .join 0 "room" "second" false]

/-- One of two clients that joined is the initiator. -/
theorem one_initiator_paired :
    ∃ room, (RoomTable.played 10 pairedOperations).2.rooms["room"]? =
        some room ∧
      ∃! clientId : ClientId, ∃ client : Client,
        room.clients[clientId]? = some client ∧
          client.isInitiator = true := by
  have occupied : ((RoomTable.played 10 pairedOperations).2.rooms["room"]?).map
      (fun room => (room.clients.isEmpty, room.clients.keys)) =
        some (false, ["first", "second"]) := by decide +kernel
  obtain ⟨room, found, shape⟩ := Option.map_eq_some_iff.1 occupied
  simp only [Prod.mk.injEq] at shape
  refine ⟨room, found, (one_initiator (RoomTable.played_run 10
    pairedOperations) ⟨id, id, trivial⟩).1 "room" room found shape.1
      fun clientId joined => ?_⟩
  rw [← ExtTreeMap.mem_keys, shape.2] at joined
  have entered : ∀ clientId ∈ ["first", "second"], EnteredThroughJoin
      (RoomTable.played 10 pairedOperations).1 "room" clientId := by
    decide +kernel
  exact entered clientId joined

/-- A client joins in loopback mode, leaves its loopback peer behind and joins
in loopback mode again. -/
def rejoinedOperations : List Operation :=
  [.join 0 "room" "caller" true, .leave "room" "caller",
    .join 0 "room" "caller" true]

/-- The second join clears the flag of the loopback peer, which had been
promoted: both clients of the room joined and neither is the initiator. -/
theorem loopback_rejoin_unelected :
    ¬∀ (registerTimeout : Duration) (history : History) (table : RoomTable),
      (RoomTable.machine registerTimeout).Run history table ->
      ∀ (roomId : RoomId) (room : Room), table.rooms[roomId]? = some room ->
        room.clients.isEmpty = false ->
        (∀ clientId, clientId ∈ room.clients ->
          EnteredThroughJoin history roomId clientId) ->
        ∃! clientId : ClientId, ∃ client : Client,
          room.clients[clientId]? = some client ∧
            client.isInitiator = true := by
  intro claim
  have final : ((RoomTable.played 10
      rejoinedOperations).2.rooms["room"]?).map
        (fun room => (room.clients.isEmpty, room.clients.keys,
          room.clients.toList.any fun entry => entry.2.isInitiator)) =
      some (false, ["LOOPBACK_CLIENT_ID", "caller"], false) := by
    decide +kernel
  obtain ⟨room, found, shape⟩ := Option.map_eq_some_iff.1 final
  simp only [Prod.mk.injEq] at shape
  obtain ⟨initiator, ⟨chosen, held, flag⟩, -⟩ := claim 10 _ _
    (RoomTable.played_run 10 rejoinedOperations) "room" room found shape.1
    fun clientId joined => by
      rw [← ExtTreeMap.mem_keys, shape.2.1] at joined
      have entered : ∀ clientId ∈ ["LOOPBACK_CLIENT_ID", "caller"],
          EnteredThroughJoin (RoomTable.played 10 rejoinedOperations).1 "room"
            clientId := by decide +kernel
      exact entered clientId joined
  have elected : room.clients.toList.any (fun entry => entry.2.isInitiator) :=
    List.any_eq_true.2 ⟨(initiator, chosen),
      ExtTreeMap.mem_toList_iff_getElem?_eq_some.2 held, flag⟩
  rw [shape.2.2] at elected
  cases elected

end V1
end Signaling
