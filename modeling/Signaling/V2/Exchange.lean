import Signaling.Support.MapValues
import Signaling.V2.Epochs

/-!
# Exactly-once relay between two members

While a room stays in P2P mode and two clients are its only possible members,
the messages that the table accepted from the one are exactly the messages
handed to the other, in order, followed by those still queued.
-/

namespace Signaling
namespace V2

open Std (ExtTreeMap)

namespace Room

/-- The messages queued on a member. -/
def queue (room : Room) (clientId : ClientId) : List String :=
  (room.members[clientId]?.map (·.queuedMessages)).getD []

/-- A browser is bound to the member. -/
def Hears (room : Room) (clientId : ClientId) : Prop :=
  ∃ member : Member, room.members[clientId]? = some member ∧
    member.registered = true

/-- A P2P room with the sender and at most the receiver besides. -/
structure Pairs (room : Room) (senderId receiverId : ClientId) : Prop where
  direct : room.mode = .p2p
  sender : senderId ∈ room.members
  others : ∀ clientId ∈ room.members,
    clientId = senderId ∨ clientId = receiverId

end Room

namespace RoomTable

/-- The stored room pairs the sender with the receiver. -/
def Pairs
    (table : RoomTable)
    (roomId : RoomId)
    (senderId receiverId : ClientId) : Prop :=
  ∃ room : Room, table.rooms[roomId]? = some room ∧
    room.Pairs senderId receiverId

/-- The messages queued on a member of a stored room. -/
def queue
    (table : RoomTable)
    (roomId : RoomId)
    (clientId : ClientId) : List String :=
  (table.rooms[roomId]?.map (·.queue clientId)).getD []

end RoomTable

namespace Call

/-- The message of a call by which the table accepts it from the sender for
direct relay. -/
def accepted
    (call : Call)
    (table : RoomTable)
    (roomId : RoomId)
    (senderId : ClientId) : List String :=
  match call.operation with
  | .send sentTo clientId signalEpoch message =>
      if sentTo = roomId ∧ clientId = senderId then
        match (table.send call.order sentTo clientId signalEpoch message).1 with
        | .ok (.p2p _) => [message]
        | _ => []
      else []
  | _ => []

/-- The messages that a call hands to the receiver: the delivery of a message of
the sender, or the messages that a registration of the receiver returns. -/
def received
    (call : Call)
    (table : RoomTable)
    (roomId : RoomId)
    (senderId receiverId : ClientId) : List String :=
  match call.operation with
  | .send sentTo clientId signalEpoch message =>
      if sentTo = roomId ∧ clientId = senderId then
        match (table.send call.order sentTo clientId signalEpoch message).1 with
        | .ok (.p2p (some delivery)) =>
            if delivery.roomId = roomId ∧ delivery.clientId = receiverId then
              [delivery.message]
            else []
        | _ => []
      else []
  | .register enteredId clientId token =>
      if enteredId = roomId ∧ clientId = receiverId then
        match (table.register call.order enteredId clientId token).1 with
        | .ok registration => registration.queuedMessages
        | .error _ => []
      else []
  | _ => []

end Call

/-- The messages accepted from the sender along a history, in time order. -/
def accepted
    (history : History)
    (roomId : RoomId)
    (senderId : ClientId) : List String :=
  history.reverse.flatMap fun event =>
    event.2.accepted event.1 roomId senderId

/-- The messages handed to the receiver along a history, in time order. -/
def received
    (history : History)
    (roomId : RoomId)
    (senderId receiverId : ClientId) : List String :=
  history.reverse.flatMap fun event =>
    event.2.received event.1 roomId senderId receiverId

/-- A stretch of a run through which a room pairs the sender with the receiver,
and in which the receiver stays once it is there. -/
structure Paired
    (newer : History)
    (table : RoomTable)
    (roomId : RoomId)
    (senderId receiverId : ClientId) : Prop where
  pairs : ∀ state ∈ table :: newer.map Prod.fst,
    state.Pairs roomId senderId receiverId
  stays : ∀ event ∈ newer,
    (event.1.member? roomId receiverId).isSome ->
    ((event.1.step event.2).member? roomId receiverId).isSome

namespace Room

variable
  {room before after : Room}
  {senderId receiverId clientId : ClientId}

/-- The queue of the sender is untouched, and the receiver hears only if it heard
before. -/
structure Undisturbed
    (before after : Room)
    (senderId receiverId : ClientId) : Prop where
  queue : after.queue senderId = before.queue senderId
  hears : after.Hears receiverId -> before.Hears receiverId

theorem Undisturbed.of_members
    (members : after.members = before.members) :
    Undisturbed before after senderId receiverId where
  queue := by simp [Room.queue, members]
  hears := by simp [Room.Hears, members]

/-- A member may be replaced by one with the same queue that hears no better. -/
theorem Undisturbed.replaceMember
    {former : Member}
    (member : Member)
    (present : room.members[clientId]? = some former)
    (kept : clientId = senderId ->
      member.queuedMessages = former.queuedMessages)
    (registered : clientId = receiverId -> member.registered = true ->
      former.registered = true) :
    Undisturbed room (room.insertMember clientId member) senderId
      receiverId where
  queue := by
    simp only [Room.queue, insertMember]
    grind
  hears := by
    simp only [Room.Hears, insertMember]
    grind

/-- Whoever outlives an expiry was a member and had not expired. -/
theorem of_mem_expireMembers
    {roomId : RoomId}
    {now : Instant}
    (joined : clientId ∈ (room.expireMembers roomId now).2.members) :
    clientId ∈ room.members ∧ clientId ∉ room.expiredClients now := by
  rw [ExtTreeMap.mem_iff_isSome_getElem?, Option.isSome_iff_exists] at joined
  obtain ⟨member, found⟩ := joined
  obtain ⟨former, before, outside, -⟩ := expireMembers_members room roomId found
  exact ⟨ExtTreeMap.mem_iff_isSome_getElem?.2 (by simp [before]), outside⟩

/-- When nobody has expired, the members stay as they are. -/
theorem expireMembers_of_nobody
    {roomId : RoomId}
    {now : Instant}
    (nobody : room.expiredClients now = []) :
    (room.expireMembers roomId now).2.members = room.members := by
  simp [expireMembers, nobody, eraseMembers]

/-- The two members of a pair are all there are to drop. -/
theorem Pairs.nobody_expired
    {roomId : RoomId}
    {now : Instant}
    (pairs : room.Pairs senderId receiverId)
    (sender : senderId ∈ (room.expireMembers roomId now).2.members)
    (receiver : receiverId ∈ room.members ->
      receiverId ∈ (room.expireMembers roomId now).2.members) :
    (room.expireMembers roomId now).2.members = room.members := by
  refine expireMembers_of_nobody ?_
  refine List.eq_nil_iff_forall_not_mem.2 fun clientId expired => ?_
  have joined : clientId ∈ room.members :=
    ExtTreeMap.mem_keys.1 (List.mem_filter.1 expired).1
  rcases pairs.others clientId joined with rfl | rfl
  · exact (of_mem_expireMembers sender).2 expired
  · exact (of_mem_expireMembers (receiver joined)).2 expired

end Room

/-- A move of a pair that is neither a send of the sender nor a registration of
the receiver disturbs nothing. -/
theorem RoomMoved.undisturbed
    {roomId : RoomId}
    {move : Move}
    {room after : Room}
    {senderId receiverId : ClientId}
    (moved : RoomMoved roomId move (some room) (some after))
    (wellFormed : room.WellFormed)
    (different : senderId ≠ receiverId)
    (pairs : room.Pairs senderId receiverId)
    (still : after.Pairs senderId receiverId)
    (stays : receiverId ∈ room.members -> receiverId ∈ after.members)
    (quiet : ∀ message, move ≠ .queueMessage roomId senderId message)
    (silent : move ≠ .register roomId receiverId) :
    Room.Undisturbed room after senderId receiverId := by
  have direct := pairs.direct
  have joined := pairs.sender
  obtain ⟨-, -, idle, noJoin, noLeave⟩ := wellFormed.direct direct
  have after_direct := still.direct
  generalize was : some room = before at moved
  generalize becomes : some after = result at moved
  cases moved with
  | kept =>
      cases was
      cases becomes
      exact .of_members rfl
  | create => cases was
  | joinDirect now grace token lifecycleId fresh =>
      cases was
      cases becomes
      refine ⟨?_, ?_⟩
      · simp only [Room.queue, Room.insertMember]
        grind
      · simp only [Room.Hears, Room.insertMember]
        grind [newMember]
  | register settled present unregistered =>
      rename_i entered clientId member
      cases was
      cases becomes
      have own : clientId = senderId := by
        have inside : clientId ∈ room.members :=
          ExtTreeMap.mem_iff_isSome_getElem?.2 (by simp [present])
        rcases pairs.others clientId inside with same | rfl
        · exact same
        · exact absurd rfl silent
      subst own
      refine ⟨?_, ?_⟩
      · simp [Room.queue, Room.registerMember_members, present]
      · rintro ⟨other, found, registered⟩
        rw [Room.registerMember_members, if_neg different.symm, if_pos direct,
          Option.map_eq_some_iff] at found
        obtain ⟨former, joined, rfl⟩ := found
        exact ⟨former, joined, registered⟩
  | dropWithGrace deadline present registered =>
      cases was
      cases becomes
      refine .replaceMember _ present (fun _ => rfl) fun _ silenced => ?_
      cases silenced
  | queueMessage present settled notForwarded =>
      rename_i clientId member message
      cases was
      cases becomes
      refine .replaceMember _ present (fun own => ?_) fun _ kept => kept
      subst own
      exact absurd rfl (quiet message)
  | clearDeadline =>
      cases was
      cases becomes
      exact .of_members rfl
  | removeDirect present unjoined unleft live =>
      rename_i clientId member
      cases was
      obtain rfl := Room.eq_of_stored becomes.symm
      have gone : clientId ∉ (promoteSurvivor roomId
          (room.eraseMember clientId)).2.members := by
        intro kept
        rw [ExtTreeMap.mem_iff_isSome_getElem?, Option.isSome_iff_exists] at kept
        obtain ⟨other, found⟩ := kept
        obtain ⟨former, before, -⟩ := Room.promoteSurvivor_members _ _ found
        simp [Room.eraseMember] at before
      have inside : clientId ∈ room.members :=
        ExtTreeMap.mem_iff_isSome_getElem?.2 (by simp [present])
      rcases pairs.others clientId inside with rfl | rfl
      · exact absurd still.sender gone
      · exact absurd (stays inside) gone
  | expireMembers now =>
      cases was
      obtain rfl := Room.eq_of_stored becomes.symm
      exact .of_members (pairs.nobody_expired still.sender stays)
  | beginUpgrade | reportFailure | refuseSync | expireRoom =>
      cases was
      cases becomes
      simp [Room.startUpgrade, Room.fail] at after_direct
  | removeFailed present noJoin' noLeave' failed =>
      cases was
      simp [direct] at failed
  | beginJoin _ _ _ _ _ forwarded | dropWithLeave _ _ forwarded
  | requestLeave _ forwarded | downgrade forwarded | retryLeave _ _ forwarded
  | rearmGrace _ _ _ forwarded =>
      cases was
      simp [direct] at forwarded
  | expireUpgrade instanceId upgrading =>
      cases was
      simp [direct] at upgrading
  | advanceUpgrade requestId running | commitUpgrade requestId running
  | abortUpgrade requestId running =>
      cases was
      simp [idle] at running
  | completeJoin instanceId requestId joining | refuseJoin requestId joining =>
      cases was
      simp [noJoin] at joining
  | completeLeave requestId deadline leaving | refuseLeave requestId leaving =>
      cases was
      simp [noLeave] at leaving

/-- What a timeout makes of a P2P room: it fails, or stays P2P with the same
members or fewer. -/
inductive Thinned (before after : Room) : Prop
  | failed (mode : after.mode = .failed)
  | kept
      (mode : after.mode = .p2p)
      (members : after.members = before.members)
  | lost
      {clientId : ClientId}
      (mode : after.mode = .p2p)
      (fewer : ∀ someId ∈ after.members, someId ∈ before.members)
      (joined : clientId ∈ before.members)
      (gone : clientId ∉ after.members)

/-- Every move of a timeout carries on what it makes of a P2P room. -/
theorem RoomMoved.thinned
    {roomId : RoomId}
    {move : Move}
    {before after : Room}
    {room : Option Room}
    (moved : RoomMoved roomId move room (some after))
    (expiring : move.Expiring)
    (thinned : ∀ middle, room = some middle -> Thinned before middle) :
    Thinned before after := by
  generalize becomes : some after = result at moved
  cases moved with
  | kept =>
      exact thinned after becomes.symm
  | clearDeadline =>
      cases becomes
      cases thinned _ rfl with
      | failed mode => exact .failed mode
      | kept mode members => exact .kept mode members
      | lost mode fewer joined gone => exact .lost mode fewer joined gone
  | expireMembers now direct =>
      rename_i middle
      obtain rfl := Room.eq_of_stored becomes.symm
      have mode : (middle.expireMembers roomId now).2.mode = .p2p := by
        simp [direct]
      cases thinned _ rfl with
      | failed mode => simp [direct] at mode
      | kept _ members =>
          by_cases nobody : middle.expiredClients now = []
          · exact .kept mode ((Room.expireMembers_of_nobody nobody).trans members)
          · obtain ⟨clientId, expired⟩ := List.exists_mem_of_ne_nil _ nobody
            have joined : clientId ∈ middle.members :=
              ExtTreeMap.mem_keys.1 (List.mem_filter.1 expired).1
            rw [members] at joined
            refine .lost mode (fun someId kept => ?_) joined fun kept =>
              (Room.of_mem_expireMembers kept).2 expired
            rw [← members]
            exact (Room.of_mem_expireMembers kept).1
      | lost _ fewer joined gone =>
          exact .lost mode
            (fun someId kept => fewer someId (Room.of_mem_expireMembers kept).1)
            joined fun kept => gone (Room.of_mem_expireMembers kept).1
  | expireRoom => 
      cases becomes
      exact .failed rfl
  | expireUpgrade instanceId upgrading =>
      cases thinned _ rfl with
      | failed mode | kept mode | lost mode => simp [upgrading] at mode
  | retryLeave _ _ forwarded | rearmGrace _ _ _ forwarded
  | downgrade forwarded =>
      cases thinned _ rfl with
      | failed mode | kept mode | lost mode => simp [forwarded] at mode
  | _ => cases expiring

namespace RoomTable.Consistent

variable
  {table : RoomTable}
  {call : Call}
  {roomId : RoomId}
  {senderId receiverId : ClientId}
  {room after : Room}

/-- A call on a pair that is neither a send of the sender nor a registration of
the receiver disturbs nothing. -/
theorem undisturbed
    (consistent : table.Consistent)
    (found : table.rooms[roomId]? = some room)
    (stored : (table.step call).rooms[roomId]? = some after)
    (different : senderId ≠ receiverId)
    (pairs : room.Pairs senderId receiverId)
    (still : after.Pairs senderId receiverId)
    (stays : receiverId ∈ room.members -> receiverId ∈ after.members)
    (quiet : ∀ signalEpoch message,
      call.operation ≠ .send roomId senderId signalEpoch message)
    (silent : ∀ token, call.operation ≠ .register roomId receiverId token) :
    Room.Undisturbed room after senderId receiverId := by
  by_cases sweeps : call.Sweeps
  · refine .of_members ?_
    unfold Call.Sweeps at sweeps
    split at sweeps
    · rename_i now asked
      have thinned := @step_invariant table call
        (fun _ middle => ∀ stored, middle.rooms[roomId]? = some stored ->
          Thinned room stored)
        consistent
        (fun phase middle move phase' next taken arises sound kept stored here =>
          RoomMoved.thinned (here ▸ taken.room sound.wellFormed roomId)
            (arises.expiring asked) kept)
        (fun stored here => by
          rw [found] at here
          cases here
          exact .kept pairs.direct rfl)
      cases thinned after stored with
      | failed mode => simp [still.direct] at mode
      | kept _ members => exact members
      | lost _ fewer joined gone =>
          rcases pairs.others _ joined with rfl | rfl
          · exact absurd still.sender gone
          · exact absurd (stays joined) gone
    · rename_i connectionId instanceId requestId capacity asked
      have same := @step_invariant table call
        (fun _ middle => middle.rooms[roomId]? = table.rooms[roomId]?)
        consistent (fun phase middle move phase' next taken arises sound kept => by
          rw [← kept]
          refine (taken.room sound.wellFormed roomId).elsewhere ?_
          rw [arises.registering asked]
          nofun)
        rfl
      rw [same, found] at stored
      cases stored
      rfl
    · cases sweeps
  · rcases step_direct table call sweeps with same | ⟨move, taken, arises⟩
    · rw [same, found] at stored
      cases stored
      exact .of_members rfl
    · have moved := taken.room consistent.wellFormed roomId
      rw [found, stored] at moved
      refine moved.undisturbed (consistent.wellFormed.rooms roomId room found)
        different pairs still stays ?_ ?_
      · rintro message rfl
        obtain ⟨-, signalEpoch, asked, -⟩ := arises
        exact quiet _ _ asked
      · rintro rfl
        obtain ⟨-, token, member, asked, -⟩ := arises
        exact silent _ asked

end RoomTable.Consistent

namespace RoomTable

variable
  {table : RoomTable}
  {roomId : RoomId}
  {senderId receiverId : ClientId}
  {room : Room}

/-- What the table does with a message of the sender: it refuses it and stays as
it is, delivers it to a receiver that hears, or queues it when the receiver does
not hear. -/
theorem send_of_pairs
    (order : VisitOrder)
    (signalEpoch : Nat)
    (message : String)
    (found : table.rooms[roomId]? = some room)
    (pairs : room.Pairs senderId receiverId) :
    ((∀ delivery, (table.send order roomId senderId signalEpoch message).1 ≠
          .ok (.p2p delivery)) ∧
        (table.send order roomId senderId signalEpoch message).2 = table) ∨
      (room.Hears receiverId ∧
        table.send order roomId senderId signalEpoch message =
          (.ok (.p2p (some ⟨roomId, receiverId, message⟩)), table)) ∨
      ∃ member : Member, room.members[senderId]? = some member ∧
        (receiverId ≠ senderId -> ¬room.Hears receiverId) ∧
        table.send order roomId senderId signalEpoch message =
          (.ok (.p2p none), table.setRoom roomId (room.insertMember senderId
            { member with
              queuedMessages := member.queuedMessages ++ [message] })) := by
  unfold send
  simp only [found]
  split
  · exact Or.inl ⟨nofun, rfl⟩
  obtain ⟨member, present⟩ := Option.isSome_iff_exists.1
    (ExtTreeMap.mem_iff_isSome_getElem?.1 pairs.sender)
  simp only [present, pairs.direct, reduceCtorEq, if_false]
  cases reached : ((room.clients order roomId).find?
      fun candidate => decide (candidate ≠ senderId)).filter
        fun peerId => room.members[peerId]?.any (·.registered) with
  | some peerId =>
    obtain ⟨candidate, registered⟩ := Option.filter_eq_some_iff.1 reached
    have different := List.find?_some candidate
    have listed := List.mem_of_find?_eq_some candidate
    simp only [Room.clients, HashOrder.mem_visit, ExtTreeMap.mem_keys] at listed
    simp only [decide_eq_true_eq] at different
    obtain rfl := (pairs.others peerId listed).resolve_left different
    obtain ⟨other, joined, bound⟩ := (Option.any_eq_true _ _).1 registered
    exact Or.inr (Or.inl ⟨⟨other, joined, bound⟩, rfl⟩)
  | none =>
    dsimp only
    split
    · exact Or.inl ⟨nofun, rfl⟩
    · rename_i queued accepted
      obtain rfl := pushQueued_ok accepted
      refine Or.inr (Or.inr ⟨member, rfl, ?_, rfl⟩)
      rintro different ⟨other, joined, bound⟩
      cases peer : (room.clients order roomId).find?
          fun candidate => decide (candidate ≠ senderId) with
      | none =>
          have inside : receiverId ∈ room.clients order roomId := by
            simp only [Room.clients, HashOrder.mem_visit, ExtTreeMap.mem_keys,
              ExtTreeMap.mem_iff_isSome_getElem?, joined, Option.isSome_some]
          have same := List.find?_eq_none.1 peer receiverId inside
          simp [different] at same
      | some peerId =>
          have apart := List.find?_some peer
          have listed := List.mem_of_find?_eq_some peer
          simp only [Room.clients, HashOrder.mem_visit, ExtTreeMap.mem_keys]
            at listed
          simp only [decide_eq_true_eq] at apart
          obtain rfl := (pairs.others peerId listed).resolve_left apart
          rw [peer] at reached
          simp [Option.filter, joined, bound] at reached

/-- A registration of the receiver is refused, or it hands over the sender's
queue and empties it. -/
theorem register_of_pairs
    (order : VisitOrder)
    (token : String)
    (found : table.rooms[roomId]? = some room)
    (different : senderId ≠ receiverId)
    (pairs : room.Pairs senderId receiverId) :
    (∃ error, table.register order roomId receiverId token =
        (.error error, table)) ∨
      ∃ (member : Member) (registration : Registration),
        room.members[receiverId]? = some member ∧
        registration.queuedMessages = room.queue senderId ∧
        table.register order roomId receiverId token =
          (.ok registration,
            table.setRoom roomId (room.registerMember receiverId member)) := by
  unfold register
  simp only [found, pairs.direct, reduceCtorEq, if_false]
  split
  · exact Or.inl ⟨_, rfl⟩
  rename_i member present
  split
  · exact Or.inl ⟨_, rfl⟩
  split
  · exact Or.inl ⟨_, rfl⟩
  refine Or.inr ⟨member, _, present, ?_, rfl⟩
  simp only [if_true]
  have own : senderId ∈ room.clients order roomId := by
    simp [Room.clients, pairs.sender]
  have distinct : (room.clients order roomId).Nodup :=
    HashOrder.nodup_visit order _ ExtTreeMap.nodup_keys
  unfold Room.queuedFor
  rw [flatMap_of_single distinct own fun otherId listed apart => ?_]
  · rw [if_neg different, Room.queue]
    cases room.members[senderId]? <;> rfl
  · have joined : otherId ∈ room.members := by
      simpa [Room.clients] using listed
    rw [if_pos ((pairs.others otherId joined).resolve_left apart)]

end RoomTable

/-- One call hands over, and leaves in the sender's queue, what was queued and
what it accepted; and nothing is queued for a receiver that hears. -/
theorem exchange_step
    {table : RoomTable}
    {call : Call}
    {roomId : RoomId}
    {senderId receiverId : ClientId}
    {room after : Room}
    (consistent : table.Consistent)
    (found : table.rooms[roomId]? = some room)
    (stored : (table.step call).rooms[roomId]? = some after)
    (different : senderId ≠ receiverId)
    (pairs : room.Pairs senderId receiverId)
    (still : after.Pairs senderId receiverId)
    (stays : receiverId ∈ room.members -> receiverId ∈ after.members)
    (flushed : room.Hears receiverId -> room.queue senderId = []) :
    call.received table roomId senderId receiverId ++ after.queue senderId =
        room.queue senderId ++ call.accepted table roomId senderId ∧
      (after.Hears receiverId -> after.queue senderId = []) := by
  have kept : receiverId ∈ room.members -> receiverId ∈ after.members := stays
  by_cases sends : ∃ signalEpoch message,
      call.operation = .send roomId senderId signalEpoch message
  · obtain ⟨signalEpoch, message, asked⟩ := sends
    simp only [Call.received, Call.accepted, asked, and_self, if_true]
    simp only [RoomTable.step, asked] at stored
    rcases RoomTable.send_of_pairs call.order signalEpoch message found pairs with
      ⟨refused, same⟩ | ⟨hears, sent⟩ | ⟨member, present, unheard, sent⟩
    · rw [same, found] at stored
      cases stored
      refine ⟨?_, flushed⟩
      cases answer : (table.send call.order roomId senderId signalEpoch
          message).1 with
      | error => simp
      | ok result =>
          cases result with
          | p2p delivery => exact absurd answer (refused delivery)
          | sfu | dropped => simp
    · rw [sent] at stored ⊢
      rw [found] at stored
      cases stored
      simp [flushed hears]
    · rw [sent] at stored ⊢
      have becomes : room.insertMember senderId
          { member with
            queuedMessages := member.queuedMessages ++ [message] } = after := by
        simpa using stored
      subst becomes
      refine ⟨by simp [Room.queue, Room.insertMember, present], ?_⟩
      rintro ⟨other, joined, bound⟩
      refine absurd ⟨other, ?_, bound⟩ (unheard different.symm)
      simp only [Room.insertMember] at joined
      grind
  · by_cases registers : ∃ token,
        call.operation = .register roomId receiverId token
    · obtain ⟨token, asked⟩ := registers
      simp only [Call.received, Call.accepted, asked, and_self, if_true]
      simp only [RoomTable.step, asked] at stored
      rcases RoomTable.register_of_pairs call.order token found different
        pairs with ⟨error, refused⟩ | ⟨member, registration, present, handed,
          accepted⟩
      · rw [refused] at stored ⊢
        rw [found] at stored
        cases stored
        exact ⟨by simp, flushed⟩
      · rw [accepted] at stored ⊢
        have becomes : room.registerMember receiverId member = after := by
          simpa using stored
        subst becomes
        have emptied :
            (room.registerMember receiverId member).queue senderId = [] := by
          rw [Room.queue, Room.registerMember_members, if_neg different,
            if_pos pairs.direct]
          cases room.members[senderId]? <;> rfl
        exact ⟨by simp [handed, emptied], fun _ => emptied⟩
    · have undisturbed := consistent.undisturbed found stored different pairs
        still stays (fun signalEpoch message asked => sends ⟨_, _, asked⟩)
        fun token asked => registers ⟨_, asked⟩
      have received : call.received table roomId senderId receiverId = [] := by
        unfold Call.received
        split
        · rename_i sentTo clientId signalEpoch message asked
          refine if_neg ?_
          rintro ⟨rfl, rfl⟩
          exact sends ⟨_, _, asked⟩
        · rename_i enteredId clientId token asked
          refine if_neg ?_
          rintro ⟨rfl, rfl⟩
          exact registers ⟨_, asked⟩
        · rfl
      have accepted : call.accepted table roomId senderId = [] := by
        unfold Call.accepted
        split
        · rename_i sentTo clientId signalEpoch message asked
          refine if_neg ?_
          rintro ⟨rfl, rfl⟩
          exact sends ⟨_, _, asked⟩
        · rfl
      rw [received, accepted, undisturbed.queue]
      exact ⟨by simp, fun hears => flushed (undisturbed.hears hears)⟩

/-- Along a stretch of a run in which two clients are the only possible members
of a P2P room, the messages handed to the one, followed by those still queued
for it, are exactly the messages accepted from the other, in order. -/
theorem exchanged_once
    {reconnectGrace : Duration}
    {newer older : History}
    {table : RoomTable}
    {roomId : RoomId}
    {senderId receiverId : ClientId}
    (run : (RoomTable.machine reconnectGrace).Run (newer ++ older) table)
    (different : senderId ≠ receiverId)
    (paired : Paired newer table roomId senderId receiverId)
    (empty : ∀ state, (table :: newer.map Prod.fst).getLast? = some state ->
      state.queue roomId senderId = []) :
    received newer roomId senderId receiverId ++
        table.queue roomId senderId =
      accepted newer roomId senderId := by
  suffices both : received newer roomId senderId receiverId ++
        table.queue roomId senderId = accepted newer roomId senderId ∧
      ∀ room, table.rooms[roomId]? = some room -> room.Hears receiverId ->
        room.queue senderId = [] from both.1
  induction newer generalizing table with
  | nil =>
      have nothing := empty table rfl
      refine ⟨by simpa [received, accepted] using nothing, ?_⟩
      rintro room found -
      simpa [RoomTable.queue, found] using nothing
  | cons event newer inductionHypothesis =>
      cases run with
      | next call ran =>
          rename_i before
          obtain ⟨room, found, pairs⟩ := paired.pairs before (by simp)
          obtain ⟨after, stored, still⟩ := paired.pairs _ List.mem_cons_self
          have earlier := inductionHypothesis ran
            ⟨fun state listed => paired.pairs state (by simpa using Or.inr listed),
              fun event listed => paired.stays event
                (List.mem_cons_of_mem _ listed)⟩
            (fun state last => empty state (by simpa using last))
          have stays : receiverId ∈ room.members ->
              receiverId ∈ after.members := by
            have kept := paired.stays _ List.mem_cons_self
            have stored' : (before.step call).rooms[roomId]? = some after :=
              stored
            simpa only [RoomTable.member?, found, stored', Option.bind_some,
              ← ExtTreeMap.mem_iff_isSome_getElem?] using kept
          obtain ⟨balance, flushed⟩ := exchange_step
            (RoomTable.consistent_of_run ran) found stored different pairs
            still stays (earlier.2 room found)
          have before_balance := earlier.1
          simp only [RoomTable.queue, found, Option.map_some,
            Option.getD_some] at before_balance
          refine ⟨?_, fun other there => ?_⟩
          · simp only [received, accepted, List.reverse_cons,
              List.flatMap_append, List.flatMap_singleton, RoomTable.queue] at before_balance ⊢
            rw [← before_balance, List.append_assoc, stored, Option.map_some,
              Option.getD_some, balance, List.append_assoc]
          · rw [stored] at there
            cases there
            exact flushed

/-- A member sends while it is alone, and again once a second member has
registered. -/
def exchangeOperations : List Operation :=
  [.send exampleRoomId 1 0 "offer",
    .admitClient 2 0 exampleRoomId 2 "second",
    .register exampleRoomId 2 "second",
    .send exampleRoomId 1 0 "candidate"]

/-- The exchange, from the state in which the first member is alone. -/
def exchange : History × RoomTable :=
  (RoomTable.machine 0).play []
    (RoomTable.played 0 [.admitClient 1 0 exampleRoomId 1 "first"]).2
    (exchangeOperations.map fun operation => ⟨operation, .sorted⟩)

theorem exchanged_once_registering :
    received exchange.1 exampleRoomId 1 2 ++
        exchange.2.queue exampleRoomId 1 =
      accepted exchange.1 exampleRoomId 1 := by
  have run := (RoomTable.played_run 0
    [.admitClient 1 0 exampleRoomId 1 "first"]).play
      (exchangeOperations.map fun operation => ⟨operation, .sorted⟩)
  rw [Machine.play_append] at run
  have checked : (exchange.2 :: exchange.1.map Prod.fst).all (fun state =>
        state.rooms[exampleRoomId]?.any fun room =>
          decide (room.mode = .p2p) && room.members.contains 1
            && room.members.keys.all fun clientId =>
              clientId = 1 || clientId = 2) = true := by
    decide +kernel
  have kept : exchange.1.all (fun event =>
      !(event.1.member? exampleRoomId 2).isSome ||
        ((event.1.step event.2).member? exampleRoomId 2).isSome) = true := by
    decide +kernel
  have start : (exchange.2 :: exchange.1.map Prod.fst).getLast?.all (fun state =>
      state.queue exampleRoomId 1 = []) = true := by
    decide +kernel
  refine exchanged_once run (by decide)
    ⟨fun state listed => ?_, fun event listed present => ?_⟩
    (fun state first => ?_)
  · obtain ⟨room, found, pairs⟩ := (Option.any_eq_true _ _).1
      (List.all_eq_true.1 checked state listed)
    simp only [Bool.and_eq_true, decide_eq_true_eq, List.all_eq_true,
      Bool.or_eq_true] at pairs
    exact ⟨room, found, pairs.1.1, pairs.1.2, fun clientId joined =>
      pairs.2 clientId (ExtTreeMap.mem_keys.2 joined)⟩
  · have stays := List.all_eq_true.1 kept event listed
    simpa [present] using stays
  · have nothing := (Option.all_eq_true _ _).1 start state first
    simpa using nothing

end V2
end Signaling
