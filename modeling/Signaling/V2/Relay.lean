import Signaling.V2.RoomMoves

/-!
# Direct relay

Where a message goes that the table relays or queues for direct delivery: to
the unique other member of a P2P room, and never to a membership that begins
after a member has been removed since the message was accepted. A failed room
takes part in direct relay as well, and removing a member of one keeps the
queues of an upgrade that can still be rolled back, so both are excluded.
-/

namespace Signaling
namespace V2

open Std (ExtTreeMap ExtTreeSet)
open RoomTable

namespace Call

/-- The call sends a message that the table relays or queues for direct
delivery. -/
def RelaysDirect
    (call : Call)
    (table : RoomTable)
    (roomId : RoomId)
    (clientId : ClientId)
    (message : String)
    (delivery : Option Delivery) : Prop :=
  ∃ signalEpoch,
    call.operation = .send roomId clientId signalEpoch message ∧
    (table.send call.order roomId clientId signalEpoch message).1 =
      .ok (.p2p delivery)

/-- The call registers a browser and hands it the messages queued for it. -/
def HandsOver
    (call : Call)
    (table : RoomTable)
    (roomId : RoomId)
    (clientId : ClientId)
    (messages : List String) : Prop :=
  ∃ token registration,
    call.operation = .register roomId clientId token ∧
    (table.register call.order roomId clientId token).1 = .ok registration ∧
    registration.queuedMessages = messages

/-- A message is sent into a failed room, or a member is removed from a failed
room whose upgrade is still in flight. -/
inductive Misroutes
    (call : Call)
    (table : RoomTable) : Prop
  | sendsToFailed
      {roomId : RoomId} {clientId : ClientId} {message : String} {room : Room}
      (found : table.rooms[roomId]? = some room)
      (failed : room.mode = .failed)
      (present : room.members[clientId]?.isSome)
      (asked : call.operation =
        .send roomId clientId room.signalEpoch message)
  | removesUpgrading
      {roomId : RoomId} {clientId : ClientId} {room : Room}
      (removes : call.Removes table roomId clientId)
      (found : table.rooms[roomId]? = some room)
      (failed : room.mode = .failed)
      (upgrading : room.upgrade.isSome)

end Call

/-- The second client is the only other member beside the first. -/
def Room.OnlyOther
    (room : Room)
    (clientId otherId : ClientId) : Prop :=
  otherId ≠ clientId ∧ ∀ someId : ClientId,
    room.members[someId]?.isSome ↔ someId = clientId ∨ someId = otherId

/-- Some member of a room is no longer one. -/
def RoomTable.Loses
    (table after : RoomTable)
    (roomId : RoomId) : Prop :=
  ∃ clientId, (table.member? roomId clientId).isSome ∧
    after.member? roomId clientId = none

/-- The message was queued by the sender in a step of the history, and a client
has been a member ever since each later loss of a member. -/
def QueuedFor
    (history : History)
    (roomId : RoomId)
    (senderId : ClientId)
    (message : String)
    (clientId : ClientId) : Prop :=
  ∃ newer table call older,
    history = newer ++ (table, call) :: older ∧
    call.RelaysDirect table roomId senderId message none ∧
    ∀ later lost removal earlier,
      newer = later ++ (lost, removal) :: earlier ->
      lost.Loses (lost.step removal) roomId ->
      ∀ event ∈ later, (event.1.member? roomId clientId).isSome

/-- One call relays, queues and hands over messages in P2P rooms only, and only
to the unique other member. -/
structure RelaySafe
    (older : History)
    (table : RoomTable)
    (call : Call) : Prop where
  direct : ∀ roomId clientId message delivery,
    call.RelaysDirect table roomId clientId message delivery -> ∃ room : Room,
      table.rooms[roomId]? = some room ∧ room.mode = .p2p ∧
        ∀ reached : Delivery, delivery = some reached ->
          reached.roomId = roomId ∧ reached.message = message ∧
            room.OnlyOther clientId reached.clientId
  handed : ∀ roomId clientId messages,
    call.HandsOver table roomId clientId messages ->
    ∀ message ∈ messages, ∃ (room : Room) (senderId : ClientId),
      table.rooms[roomId]? = some room ∧ room.mode = .p2p ∧
        room.OnlyOther senderId clientId ∧
        QueuedFor older roomId senderId message clientId

namespace Room

/-- A room whose queues may still be handed over. -/
def MayRelay (room : Room) : Prop :=
  room.mode = .p2p ∨ room.upgrade.isSome

/-- A member beside the sender, other than the client of an upgrade in
flight. -/
def Peer
    (room : Room)
    (senderId clientId : ClientId) : Prop :=
  room.members[clientId]?.isSome ∧ clientId ≠ senderId ∧
    ∀ upgrade, room.upgrade = some upgrade ->
      clientId ≠ upgrade.joiningClientId

/-- Every client of an upgrade in flight is a member. -/
def Manned (room : Room) : Prop :=
  ∀ upgrade, room.upgrade = some upgrade ->
    ∀ clientId ∈ upgrade.orderedClients, room.members[clientId]?.isSome

/-- The sender's queue holds the message. -/
def Queues
    (room : Room)
    (senderId : ClientId)
    (message : String) : Prop :=
  ∃ member, room.members[senderId]? = some member ∧
    message ∈ member.queuedMessages

/-- How the peers of a sender may change while its queue is kept: none is added
beside an old one, none is left without another, and a loss leaves one. -/
structure Continues
    (room after : Room)
    (senderId : ClientId) : Prop where
  narrows : (∃ clientId, room.Peer senderId clientId) ->
    ∀ clientId, after.Peer senderId clientId -> room.Peer senderId clientId
  keeps : (∃ clientId, room.Peer senderId clientId) ->
    ∃ clientId, after.Peer senderId clientId
  loses : (∃ clientId : ClientId, room.members[clientId]?.isSome ∧
      after.members[clientId]? = none) ->
    ∃ clientId, after.Peer senderId clientId

theorem Continues.refl
    (room : Room)
    (senderId : ClientId) :
    room.Continues room senderId where
  narrows _ _ peer := peer
  keeps peer := peer
  loses := fun ⟨clientId, present, absent⟩ => by simp [absent] at present

theorem Continues.trans
    {first middle last : Room}
    {senderId : ClientId}
    (earlier : first.Continues middle senderId)
    (later : middle.Continues last senderId) :
    first.Continues last senderId where
  narrows some_peer clientId peer :=
    earlier.narrows some_peer clientId
      (later.narrows (earlier.keeps some_peer) clientId peer)
  keeps some_peer := later.keeps (earlier.keeps some_peer)
  loses := fun ⟨clientId, present, absent⟩ => by
    cases stands : middle.members[clientId]? with
    | none => exact later.keeps (earlier.loses ⟨clientId, present, stands⟩)
    | some member => exact later.loses ⟨clientId, by simp [stands], absent⟩

/-- Members and upgrade stay: so do the peers. -/
theorem Continues.of_same
    {room after : Room}
    (senderId : ClientId)
    (upgrade : after.upgrade = room.upgrade)
    (members : ∀ clientId : ClientId,
      after.members[clientId]?.isSome = room.members[clientId]?.isSome) :
    room.Continues after senderId := by
  have peers (clientId : ClientId) :
      after.Peer senderId clientId ↔ room.Peer senderId clientId := by
    simp only [Peer, upgrade, members]
  refine ⟨fun _ clientId => (peers clientId).1, fun ⟨clientId, peer⟩ =>
    ⟨clientId, (peers clientId).2 peer⟩, fun ⟨clientId, present, absent⟩ => ?_⟩
  rw [← members, absent] at present
  cases present

end Room

/-- No member is removed from a room whose upgrade is in flight. -/
def KeepsUpgrading
    (roomId : RoomId)
    (room : Option Room)
    (move : Move) : Prop :=
  match move with
  | .removeFailed removedFrom _ => removedFrom = roomId ->
      ∀ stored, room = some stored -> stored.upgrade = none
  | _ => True

namespace RoomMoved

variable
  {roomId : RoomId}
  {move : Move}
  {room after : Option Room}

/-- The clients of an upgrade in flight stay members. -/
theorem manned
    (moved : RoomMoved roomId move room after)
    (keeps : KeepsUpgrading roomId room move)
    (wellFormed : ∀ stored, room = some stored -> stored.WellFormed)
    (manned : ∀ stored, room = some stored -> stored.Manned)
    (stored : Room)
    (present : after = some stored) :
    stored.Manned := by
  have same {room : Room}
      (manned : room.Manned)
      (upgrade : stored.upgrade = room.upgrade)
      (members : ∀ clientId : ClientId, room.members[clientId]?.isSome ->
        stored.members[clientId]?.isSome) :
      stored.Manned := fun running flying clientId listed =>
    members clientId (manned running (upgrade ▸ flying) clientId listed)
  have none_running
      (idle : stored.upgrade = none) : stored.Manned := fun running flying => by
    rw [idle] at flying
    cases flying
  cases moved with
  | kept => exact manned stored present
  | create => cases present; exact none_running rfl
  | joinDirect now grace token lifecycleId fresh direct space =>
      cases present
      exact none_running ((wellFormed _ rfl).direct direct).2.2.1
  | beginUpgrade now grace token lifecycleId lifecycle instanceId fresh direct
      full =>
      cases present
      rintro upgrade ⟨rfl⟩ clientId listed
      rw [Room.mem_upgradeOrder] at listed
      simp only [Room.startUpgrade, Room.relive, Room.insertMember,
        ExtTreeMap.getElem?_map, Option.isSome_map] at listed ⊢
      grind
  | beginJoin now grace token lifecycleId fresh forwarded noJoin noLeave =>
      cases present
      exact none_running ((wellFormed _ rfl).forwarded forwarded).2
  | register settled found unregistered =>
      cases present
      refine same (manned _ rfl) (by simp) fun clientId joined => ?_
      rw [Room.registerMember_members]
      grind
  | dropWithLeave found registered forwarded noLeave =>
      cases present
      exact none_running ((wellFormed _ rfl).forwarded forwarded).2
  | dropWithGrace deadline found registered =>
      cases present
      refine same (manned _ rfl) rfl fun clientId joined => ?_
      simp only [Room.insertMember]
      grind
  | queueMessage found settled direct =>
      cases present
      refine same (manned _ rfl) rfl fun clientId joined => ?_
      simp only [Room.insertMember]
      grind
  | requestLeave found forwarded noJoin noLeave =>
      cases present
      exact same (manned _ rfl) rfl fun clientId joined => joined
  | removeFailed found noJoin noLeave failed =>
      rename_i room clientId member
      obtain rfl := Room.eq_of_stored present
      exact none_running (keeps rfl room rfl)
  | removeDirect found noJoin noLeave direct =>
      obtain rfl := Room.eq_of_stored present
      refine none_running ?_
      simpa using ((wellFormed _ rfl).direct direct).2.2.1
  | reportFailure | refuseSync | clearDeadline | refuseLeave | completeJoin
  | retryLeave =>
      cases present
      exact same (manned _ rfl) rfl fun clientId joined => joined
  | advanceUpgrade requestId upgrading unfinished =>
      cases present
      rintro upgrade ⟨rfl⟩ clientId listed
      exact manned _ rfl _ upgrading clientId listed
  | commitUpgrade => cases present; exact none_running rfl
  | abortUpgrade => cases present; exact none_running rfl
  | refuseJoin requestId joining =>
      rename_i room pendingJoin
      cases present
      have idle := (wellFormed room rfl).idle (Or.inl (by simp [joining]))
      exact none_running idle
  | completeLeave requestId deadline leaving armed =>
      rename_i room pendingLeave clientId
      obtain rfl := Room.eq_of_stored present
      have idle := (wellFormed room rfl).idle (Or.inr (by simp [leaving]))
      exact none_running idle
  | expireUpgrade => cases present; exact none_running rfl
  | expireRoom instanceId settled =>
      cases present
      rename_i room
      intro upgrade running clientId listed
      have noJoin := ((wellFormed room rfl).upgrade upgrade running).2.2.2.1
      simp only [Room.fail, noJoin]
      exact manned room rfl upgrade running clientId listed
  | downgrade forwarded =>
      cases present
      exact none_running ((wellFormed _ rfl).forwarded forwarded).2
  | rearmGrace deadline found unregistered forwarded =>
      cases present
      exact none_running ((wellFormed _ rfl).forwarded forwarded).2
  | expireMembers now direct =>
      obtain rfl := Room.eq_of_stored present
      refine none_running ?_
      simpa using ((wellFormed _ rfl).direct direct).2.2.1

end RoomMoved

/-- Two different members of a room with at most two are all its members. -/
theorem Room.onlyOther
    {room : Room}
    {clientId : ClientId}
    (otherId : ClientId)
    (small : room.members.size ≤ 2)
    (present : room.members[clientId]?.isSome)
    (beside : room.members[otherId]?.isSome)
    (different : otherId ≠ clientId) :
    room.OnlyOther clientId otherId := by
  refine ⟨different, fun someId => ⟨fun joined => ?_, ?_⟩⟩
  · by_contra outside
    simp only [not_or] at outside
    have three : [clientId, otherId, someId].Nodup := by
      simp only [List.nodup_cons, List.mem_cons, List.not_mem_nil, or_false,
        not_or, not_false_eq_true, List.nodup_nil, and_true]
      exact ⟨⟨different.symm, Ne.symm outside.1⟩, Ne.symm outside.2⟩
    have inside : [clientId, otherId, someId] ⊆ room.members.keys := by
      intro someone listed
      simp only [List.mem_cons, List.not_mem_nil, or_false] at listed
      simp only [ExtTreeMap.mem_keys]
      grind
    have length := (three.subperm inside).length_le
    simp only [ExtTreeMap.length_keys, List.length_cons, List.length_nil]
      at length
    omega
  · rintro (rfl | rfl)
    · exact present
    · exact beside

/-- A list of three different clients has one beside any two. -/
theorem exists_third
    {clients : List ClientId}
    (three : clients.length = 3)
    (distinct : clients.Nodup)
    (first second : ClientId) :
    ∃ clientId ∈ clients, clientId ≠ first ∧ clientId ≠ second := by
  by_contra none_left
  have inside : clients ⊆ [first, second] := by
    intro clientId listed
    by_contra outside
    simp only [List.mem_cons, List.not_mem_nil, or_false, not_or] at outside
    exact none_left ⟨clientId, listed, outside⟩
  have length := (distinct.subperm inside).length_le
  simp [three] at length

/-- Promotion neither adds nor drops a member. -/
theorem Room.promoteSurvivor_isSome
    (room : Room)
    (roomId : RoomId)
    (clientId : ClientId) :
    (promoteSurvivor roomId room).2.members[clientId]?.isSome =
      room.members[clientId]?.isSome := by
  rw [Room.promoteSurvivor_eq]
  split
  · simp [Room.promoteOnly]
  · rfl

/-- A promoted survivor has nothing queued. -/
theorem Room.not_queues_promoted
    {room : Room}
    {roomId : RoomId}
    {senderId : ClientId}
    {message : String}
    (direct : room.mode = .p2p)
    (alone : ∀ clientId : ClientId, room.members[clientId]?.isSome ->
      clientId = senderId) :
    ¬(promoteSurvivor roomId room).2.Queues senderId message := by
  rintro ⟨member, present, queued⟩
  rw [Room.promoteSurvivor_eq] at present
  split at present
  · simp only [Room.promoteOnly, ExtTreeMap.getElem?_map,
      Option.map_eq_some_iff] at present
    obtain ⟨former, -, rfl⟩ := present
    simp at queued
  · rename_i several
    have one : room.members.size = 1 := by
      have most := Room.size_le_of_subset room.members
        [senderId] (by simpa using alone)
      have listed : senderId ∈ room.members.keys := by
        simp only [ExtTreeMap.mem_keys]
        grind
      have least := List.length_pos_of_mem listed
      simp only [ExtTreeMap.length_keys, List.length_cons, List.length_nil]
        at most least
      omega
    exact several ⟨one, direct⟩

namespace Room

section Queues

variable
  {room : Room}
  {senderId : ClientId}
  {message : String}

/-- A room that relays has no join and no leave in flight. -/
theorem WellFormed.of_mayRelay
    (wellFormed : room.WellFormed)
    (relays : room.MayRelay) :
    room.pendingJoin = none ∧ room.pendingLeave = none := by
  rcases relays with direct | running
  · exact (wellFormed.direct direct).2.2.2
  · obtain ⟨upgrade, running⟩ := Option.isSome_iff_exists.1 running
    obtain ⟨-, -, -, noJoin, noLeave, -⟩ := wellFormed.upgrade upgrade running
    exact ⟨noJoin, noLeave⟩

/-- A change of an SFU room that keeps its mode leaves it silent. -/
theorem WellFormed.not_mayRelay
    {stored : Room}
    (wellFormed : room.WellFormed)
    (forwarded : room.mode = .sfu)
    (mode : stored.mode = room.mode)
    (upgrade : stored.upgrade = room.upgrade) :
    ¬stored.MayRelay := by
  rintro (direct | running)
  · simp [mode, forwarded] at direct
  · simp [upgrade, (wellFormed.forwarded forwarded).2] at running

/-- A rollback leaves queues of the room before it: a third client beside the
sender and the joining one is a peer before and after. -/
theorem release_queues
    {upgrade : Upgrade}
    (wellFormed : room.WellFormed)
    (manned : room.Manned)
    (running : room.upgrade = some upgrade)
    (queues : (room.release upgrade.joiningClientId).Queues senderId
      message) :
    room.Queues senderId message ∧
      room.Continues (room.release upgrade.joiningClientId) senderId := by
  obtain ⟨member, found, queued⟩ := queues
  simp only [release, rollBack, eraseMember] at found
  have sender : room.members[senderId]? = some member := by grind
  refine ⟨⟨member, sender, queued⟩, fun _ clientId peer => ?_, ?_,
    fun _ => ?_⟩
  · simp only [Peer, release, rollBack, eraseMember] at peer ⊢
    grind
  · rintro ⟨clientId, peer⟩
    refine ⟨clientId, ?_⟩
    simp only [Peer, release, rollBack, eraseMember] at peer ⊢
    grind
  · obtain ⟨flight, -⟩ := wellFormed.upgrade upgrade running
    obtain ⟨clientId, listed, other, another⟩ := exists_third flight.three
      flight.distinct senderId upgrade.joiningClientId
    have joined := manned upgrade running clientId listed
    refine ⟨clientId, ?_⟩
    simp only [Peer, release, rollBack, eraseMember]
    grind

section Change

variable
  {clientId : ClientId}
  {member : Member}

/-- The sender of a queue was alone when another client joined a P2P room. -/
theorem insertMember_queues
    (space : room.members.size < maxP2pMembers)
    (silent : member.queuedMessages = [])
    (queues : (room.insertMember clientId member).Queues senderId message) :
    room.Queues senderId message ∧
      room.Continues (room.insertMember clientId member) senderId := by
  obtain ⟨holder, found, queued⟩ := queues
  simp only [insertMember] at found
  have sender : room.members[senderId]? = some holder := by grind
  have alone (otherId : ClientId) : ¬room.Peer senderId otherId := by
    rintro ⟨joined, different, -⟩
    have both : [senderId, otherId].Nodup := by simp [different.symm]
    have inside : [senderId, otherId] ⊆ room.members.keys := by
      intro someone listed
      simp only [List.mem_cons, List.not_mem_nil, or_false] at listed
      simp only [ExtTreeMap.mem_keys]
      grind
    have length := (both.subperm inside).length_le
    simp only [ExtTreeMap.length_keys, List.length_cons, List.length_nil,
      maxP2pMembers] at length space
    omega
  refine ⟨⟨holder, sender, queued⟩, ?_, ?_, ?_⟩
  · rintro ⟨otherId, peer⟩
    exact absurd peer (alone otherId)
  · rintro ⟨otherId, peer⟩
    exact absurd peer (alone otherId)
  · rintro ⟨otherId, joined, absent⟩
    simp only [insertMember] at absent
    grind

/-- The start of an upgrade keeps the queues; the joining client is no peer. -/
theorem startUpgrade_queues
    {authorityRequestId : Nat}
    {lifecycle : ClientId -> Nat}
    {instanceId : InstanceId}
    (fresh : room.members.contains clientId = false)
    (noUpgrade : room.upgrade = none)
    (silent : member.queuedMessages = [])
    (queues : (room.startUpgrade authorityRequestId clientId member lifecycle
      instanceId).Queues senderId message) :
    room.Queues senderId message ∧
      room.Continues (room.startUpgrade authorityRequestId clientId member
        lifecycle instanceId) senderId := by
  obtain ⟨holder, found, queued⟩ := queues
  simp only [startUpgrade, relive, insertMember, ExtTreeMap.getElem?_map,
    Option.map_eq_some_iff] at found
  obtain ⟨former, found, rfl⟩ := found
  have sender : room.members[senderId]? = some former := by grind
  have peers (otherId : ClientId) : (room.startUpgrade authorityRequestId
      clientId member lifecycle instanceId).Peer senderId otherId ↔
        room.Peer senderId otherId := by
    simp only [Peer, startUpgrade, relive, insertMember,
      ExtTreeMap.getElem?_map, Option.isSome_map]
    grind
  refine ⟨⟨former, sender, queued⟩, fun _ otherId => (peers otherId).1, ?_, ?_⟩
  · rintro ⟨otherId, peer⟩
    exact ⟨otherId, (peers otherId).2 peer⟩
  · rintro ⟨otherId, joined, absent⟩
    simp only [startUpgrade, relive, insertMember, ExtTreeMap.getElem?_map]
      at absent
    grind

/-- A registration empties the queues that it hands over and keeps the
others. -/
theorem registerMember_queues
    (found : room.members[clientId]? = some member)
    (queues : (room.registerMember clientId member).Queues senderId message) :
    room.Queues senderId message ∧
      room.Continues (room.registerMember clientId member) senderId := by
  refine ⟨?_, .of_same senderId (by simp) fun otherId => ?_⟩
  · obtain ⟨holder, held, queued⟩ := queues
    rw [registerMember_members] at held
    split at held
    · rename_i same
      subst same
      cases held
      exact ⟨member, found, queued⟩
    · split at held
      · simp only [Option.map_eq_some_iff] at held
        obtain ⟨former, -, rfl⟩ := held
        simp at queued
      · exact ⟨holder, held, queued⟩
  · rw [registerMember_members]
    grind

/-- A new value of a member keeps every queue that it has kept. -/
theorem replaceMember_queues
    {changed : Member}
    (found : room.members[clientId]? = some member)
    (keeps : senderId = clientId -> message ∈ changed.queuedMessages ->
      message ∈ member.queuedMessages)
    (queues : (room.insertMember clientId changed).Queues senderId message) :
    room.Queues senderId message ∧
      room.Continues (room.insertMember clientId changed) senderId := by
  refine ⟨?_, .of_same senderId rfl fun otherId => ?_⟩
  · obtain ⟨holder, held, queued⟩ := queues
    simp only [insertMember] at held
    simp only [Queues]
    grind
  · simp only [insertMember]
    grind

/-- Nothing is queued after a removal from a P2P room. -/
theorem eraseMember_not_queues
    {roomId : RoomId}
    (wellFormed : room.WellFormed)
    (direct : room.mode = .p2p)
    (found : room.members[clientId]? = some member) :
    ¬(promoteSurvivor roomId (room.eraseMember clientId)).2.Queues senderId
      message := by
  rintro ⟨holder, held, queued⟩
  refine absurd ⟨holder, held, queued⟩ (not_queues_promoted
    (by simpa using direct) fun otherId joined => ?_)
  have sender : (room.eraseMember clientId).members[senderId]?.isSome := by
    rw [← promoteSurvivor_isSome, held]
    rfl
  simp only [eraseMember] at joined sender
  have others := (onlyOther senderId (wellFormed.direct direct).1
    (by rw [found]; rfl) (by grind) (by grind)).2 otherId
  grind

end Change

/-- What is queued after an expiry was queued before, and nobody expired. -/
theorem expireMembers_queues
    {roomId : RoomId}
    {now : Instant}
    (wellFormed : room.WellFormed)
    (direct : room.mode = .p2p)
    (queues : (room.expireMembers roomId now).2.Queues senderId message) :
    (room.expireMembers roomId now).2 = room := by
  by_cases expires : room.expiredClients now = []
  · simp [expireMembers, expires, eraseMembers]
  obtain ⟨expiredId, expired⟩ := List.exists_mem_of_ne_nil _ expires
  have promoted : (room.expireMembers roomId now).2 = (promoteSurvivor
      roomId (room.eraseMembers (room.expiredClients now))).2 := by
    simp [expireMembers, expires]
  rw [promoted] at queues
  obtain ⟨holder, held, queued⟩ := queues
  refine absurd ⟨holder, held, queued⟩ (not_queues_promoted
    (by rw [eraseMembers_eq]; exact direct) fun otherId joined => ?_)
  have sender : (room.eraseMembers (room.expiredClients
      now)).members[senderId]?.isSome := by
    rw [← promoteSurvivor_isSome, held]
    rfl
  have member : room.members[expiredId]?.isSome := by
    simp only [expiredClients, List.mem_filter] at expired
    grind
  rw [eraseMembers_members] at joined sender
  have others := (onlyOther senderId (wellFormed.direct direct).1 member
    (by grind) (by grind)).2 otherId
  grind

end Queues

end Room

namespace RoomMoved

variable
  {roomId : RoomId}
  {move : Move}
  {room after : Option Room}

/-- A queued message was queued by this move, or before it in the same room with
peers that the move continues. -/
theorem queues
    (moved : RoomMoved roomId move room after)
    (keeps : KeepsUpgrading roomId room move)
    (wellFormed : ∀ stored, room = some stored -> stored.WellFormed)
    (manned : ∀ stored, room = some stored -> stored.Manned)
    {stored : Room}
    {senderId : ClientId}
    {message : String}
    (present : after = some stored)
    (relays : stored.MayRelay)
    (queues : stored.Queues senderId message) :
    move = .queueMessage roomId senderId message ∨
      ∃ former, room = some former ∧ former.MayRelay ∧
        former.Queues senderId message ∧
        former.Continues stored senderId := by
  cases moved with
  | kept => exact Or.inr ⟨stored, present, relays, queues, .refl stored senderId⟩
  | create =>
      cases present
      obtain ⟨member, found, queued⟩ := queues
      simp only [Room.create] at found
      grind [newMember]
  | joinDirect now grace token lifecycleId fresh direct space =>
      rename_i room clientId
      cases present
      exact Or.inr ⟨room, rfl, Or.inl direct,
        Room.insertMember_queues space rfl queues⟩
  | beginUpgrade now grace token lifecycleId lifecycle instanceId fresh direct
      full =>
      rename_i room clientId authorityRequestId
      cases present
      exact Or.inr ⟨room, rfl, Or.inl direct, Room.startUpgrade_queues fresh
        ((wellFormed room rfl).direct direct).2.2.1 rfl queues⟩
  | beginJoin now grace token lifecycleId fresh forwarded noJoin noLeave =>
      rename_i room clientId authorityRequestId
      cases present
      exact absurd relays ((wellFormed room rfl).not_mayRelay forwarded rfl rfl)
  | register settled found unregistered =>
      rename_i room clientId member
      cases present
      exact Or.inr ⟨room, rfl, by simpa [Room.MayRelay] using relays,
        Room.registerMember_queues found queues⟩
  | dropWithLeave found registered forwarded noLeave =>
      rename_i room clientId member
      cases present
      exact absurd relays ((wellFormed room rfl).not_mayRelay forwarded rfl rfl)
  | dropWithGrace deadline found registered =>
      rename_i room clientId member
      cases present
      exact Or.inr ⟨room, rfl, relays, Room.replaceMember_queues found
        (fun _ queued => queued) queues⟩
  | queueMessage found settled direct =>
      rename_i room clientId member sent
      cases present
      by_cases new : senderId = clientId ∧ message = sent
      · obtain ⟨rfl, rfl⟩ := new
        exact Or.inl rfl
      · exact Or.inr ⟨room, rfl, relays, Room.replaceMember_queues found
          (by grind) queues⟩
  | requestLeave found forwarded noJoin noLeave =>
      rename_i room clientId member authorityRequestId
      cases present
      exact absurd relays ((wellFormed room rfl).not_mayRelay forwarded rfl rfl)
  | removeFailed found noJoin noLeave failed =>
      rename_i room clientId member
      obtain rfl := Room.eq_of_stored present
      have noUpgrade := keeps rfl room rfl
      rcases relays with direct | running
      · simp [failed] at direct
      · simp [noUpgrade] at running
  | removeDirect found noJoin noLeave direct =>
      rename_i room clientId member
      obtain rfl := Room.eq_of_stored present
      exact absurd queues
        (Room.eraseMember_not_queues (wellFormed room rfl) direct found)
  | reportFailure | refuseSync =>
      rename_i room _
      cases present
      rcases relays with direct | running
      · cases direct
      · exact Or.inr ⟨room, rfl, Or.inr running, queues,
          .of_same senderId rfl fun _ => rfl⟩
  | advanceUpgrade requestId upgrading unfinished =>
      rename_i room upgrade clientId
      cases present
      have peers (otherId : ClientId) :
          (room.advanceUpgrade upgrade clientId).Peer senderId otherId ↔
            room.Peer senderId otherId := by
        simp [Room.Peer, Room.advanceUpgrade, upgrading]
      refine Or.inr ⟨room, rfl, Or.inr (by simp [upgrading]), queues,
        fun _ otherId => (peers otherId).1, ?_, ?_⟩
      · rintro ⟨otherId, peer⟩
        exact ⟨otherId, (peers otherId).2 peer⟩
      · rintro ⟨otherId, joined, absent⟩
        have same : room.members[otherId]? = none := absent
        simp [same] at joined
  | commitUpgrade requestId upgrading finished =>
      cases present
      rcases relays with direct | running
      · cases direct
      · cases running
  | abortUpgrade requestId upgrading =>
      rename_i room upgrade
      cases present
      exact Or.inr ⟨room, rfl, Or.inr (by simp [upgrading]),
        Room.release_queues (wellFormed room rfl) (manned room rfl) upgrading
          queues⟩
  | completeJoin instanceId requestId joining =>
      rename_i room pendingJoin clientId
      cases present
      simp [((wellFormed room rfl).of_mayRelay relays).1] at joining
  | refuseJoin requestId joining =>
      rename_i room pendingJoin
      cases present
      simp [((wellFormed room rfl).of_mayRelay relays).1] at joining
  | completeLeave requestId deadline leaving armed =>
      rename_i room pendingLeave clientId
      obtain rfl := Room.eq_of_stored present
      simp [((wellFormed room rfl).of_mayRelay relays).2] at leaving
  | refuseLeave requestId leaving =>
      rename_i room pendingLeave
      cases present
      simp [((wellFormed room rfl).of_mayRelay relays).2] at leaving
  | expireUpgrade instanceId upgrading running =>
      rename_i room upgrade
      cases present
      exact Or.inr ⟨room, rfl, Or.inr (by simp [running]),
        Room.release_queues (wellFormed room rfl) (manned room rfl) running
          queues⟩
  | expireRoom instanceId settled =>
      rename_i room
      cases present
      rcases relays with direct | running
      · cases direct
      · have noJoin := ((wellFormed room rfl).of_mayRelay (Or.inr running)).1
        have members : room.fail.members = room.members := by
          simp [Room.fail, noJoin]
        refine Or.inr ⟨room, rfl, Or.inr running, ?_,
          .of_same senderId rfl fun otherId => by rw [members]⟩
        simpa only [Room.Queues, members] using queues
  | downgrade forwarded small noJoin noLeave clients =>
      rename_i room initiatorClientId others
      cases present
      obtain ⟨holder, held, queued⟩ := queues
      simp only [Room.commitP2p, ExtTreeMap.getElem?_map,
        Option.map_eq_some_iff] at held
      obtain ⟨former, -, rfl⟩ := held
      simp at queued
  | clearDeadline ineligible =>
      rename_i room
      cases present
      exact Or.inr ⟨room, rfl, relays, queues,
        .of_same senderId rfl fun _ => rfl⟩
  | retryLeave found waiting forwarded noLeave =>
      rename_i room clientId member deadline
      cases present
      exact absurd relays ((wellFormed room rfl).not_mayRelay forwarded rfl rfl)
  | rearmGrace deadline found unregistered forwarded =>
      rename_i room clientId member
      cases present
      exact absurd relays ((wellFormed room rfl).not_mayRelay forwarded rfl rfl)
  | expireMembers now direct =>
      rename_i room
      obtain rfl := Room.eq_of_stored present
      have same := Room.expireMembers_queues (wellFormed room rfl) direct queues
      rw [same] at relays queues ⊢
      exact Or.inr ⟨room, rfl, relays, queues, .refl room senderId⟩

end RoomMoved

/-- What a call leaves of the queues: every message was queued by the call, or
before it in the same room with peers that the call continues. -/
structure Relayed
    (before : RoomTable)
    (call : Call)
    (table : RoomTable) : Prop where
  manned : ∀ (roomId : RoomId) (room : Room),
    table.rooms[roomId]? = some room -> room.Manned
  queues : ∀ (roomId : RoomId) (room : Room) (senderId : ClientId)
    (message : String),
    table.rooms[roomId]? = some room -> room.MayRelay ->
    room.Queues senderId message ->
    call.RelaysDirect before roomId senderId message none ∨
      ∃ former, before.rooms[roomId]? = some former ∧ former.MayRelay ∧
        former.Queues senderId message ∧ former.Continues room senderId

/-- Each move of a call that does not misroute continues the queues. -/
theorem Relayed.moved
    {before table table' : RoomTable}
    {call : Call}
    {phase phase' : Option InstanceId}
    {move : Move}
    (obeys : ¬call.Misroutes before)
    (taken : Moved phase table move phase' table')
    (arises : Arises before call table move)
    (consistent : table.Consistent)
    (relayed : Relayed before call table) :
    Relayed before call table' := by
  have keeps (roomId : RoomId) :
      KeepsUpgrading roomId table.rooms[roomId]? move := by
    cases move <;> simp only [KeepsUpgrading]
    case removeFailed removedFrom clientId =>
      cases taken with
      | removeFailed found present noJoin noLeave failed =>
          rintro rfl stored there
          obtain ⟨rfl, removes⟩ := arises
          obtain rfl := Option.some.inj (found.symm.trans there)
          by_contra running
          exact obeys (.removesUpgrading removes found failed
            (Option.isSome_iff_ne_none.2 running))
  have shape (roomId : RoomId) (room : Room)
      (found : table.rooms[roomId]? = some room) : room.WellFormed :=
    consistent.wellFormed.rooms roomId room found
  refine ⟨fun roomId room found => (taken.room consistent.wellFormed
    roomId).manned (keeps roomId) (shape roomId) (relayed.manned roomId) room
      found, fun roomId room senderId message found relays queues => ?_⟩
  rcases (taken.room consistent.wellFormed roomId).queues (keeps roomId)
    (shape roomId) (relayed.manned roomId) found relays queues with rfl |
      ⟨former, there, relays, queues, continues⟩
  · obtain ⟨rfl, signalEpoch, asked, sent⟩ := arises
    exact Or.inl ⟨signalEpoch, asked, sent⟩
  · rcases relayed.queues roomId former senderId message there relays queues
      with sent | ⟨first, initial, relays, queues, earlier⟩
    · exact Or.inl sent
    · exact Or.inr ⟨first, initial, relays, queues, earlier.trans continues⟩

/-- The message was queued by the sender in a step of the history, and since
each later loss of a member the sender has had the peers that it has now. -/
def QueuedBy
    (history : History)
    (roomId : RoomId)
    (room : Room)
    (senderId : ClientId)
    (message : String) : Prop :=
  ∃ newer table call older,
    history = newer ++ (table, call) :: older ∧
    call.RelaysDirect table roomId senderId message none ∧
    ∀ later lost removal earlier,
      newer = later ++ (lost, removal) :: earlier ->
      lost.Loses (lost.step removal) roomId ->
      (∃ clientId, room.Peer senderId clientId) ∧
        ∀ clientId, room.Peer senderId clientId ->
          ∀ event ∈ later, (event.1.member? roomId clientId).isSome

/-- Queued messages have been sent, and clients of an upgrade are members. -/
structure QueuesSound
    (history : History)
    (table : RoomTable) : Prop where
  manned : ∀ (roomId : RoomId) (room : Room),
    table.rooms[roomId]? = some room -> room.Manned
  queues : ∀ (roomId : RoomId) (room : Room) (senderId : ClientId)
    (message : String),
    table.rooms[roomId]? = some room -> room.MayRelay ->
    room.Queues senderId message ->
    QueuedBy history roomId room senderId message

theorem QueuesSound.next
    {history : History}
    {table : RoomTable}
    {call : Call}
    (sound : QueuesSound history table)
    (consistent : table.Consistent)
    (obeys : ¬call.Misroutes table) :
    QueuesSound ((table, call) :: history) (table.step call) := by
  have relayed : Relayed table call (table.step call) :=
    consistent.step_invariant (fun _ middle =>
      Relayed table call middle)
      (fun _ _ _ _ _ taken arises here relayed =>
        relayed.moved obeys taken arises here)
      ⟨sound.manned, fun roomId room senderId message found relays queues =>
        Or.inr ⟨room, found, relays, queues, .refl room senderId⟩⟩
  refine ⟨relayed.manned, fun roomId room senderId message found relays queues =>
    ?_⟩
  rcases relayed.queues roomId room senderId message found relays queues with
    sent | ⟨former, before, relays, queues, continues⟩
  · exact ⟨[], table, call, history, rfl, sent, by simp⟩
  · obtain ⟨newer, accepted, sending, older, rfl, sent, since⟩ :=
      sound.queues roomId former senderId message before relays queues
    refine ⟨(table, call) :: newer, accepted, sending, older, rfl, sent,
      fun later lost removal earlier split loses => ?_⟩
    cases later with
    | nil =>
        simp only [List.nil_append, List.cons.injEq, Prod.mk.injEq] at split
        obtain ⟨⟨rfl, rfl⟩, rfl⟩ := split
        obtain ⟨clientId, present, absent⟩ := loses
        simp only [RoomTable.member?, before, found, Option.bind_some]
          at present absent
        exact ⟨continues.loses ⟨clientId, present, absent⟩, by simp⟩
    | cons event later =>
        simp only [List.cons_append, List.cons.injEq] at split
        obtain ⟨rfl, split⟩ := split
        obtain ⟨some_peer, stayed⟩ :=
          since later lost removal earlier split loses
        refine ⟨continues.keeps some_peer, fun clientId peer => ?_⟩
        have was := continues.narrows some_peer clientId peer
        simp only [List.mem_cons, forall_eq_or_imp]
        exact ⟨by simpa [RoomTable.member?, before] using was.1,
          stayed clientId was⟩

theorem queues_sound_of_run
    {reconnectGrace : Duration}
    {history : History}
    {table : RoomTable}
    (run : (RoomTable.machine reconnectGrace).Run history table)
    (guarded : Machine.Guarded (fun table call => ¬call.Misroutes table)
      history) :
    QueuesSound history table := by
  refine run.history_invariant QueuesSound
    (fun table starts => ?_) (fun history table call ran obeys sound =>
      sound.next (consistent_of_run ran) obeys) guarded
  obtain rfl : table = RoomTable.new reconnectGrace := starts
  exact ⟨by simp, by simp⟩

/-- A message is relayed or queued in a P2P room only, and relayed to the unique
other member. -/
theorem RoomTable.Consistent.relays_direct
    {table : RoomTable}
    {call : Call}
    {roomId : RoomId}
    {clientId : ClientId}
    {message : String}
    {delivery : Option Delivery}
    (consistent : table.Consistent)
    (obeys : ¬call.Misroutes table)
    (relays : call.RelaysDirect table roomId clientId message delivery) :
    ∃ room : Room, table.rooms[roomId]? = some room ∧ room.mode = .p2p ∧
      ∀ reached : Delivery, delivery = some reached ->
        reached.roomId = roomId ∧ reached.message = message ∧
          room.OnlyOther clientId reached.clientId := by
  obtain ⟨signalEpoch, asked, sent⟩ := relays
  unfold RoomTable.send at sent
  split at sent
  · cases sent
  rename_i room found
  split at sent
  · cases sent
  rename_i current
  simp only [Bool.or_eq_true, decide_eq_true_eq, not_or, ne_eq, not_not]
    at current
  split at sent
  · cases sent
  rename_i member present
  split at sent
  · split at sent
    · cases sent
    · split at sent <;> cases sent
  rename_i notForwarded
  have direct : room.mode = .p2p := by
    have standing : room.mode ≠ .failed := fun failed =>
      obeys (@Call.Misroutes.sendsToFailed _ _ _ clientId _ _ found failed
        (by rw [present]; rfl) (by rw [current.1]; exact asked))
    cases mode : room.mode <;> simp_all
  refine ⟨room, found, direct, fun reached delivered => ?_⟩
  dsimp only at sent
  split at sent
  · rename_i peerId peer
    subst delivered
    cases sent
    obtain ⟨candidate, -⟩ := Option.filter_eq_some_iff.1 peer
    have different := List.find?_some candidate
    have listed := List.mem_of_find?_eq_some candidate
    simp only [Room.clients, HashOrder.mem_visit, ExtTreeMap.mem_keys]
      at listed
    exact ⟨rfl, rfl, Room.onlyOther _
      ((consistent.wellFormed.rooms roomId room found).direct direct).1
      (by simp [present]) (by grind) (by simpa using different)⟩
  · split at sent
    · cases sent
    · cases sent
      cases delivered

/-- A registering browser is handed messages in a P2P room only, each queued by
another member. -/
theorem queues_of_handed
    {call : Call}
    {table : RoomTable}
    {roomId : RoomId}
    {clientId : ClientId}
    {messages : List String}
    {message : String}
    (handed : call.HandsOver table roomId clientId messages)
    (listed : message ∈ messages) :
    ∃ (room : Room) (senderId : ClientId),
      table.rooms[roomId]? = some room ∧ room.mode = .p2p ∧
        room.members[clientId]?.isSome ∧ senderId ≠ clientId ∧
        room.Queues senderId message := by
  obtain ⟨token, registration, asked, registered, rfl⟩ := handed
  unfold RoomTable.register at registered
  split at registered
  · cases registered
  rename_i room found
  split at registered
  · cases registered
  split at registered
  · cases registered
  rename_i member present
  split at registered
  · cases registered
  split at registered
  · cases registered
  cases registered
  simp only at listed
  split at listed
  · rename_i direct
    simp only [Room.queuedFor, Room.clients, List.mem_flatMap,
      HashOrder.mem_visit, ExtTreeMap.mem_keys] at listed
    obtain ⟨senderId, joined, queued⟩ := listed
    split at queued
    · cases queued
    rename_i different
    split at queued
    · cases queued
    rename_i holder held
    exact ⟨room, senderId, found, direct, by simp [present], different, holder,
      held, queued⟩
  · cases listed

/-- In every run in which nothing is sent into a failed room and no member is
removed from one whose upgrade is in flight, direct relay never misroutes. -/
theorem relay_safe
    {reconnectGrace : Duration}
    {history newer older : History}
    {state table : RoomTable}
    {call : Call}
    (run : (RoomTable.machine reconnectGrace).Run history state)
    (guarded : Machine.Guarded (fun table call => ¬call.Misroutes table)
      history)
    (taken : history = newer ++ (table, call) :: older) :
    RelaySafe older table call := by
  subst taken
  have ran := run.before
  have consistent := consistent_of_run ran
  have obeys : ¬call.Misroutes table := guarded (table, call) (by simp)
  refine ⟨fun roomId clientId message delivery relays =>
    consistent.relays_direct obeys relays,
    fun roomId clientId messages handed message listed => ?_⟩
  obtain ⟨room, senderId, found, direct, present, different, queues⟩ :=
    queues_of_handed handed listed
  have shape := (consistent.wellFormed.rooms roomId room found).direct direct
  have sound := queues_sound_of_run ran guarded.older.tail
  obtain ⟨since, accepted, sending, before, rfl, sent, stayed⟩ :=
    sound.queues roomId room senderId message found (Or.inl direct) queues
  have sender : room.members[senderId]?.isSome := by
    obtain ⟨member, held, -⟩ := queues
    simp [held]
  refine ⟨room, senderId, found, direct,
    Room.onlyOther _ shape.1 sender present different.symm, since, accepted,
    sending, before, rfl, sent, fun later lost removal earlier split loses => ?_⟩
  refine (stayed later lost removal earlier split loses).2 clientId
    ⟨present, different.symm, fun upgrade running => ?_⟩
  simp [shape.2.2.1] at running

/-- Two browsers meet in a P2P room. -/
def pairOperations : List Operation :=
  [.admitClient 1 0 exampleRoomId 1 "first",
    .admitClient 2 0 exampleRoomId 2 "second",
    .register exampleRoomId 1 "first",
    .register exampleRoomId 2 "second"]

/-- The first member sends an offer. -/
def sendOffer : Call where
  operation := .send exampleRoomId 1 0 "offer"
  order := .sorted

theorem relay_safe_pair :
    RelaySafe (RoomTable.played 0 pairOperations).1
      (RoomTable.played 0 pairOperations).2 sendOffer := by
  have mode : (RoomTable.played 0 pairOperations).2.rooms[
      exampleRoomId]?.map Room.mode = some .p2p := by
    decide +kernel
  have begun : Machine.Guarded (fun table call => ¬call.Misroutes table)
      (RoomTable.played 0 pairOperations).1 := by
    refine RoomTable.played_guarded 0 pairOperations
      fun operation listed table misroutes => ?_
    simp only [pairOperations, List.mem_cons, List.not_mem_nil,
      or_false] at listed
    rcases misroutes with ⟨-, -, -, asked⟩ | ⟨⟨_, _, _, asked, -⟩, -, -, -⟩ <;>
      rcases listed with rfl | rfl | rfl | rfl <;> cases asked
  refine @relay_safe _ _ [] _ _ _ _
    ((RoomTable.played_run 0 pairOperations).next sendOffer)
    (fun event present => ?_) rfl
  rcases List.mem_cons.1 present with rfl | earlier
  · rintro (⟨found, failed, -, asked⟩ | ⟨⟨_, _, _, asked, -⟩, -, -, -⟩)
    · simp only [sendOffer, Operation.send.injEq] at asked
      obtain ⟨rfl, -⟩ := asked
      simp [found, failed] at mode
    · cases asked
  · exact begun event earlier

/-- A worker's report fails a P2P room whose member then sends. -/
def sendToFailedOperations : List Operation :=
  [.admitClient 1 0 exampleRoomId 1 "first",
    .handleSfuInput (.register 1 "sfu" 1 ⟨1, 3⟩),
    .handleSfuInput (.event 1 "sfu" ⟨1, .failure ⟨"OVERLOADED", false⟩
      (some exampleRoomId) none none none⟩)]

/-- A failed room queues a message for direct delivery. -/
theorem relay_in_failed_room :
    ¬∀ (history newer older : History) (state table : RoomTable) (call : Call),
      (RoomTable.machine 0).Run history state ->
      history = newer ++ (table, call) :: older ->
      RelaySafe older table call := by
  intro safe
  have relays : sendOffer.RelaysDirect
      (RoomTable.played 0 sendToFailedOperations).2 exampleRoomId 1 "offer"
        none := by
    refine ⟨0, rfl, ?_⟩
    decide +kernel
  have mode : (RoomTable.played 0 sendToFailedOperations).2.rooms[
      exampleRoomId]?.map Room.mode = some .failed := by
    decide +kernel
  obtain ⟨room, found, direct, -⟩ := (safe _ [] _ _ _ sendOffer
    ((RoomTable.played_run 0 sendToFailedOperations).next sendOffer) rfl).direct
      exampleRoomId 1 "offer" none relays
  simp [found, direct] at mode

end V2
end Signaling
