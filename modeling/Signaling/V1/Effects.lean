import Signaling.V1.Room

/-!
# What the operations of a V1 room do

Every operation is described by what a lookup finds afterwards. The
descriptions hold in rooms whose clients are stored under their own ids and
which respect the capacity; every operation keeps a room so.
-/

namespace Signaling
namespace V1

open Std (ExtTreeMap)

theorem mem_of_found
    {clients : ExtTreeMap ClientId Client}
    {clientId : ClientId}
    {client : Client}
    (found : clients[clientId]? = some client) :
    clientId ∈ clients :=
  ExtTreeMap.mem_iff_isSome_getElem?.2 (by simp [found])

/-- Two distinct clients fill a room. -/
theorem two_le_size
    {clients : ExtTreeMap ClientId Client}
    {left right : ClientId}
    (first : left ∈ clients)
    (second : right ∈ clients)
    (distinct : left ≠ right) :
    2 ≤ clients.size := by
  have rest : right ∈ clients.erase left := by
    simpa [ExtTreeMap.mem_erase] using ⟨distinct, second⟩
  have shrunk : (clients.erase left).size = clients.size - 1 := by
    rw [ExtTreeMap.size_erase, if_pos (ExtTreeMap.contains_iff_mem.2 first)]
  have present : (clients.erase left).size ≠ 0 := by
    intro zero
    have nothing : clients.erase left = ∅ :=
      ExtTreeMap.eq_empty_iff_size_eq_zero.2 zero
    rw [nothing] at rest
    exact ExtTreeMap.not_mem_empty rest
  omega

/-- A client beside which there is no other is the only one. -/
theorem size_eq_one
    {clients : ExtTreeMap ClientId Client}
    {clientId : ClientId}
    {client : Client}
    (found : clients[clientId]? = some client)
    (alone : ∀ key, key ≠ clientId -> clients[key]? = none) :
    clients.size = 1 := by
  have nothing : clients.erase clientId = ∅ := by
    ext key : 1
    simp only [ExtTreeMap.getElem?_erase, ExtTreeMap.getElem?_empty,
      compare_eq_iff_eq]
    split
    · rfl
    · next apart => exact alone key (Ne.symm apart)
  have shrunk : (clients.erase clientId).size = clients.size - 1 := by
    rw [ExtTreeMap.size_erase,
      if_pos (ExtTreeMap.contains_iff_mem.2 (mem_of_found found))]
  have present : clients.size ≠ 0 := by
    intro zero
    rw [ExtTreeMap.eq_empty_iff_size_eq_zero.2 zero] at found
    simp at found
  rw [nothing, ExtTreeMap.size_empty] at shrunk
  omega

/-- Among the clients of a room beside one of them there is at most one. -/
theorem eq_of_beside
    {clients : ExtTreeMap ClientId Client}
    {clientId left right : ClientId}
    (space : clients.size ≤ maxRoomCapacity)
    (present : clientId ∈ clients)
    (first : left ∈ clients)
    (second : right ∈ clients)
    (leftBeside : left ≠ clientId)
    (rightBeside : right ≠ clientId) :
    left = right := by
  by_contra distinct
  have leftStays : left ∈ clients.erase clientId := by
    simpa [ExtTreeMap.mem_erase] using ⟨leftBeside.symm, first⟩
  have rightStays : right ∈ clients.erase clientId := by
    simpa [ExtTreeMap.mem_erase] using ⟨rightBeside.symm, second⟩
  have two := two_le_size leftStays rightStays distinct
  rw [ExtTreeMap.size_erase,
    if_pos (ExtTreeMap.contains_iff_mem.2 present)] at two
  simp only [maxRoomCapacity] at space
  omega

namespace Client

/-- The client is due for removal: its deadline has passed while nobody is
connected to it. -/
def Due (client : Client) (now : Instant) : Prop :=
  client.registered = false ∧
    ∃ deadline, client.timeout = some deadline ∧ deadline ≤ now

instance (client : Client) (now : Instant) : Decidable (client.Due now) :=
  match timeout : client.timeout with
  | none => .isFalse fun due => by simp [Due, timeout] at due
  | some deadline =>
      decidable_of_iff (client.registered = false ∧ deadline ≤ now)
        (by simp [Due, timeout])

/-- The client is stored under its own id, has nothing left to surface and
waits for nobody while it is registered. -/
structure Sound (client : Client) (roomId : RoomId) (clientId : ClientId) :
    Prop where
  id : client.id = clientId
  roomId : client.roomId = roomId
  quiet : client.events = []
  bound : client.registered = true -> client.timeout = none

theorem Sound.new
    (roomId : RoomId)
    (clientId : ClientId)
    (timeout : Option Instant) :
    (Client.new clientId roomId timeout).Sound roomId clientId where
  id := rfl
  roomId := rfl
  quiet := rfl
  bound := by simp

/-- Soundness looks at the identity, the events, the registration and the
deadline only. -/
theorem Sound.of_same
    {client after : Client}
    {roomId : RoomId}
    {clientId : ClientId}
    (sound : client.Sound roomId clientId)
    (id : after.id = client.id)
    (room : after.roomId = client.roomId)
    (events : after.events = client.events)
    (registered : after.registered = client.registered)
    (timeout : after.timeout = client.timeout) :
    after.Sound roomId clientId where
  id := id.trans sound.id
  roomId := room.trans sound.roomId
  quiet := events.trans sound.quiet
  bound := by
    rw [registered, timeout]
    exact sound.bound

/-- The client with a connection bound to it. -/
@[simps] def bind (client : Client) : Client :=
  { client with registered := true, timeout := none }

theorem register_eq (client : Client) :
    client.register =
      if client.registered then .error "Duplicated registration"
      else .ok client.bind := by
  simp only [register, setTimer, bind]

/-- The client with one more message queued for its peer. -/
@[simps] def queue (client : Client) (msg : String) : Client :=
  { client with msgs := client.msgs ++ [msg] }

/-- The client with its queue taken. -/
@[simps] def drained (client : Client) : Client :=
  { client with msgs := [] }

/-- Deliver several messages to the client. -/
@[simps] def deliver (client : Client) (msgs : List String) : Client :=
  { client with
    writes := client.writes ++
      msgs.map fun msg => ⟨client.roomId, client.id, msg⟩ }

theorem deliver_foldl
    (client : Client)
    (roomId : RoomId)
    (msgs : List String) :
    msgs.foldl
        (fun client msg => client.handleWrite ⟨roomId, client.id, msg⟩)
        client =
      { client with
        writes := client.writes ++
          msgs.map fun msg => ⟨roomId, client.id, msg⟩ } := by
  induction msgs generalizing client with
  | nil => simp
  | cons msg msgs inductionHypothesis =>
      rw [List.foldl_cons, inductionHypothesis]
      simp [handleWrite]

end Client

namespace Room

/-- Every client of the room is sound and there are at most two. -/
structure Sound (room : Room) : Prop where
  clients : ∀ (clientId : ClientId) (client : Client),
    room.clients[clientId]? = some client -> client.Sound room.id clientId
  space : room.clients.size ≤ maxRoomCapacity

theorem Sound.new (id : RoomId) (registerTimeout : Duration) :
    (Room.new id registerTimeout).Sound where
  clients := by simp
  space := by simp

/-- The client that an operation works on: the stored one, or a new one that
the room still has space for. -/
inductive Hands
    (room : Room)
    (now : Instant)
    (clientId : ClientId) : Client -> Prop
  | stored {client : Client} :
      room.clients[clientId]? = some client ->
      Hands room now clientId client
  | created :
      room.clients[clientId]? = none ->
      room.clients.size < maxRoomCapacity ->
      Hands room now clientId (Client.new clientId room.id
        (some (now + room.registerTimeout)))

theorem Hands.sound
    {room : Room}
    {now : Instant}
    {clientId : ClientId}
    {client : Client}
    (hands : room.Hands now clientId client)
    (sound : room.Sound) :
    client.Sound room.id clientId := by
  cases hands with
  | stored found => exact sound.clients _ _ found
  | created => exact Client.Sound.new ..

theorem setClient_getElem?
    (room : Room)
    (clientId key : ClientId)
    (client : Client) :
    (room.setClient clientId client).clients[key]? =
      if clientId = key then some client else room.clients[key]? := by
  simp [setClient, ExtTreeMap.getElem?_insert]

theorem setClient_stored
    (room : Room)
    (clientId : ClientId)
    (client : Client) :
    (room.setClient clientId client).clients[clientId]? = some client := by
  rw [setClient_getElem?, if_pos rfl]

theorem setClient_beside
    (room : Room)
    {clientId key : ClientId}
    (client : Client)
    (beside : clientId ≠ key) :
    (room.setClient clientId client).clients[key]? = room.clients[key]? := by
  rw [setClient_getElem?, if_neg beside]

/-- Storing a client again changes nothing. -/
theorem setClient_self
    {room : Room}
    {clientId : ClientId}
    {client : Client}
    (found : room.clients[clientId]? = some client) :
    room.setClient clientId client = room := by
  simp only [setClient]
  congr 1
  ext key : 1
  rw [ExtTreeMap.getElem?_insert]
  split
  · next equal => rw [← compare_eq_iff_eq.1 equal, found]
  · rfl

/-- The client stored last is the one that stays. -/
theorem setClient_setClient
    (room : Room)
    (clientId : ClientId)
    (client after : Client) :
    (room.setClient clientId client).setClient clientId after =
      room.setClient clientId after := by
  simp only [setClient]
  congr 1
  ext key : 1
  simp only [ExtTreeMap.getElem?_insert]
  split <;> rfl

/-- There is still space for the client that an operation works on. -/
theorem Sound.setClient
    {room : Room}
    {now : Instant}
    {clientId : ClientId}
    {client after : Client}
    (sound : room.Sound)
    (hands : room.Hands now clientId client)
    (kept : after.Sound room.id clientId) :
    (room.setClient clientId after).Sound where
  clients := by
    intro key found present
    rw [setClient_getElem?] at present
    split at present
    · next equal =>
        subst equal
        obtain rfl : after = found := by simpa using present
        exact kept
    · exact sound.clients _ _ present
  space := by
    have space := sound.space
    simp only [Room.setClient, ExtTreeMap.size_insert]
    split
    · exact space
    · cases hands with
      | stored found =>
          next outside =>
            exact absurd (ExtTreeMap.mem_iff_isSome_getElem?.2
              (by simp [found])) outside
      | created _ spare => omega

/-- The other client of a room is the one that the walk finds. -/
theorem other?_cases
    (room : Room)
    (order : VisitOrder)
    (clientId : ClientId) :
    (room.other? order clientId = none ∧
        ∀ key, key ≠ clientId -> room.clients[key]? = none) ∨
      ∃ otherId other, otherId ≠ clientId ∧
        room.clients[otherId]? = some other ∧
        room.other? order clientId = some (otherId, other) := by
  cases found : room.other? order clientId with
  | none =>
      refine .inl ⟨rfl, fun key beside => ?_⟩
      by_contra present
      obtain ⟨client, stored⟩ := Option.ne_none_iff_exists'.1 present
      have listed : (key, client) ∈ room.walk order := by
        rw [walk, HashOrder.mem_visit]
        exact ExtTreeMap.mem_toList_iff_getElem?_eq_some.2 stored
      have rejected := List.find?_eq_none.1 found _ listed
      simp [beside] at rejected
  | some entry =>
      obtain ⟨otherId, other⟩ := entry
      have beside : otherId ≠ clientId := by
        simpa using List.find?_some found
      have listed : (otherId, other) ∈ room.walk order :=
        List.mem_of_find?_eq_some found
      rw [walk, HashOrder.mem_visit] at listed
      exact .inr ⟨otherId, other, beside,
        ExtTreeMap.mem_toList_iff_getElem?_eq_some.1 listed, rfl⟩

/-- `client` fails in a full room only, and otherwise hands out a client that is
stored afterwards. -/
theorem client_cases
    (room : Room)
    (now : Instant)
    (clientId : ClientId) :
    (∃ error, room.client now clientId = .error error ∧
        error = "Max room capacity reached") ∨
      ∃ client, room.Hands now clientId client ∧
        room.client now clientId =
          .ok (client, room.setClient clientId client) := by
  unfold client
  cases found : room.clients[clientId]? with
  | some client =>
      exact .inr ⟨client, .stored found, by simp [setClient_self found]⟩
  | none =>
      by_cases full : room.clients.size ≥ maxRoomCapacity
      · exact .inl ⟨"Max room capacity reached", by simp [full]⟩
      · exact .inr ⟨_, .created found (by omega), by simp [full]⟩

/-- A registration fails without a change; or it binds the client and hands it
what the other client, if there is one, has queued. -/
theorem Sound.register_cases
    {room : Room}
    (sound : room.Sound)
    (order : VisitOrder)
    (now : Instant)
    (clientId : ClientId) :
    (∃ error, room.register order now clientId = (.error error, room)) ∨
      ∃ client, room.Hands now clientId client ∧
        client.registered = false ∧
        (((∀ key, key ≠ clientId -> room.clients[key]? = none) ∧
            room.register order now clientId =
              (.ok (), room.setClient clientId client.bind)) ∨
          ∃ otherId other, otherId ≠ clientId ∧
            room.clients[otherId]? = some other ∧
            room.register order now clientId = (.ok (),
              ((room.setClient clientId client.bind).setClient otherId
                other.drained).setClient clientId
                  (client.bind.deliver other.msgs))) := by
  rcases room.client_cases now clientId with ⟨error, failed, -⟩ |
    ⟨client, hands, handed⟩
  · exact .inl ⟨error, by simp [register, failed]⟩
  cases registered : client.registered with
  | true =>
      cases hands with
      | created => simp at registered
      | stored found =>
          refine .inl ⟨"Duplicated registration", ?_⟩
          simp [register, handed, Client.register_eq, registered,
            setClient_self found]
  | false =>
      refine .inr ⟨client, hands, registered, ?_⟩
      simp only [register, handed, Client.register_eq, registered,
        Bool.false_eq_true, if_false, setClient_setClient]
      rcases (room.setClient clientId client.bind).other?_cases order clientId
        with ⟨none, alone⟩ | ⟨otherId, other, beside, found, met⟩
      · refine .inl ⟨fun key away => ?_, by simp [none]⟩
        have absent := alone key away
        rwa [setClient_beside _ _ (Ne.symm away)] at absent
      · rw [setClient_beside _ _ (Ne.symm beside)] at found
        have crowded :
            (room.setClient clientId client.bind).clients.size > 1 :=
          two_le_size
            (mem_of_found (room.setClient_stored clientId client.bind))
            (mem_of_found
              ((room.setClient_beside _ (Ne.symm beside)).trans found))
            (Ne.symm beside)
        have otherSound := sound.clients _ _ found
        have clientSound := hands.sound sound
        have apart : ¬other.id = client.id := by
          rw [otherSound.id, clientSound.id]
          exact beside
        refine .inr ⟨otherId, other, beside, found, ?_⟩
        simp only [if_pos crowded, met, Client.sendQueued, Client.bind_id,
          Client.bind_registered, apart, Bool.not_true, decide_false,
          Bool.or_self, Bool.false_eq_true, if_false]
        have shared : other.roomId = client.roomId := by
          rw [otherSound.roomId, clientSound.roomId]
        rw [Client.deliver_foldl]
        simp only [Client.drained, Client.deliver, Client.bind_roomId, shared]

/-- A message that is refused changes nothing; it is refused because the room is
full or because its sender's queue is. One that is accepted is delivered to the
other client when that one is registered, and queued with its sender
otherwise. -/
theorem Sound.send_cases
    {room : Room}
    (sound : room.Sound)
    (order : VisitOrder)
    (now : Instant)
    (srcId : ClientId)
    (msg : String) :
    (∃ error, room.send order now srcId msg = (.error error, room) ∧
        (error = "Max room capacity reached" ∨
          error = "Too many messages queued for the client")) ∨
      ∃ src, room.Hands now srcId src ∧
        (((∀ key client, key ≠ srcId -> room.clients[key]? = some client ->
              client.registered = false) ∧
            src.msgs.length < maxQueuedMsgCount ∧
            room.send order now srcId msg =
              (.ok (), room.setClient srcId (src.queue msg))) ∨
          ∃ otherId other, otherId ≠ srcId ∧
            room.clients[otherId]? = some other ∧ other.registered = true ∧
            room.send order now srcId msg = (.ok (),
              (room.setClient srcId src).setClient otherId
                (other.deliver [msg]))) := by
  rcases room.client_cases now srcId with ⟨error, failed, full⟩ |
    ⟨src, hands, handed⟩
  · exact .inl ⟨error, by simp [send, failed], .inl full⟩
  have srcSound := hands.sound sound
  -- a sender that has just been created has an empty queue
  have stored_of_full : src.msgs.length ≥ maxQueuedMsgCount ->
      room.setClient srcId src = room := by
    intro full
    cases hands with
    | stored found => exact setClient_self found
    | created => simp [maxQueuedMsgCount] at full
  by_cases alone : (room.setClient srcId src).clients.size = 1
  · simp only [send, handed, if_pos alone, Client.enqueue]
    by_cases full : src.msgs.length ≥ maxQueuedMsgCount
    · rw [if_pos full, stored_of_full full]
      exact .inl ⟨_, rfl, .inr rfl⟩
    rw [if_neg full]
    refine .inr ⟨src, hands, .inl ⟨fun key client away found => ?_,
      by omega, ?_⟩⟩
    · -- a second client would make the room too large
      have crowded := two_le_size
        (mem_of_found (room.setClient_stored srcId src))
        (mem_of_found
          ((room.setClient_beside src (Ne.symm away)).trans found))
        (Ne.symm away)
      omega
    · simp only [setClient_setClient]
      rfl
  · simp only [send, handed, if_neg alone]
    rcases (room.setClient srcId src).other?_cases order srcId
      with ⟨none, nobody⟩ | ⟨otherId, other, beside, found, met⟩
    · exact absurd (size_eq_one (room.setClient_stored srcId src) nobody) alone
    have stored := found
    rw [setClient_beside _ _ (Ne.symm beside)] at found
    have otherSound := sound.clients _ _ found
    have apart : ¬src.id = other.id := by
      rw [otherSound.id, srcSound.id]
      exact Ne.symm beside
    simp only [met, Client.send, if_neg apart]
    cases registered : other.registered with
    | true =>
        refine .inr ⟨src, hands, .inr ⟨otherId, other, beside, found,
          registered, ?_⟩⟩
        simp only [if_true, setClient_setClient]
        rw [srcSound.roomId, ← otherSound.roomId]
        rfl
    | false =>
        simp only [Bool.false_eq_true, if_false, Client.enqueue]
        by_cases full : src.msgs.length ≥ maxQueuedMsgCount
        · rw [if_pos full, stored_of_full full]
          exact .inl ⟨_, rfl, .inr rfl⟩
        rw [if_neg full]
        refine .inr ⟨src, hands, .inl ⟨fun key client away present => ?_,
          by omega, ?_⟩⟩
        · have same : key = otherId :=
            eq_of_beside (sound.setClient hands srcSound).space
              (mem_of_found (room.setClient_stored srcId src))
              (mem_of_found
                ((room.setClient_beside src (Ne.symm away)).trans present))
              (mem_of_found stored) away beside
          subst same
          obtain rfl : other = client := by simpa [found] using present
          exact registered
        · simp only [Except.map, setClient_setClient]
          exact congrArg (Prod.mk _) (setClient_self
            ((room.setClient_beside _ (Ne.symm beside)).trans found))

/-- The clients of a room keep a flag, and a new one does not have it. -/
structure Keeps (flag : Client -> Bool) (room after : Room) : Prop where
  backward : ∀ (clientId : ClientId) (client : Client),
    after.clients[clientId]? = some client ->
    (∃ before : Client, room.clients[clientId]? = some before ∧
      flag before = flag client) ∨
    room.clients[clientId]? = none ∧ flag client = false
  forward : ∀ (clientId : ClientId) (client : Client),
    room.clients[clientId]? = some client ->
    ∃ kept : Client, after.clients[clientId]? = some kept ∧
      flag kept = flag client

namespace Keeps

variable {flag : Client -> Bool} {room middle after : Room}

theorem refl : room.Keeps flag room where
  backward := fun _ client found => .inl ⟨client, found, rfl⟩
  forward := fun _ client found => ⟨client, found, rfl⟩

theorem trans
    (first : room.Keeps flag middle)
    (second : middle.Keeps flag after) :
    room.Keeps flag after where
  backward := by
    intro clientId client found
    rcases second.backward _ _ found with ⟨between, stored, same⟩ |
      ⟨absent, cleared⟩
    · rcases first.backward _ _ stored with ⟨before, present, kept⟩ |
        ⟨absent, cleared⟩
      · exact .inl ⟨before, present, kept.trans same⟩
      · exact .inr ⟨absent, same.symm.trans cleared⟩
    · refine .inr ⟨?_, cleared⟩
      by_contra present
      obtain ⟨before, stored⟩ := Option.ne_none_iff_exists'.1 present
      obtain ⟨between, stays, -⟩ := first.forward _ _ stored
      simp [absent] at stays
  forward := by
    intro clientId client found
    obtain ⟨between, stored, same⟩ := first.forward _ _ found
    obtain ⟨kept, stays, kept_same⟩ := second.forward _ _ stored
    exact ⟨kept, stays, kept_same.trans same⟩

theorem setClient
    (fresh : ∀ id roomId timeout,
      flag (Client.new id roomId timeout) = false)
    {now : Instant}
    {clientId : ClientId}
    {client : Client}
    (hands : room.Hands now clientId client)
    (after : Client)
    (same : flag after = flag client) :
    room.Keeps flag (room.setClient clientId after) where
  backward := by
    intro key found present
    rw [setClient_getElem?] at present
    split at present
    · next equal =>
        cases equal
        cases present
        cases hands with
        | stored stored => exact .inl ⟨client, stored, same.symm⟩
        | created absent => exact .inr ⟨absent, same.trans (fresh ..)⟩
    · exact .inl ⟨found, present, rfl⟩
  forward := by
    intro key found present
    rw [setClient_getElem?]
    split
    · next equal =>
        cases equal
        cases hands with
        | stored stored =>
            obtain rfl : client = found := by simpa [stored] using present
            exact ⟨after, rfl, same⟩
        | created absent => simp [absent] at present
    · exact ⟨found, present, rfl⟩

end Keeps

/-- A message changes queues only. -/
theorem Sound.send_keeps
    {flag : Client -> Bool}
    (fresh : ∀ id roomId timeout,
      flag (Client.new id roomId timeout) = false)
    (relayed : ∀ client msgs writes,
      flag { client with msgs := msgs, writes := writes } = flag client)
    {room : Room}
    (sound : room.Sound)
    (order : VisitOrder)
    (now : Instant)
    (srcId : ClientId)
    (msg : String) :
    room.Keeps flag (room.send order now srcId msg).2 := by
  rcases sound.send_cases order now srcId msg with ⟨error, failed, -⟩ |
    ⟨src, hands, ⟨-, -, done⟩ | ⟨otherId, other, beside, found, -, done⟩⟩
  · rw [failed]
    exact .refl
  · rw [done]
    exact .setClient fresh hands (src.queue msg) (relayed src _ src.writes)
  · rw [done]
    have otherHands : (room.setClient srcId src).Hands now otherId other :=
      .stored ((room.setClient_beside _ (Ne.symm beside)).trans found)
    exact (Keeps.setClient fresh hands src rfl).trans
      (.setClient fresh otherHands (other.deliver [msg])
        (relayed other other.msgs _))

/-- A removal takes its client out and promotes whoever is left. -/
theorem remove_getElem?
    (room : Room)
    (clientId key : ClientId) :
    (room.remove clientId).clients[key]? =
      if key = clientId then none
      else if clientId ∈ room.clients then
        room.clients[key]?.map (Client.setInitiator · true)
      else room.clients[key]? := by
  unfold remove
  by_cases present : clientId ∈ room.clients
  · rw [if_pos (ExtTreeMap.contains_iff_mem.2 present), if_pos present]
    simp only [ExtTreeMap.getElem?_map, ExtTreeMap.getElem?_erase,
      compare_eq_iff_eq]
    by_cases same : key = clientId
    · subst same
      simp
    · simp [same, Ne.symm same]
  · rw [if_neg (by rwa [ExtTreeMap.contains_iff_mem]), if_neg present]
    by_cases same : key = clientId
    · subst same
      simpa using present
    · simp [same]

@[simp] theorem remove_id (room : Room) (clientId : ClientId) :
    (room.remove clientId).id = room.id := by
  simp only [remove]
  split <;> rfl

theorem remove_size_le (room : Room) (clientId : ClientId) :
    (room.remove clientId).clients.size ≤ room.clients.size := by
  simp only [remove]
  split
  · simpa using ExtTreeMap.size_erase_le
  · exact Nat.le_refl _

theorem Sound.remove
    {room : Room}
    (sound : room.Sound)
    (clientId : ClientId) :
    (room.remove clientId).Sound where
  clients := by
    intro key client found
    rw [remove_id]
    rw [remove_getElem?] at found
    split at found
    · cases found
    split at found
    · obtain ⟨before, stored, rfl⟩ := Option.map_eq_some_iff.1 found
      exact (sound.clients _ _ stored).of_same rfl rfl rfl rfl rfl
    · exact sound.clients _ _ found
  space := Nat.le_trans (room.remove_size_le clientId) sound.space

/-- Several removals take their clients out and promote whoever is left, if
any of the clients was there. -/
theorem removeAll_getElem?
    (room : Room)
    (expired : List ClientId)
    (key : ClientId) :
    (expired.foldl remove room).clients[key]? =
      if key ∈ expired then none
      else if ∃ clientId ∈ expired, clientId ∈ room.clients then
        room.clients[key]?.map (Client.setInitiator · true)
      else room.clients[key]? := by
  induction expired generalizing room with
  | nil => simp
  | cons clientId expired inductionHypothesis =>
      rw [List.foldl_cons, inductionHypothesis]
      by_cases later : key ∈ expired
      · simp [later]
      rw [if_neg later]
      by_cases same : key = clientId
      · subst same
        simp [remove_getElem?]
      have outside : key ∉ clientId :: expired := by simp [same, later]
      rw [if_neg outside]
      have members : ∀ other, other ∈ (room.remove clientId).clients ↔
          other ≠ clientId ∧ other ∈ room.clients := by
        intro other
        simp only [ExtTreeMap.mem_iff_isSome_getElem?, remove_getElem?]
        by_cases equal : other = clientId
        · simp [equal]
        · simp only [equal, if_false, ne_eq, not_false_eq_true, true_and]
          split <;> simp
      by_cases present : clientId ∈ room.clients
      · rw [if_pos (c := ∃ other ∈ clientId :: expired, other ∈ room.clients)
          ⟨clientId, List.mem_cons_self, present⟩]
        simp only [remove_getElem?, if_neg same, if_pos present]
        split
        · cases room.clients[key]? <;> simp [Client.setInitiator]
        · rfl
      · have unchanged : (∃ other ∈ clientId :: expired,
              other ∈ room.clients) ↔
            ∃ other ∈ expired, other ∈ (room.remove clientId).clients := by
          constructor
          · rintro ⟨other, listed, stored⟩
            have away : other ≠ clientId := fun equal =>
              present (equal ▸ stored)
            exact ⟨other, by simpa [away] using listed,
              (members other).2 ⟨away, stored⟩⟩
          · rintro ⟨other, listed, stored⟩
            exact ⟨other, List.mem_cons_of_mem _ listed,
              ((members other).1 stored).2⟩
        simp only [unchanged, remove_getElem?, if_neg same, if_neg present]

theorem Sound.removeAll
    {room : Room}
    (sound : room.Sound)
    (expired : List ClientId) :
    (expired.foldl Room.remove room).Sound ∧
      (expired.foldl Room.remove room).id = room.id := by
  induction expired generalizing room with
  | nil => exact ⟨sound, rfl⟩
  | cons clientId expired inductionHypothesis =>
      obtain ⟨kept, named⟩ := inductionHypothesis (sound.remove clientId)
      exact ⟨kept, named.trans (room.remove_id clientId)⟩

/-- A deregistration unbinds a registered client and arms its timeout. -/
theorem deregister_getElem?
    (room : Room)
    (now : Instant)
    (clientId key : ClientId) :
    (room.deregister now clientId).2.clients[key]? =
      (room.clients[key]?).map fun client =>
        if key = clientId ∧ client.registered = true then
          client.deregister.setTimer (some (now + room.registerTimeout))
        else client := by
  unfold deregister
  cases found : room.clients[clientId]? with
  | none =>
      by_cases same : key = clientId
      · subst same
        simp [found]
      · cases room.clients[key]? <;> simp [same]
  | some client =>
      by_cases same : key = clientId
      · subst same
        cases registered : client.registered with
        | true => simp [registered, found]
        | false => simp [registered, found]
      · have beside := fun after =>
          room.setClient_beside after (Ne.symm same)
        cases registered : client.registered with
        | true =>
            simp only [registered, if_true, beside]
            cases room.clients[key]? <;> simp [same]
        | false =>
            simp only [registered, Bool.false_eq_true, if_false]
            cases room.clients[key]? <;> simp [same]

theorem Sound.deregister
    {room : Room}
    (sound : room.Sound)
    (now : Instant)
    (clientId : ClientId) :
    (room.deregister now clientId).2.Sound ∧
      (room.deregister now clientId).2.id = room.id := by
  have named : (room.deregister now clientId).2.id = room.id := by
    unfold Room.deregister
    split
    · rfl
    · split <;> rfl
  refine ⟨⟨fun key client found => ?_, ?_⟩, named⟩
  · rw [deregister_getElem?] at found
    obtain ⟨before, stored, rfl⟩ := Option.map_eq_some_iff.1 found
    have kept := sound.clients _ _ stored
    rw [named]
    split
    · exact ⟨kept.id, kept.roomId, kept.quiet, by simp⟩
    · exact kept
  · unfold Room.deregister
    split
    · exact sound.space
    · next client found =>
        split
        · simp only [Room.setClient_clients, ExtTreeMap.size_insert,
            if_pos (ExtTreeMap.contains_iff_mem.2 (mem_of_found found))]
          exact sound.space
        · exact sound.space

/-- Some client of the room is due. -/
def Expires (room : Room) (now : Instant) : Prop :=
  ∃ (clientId : ClientId) (client : Client),
    room.clients[clientId]? = some client ∧ client.Due now

/-- A tick marks exactly the clients that are due. -/
theorem tick_eq
    {client : Client}
    {roomId : RoomId}
    {clientId : ClientId}
    (sound : client.Sound roomId clientId)
    (now : Instant) :
    client.handleTimeout now =
      if client.Due now then
        { client with events := [.expired], timeout := none }
      else client := by
  unfold Client.handleTimeout
  cases timeout : client.timeout with
  | none => simp [Client.Due, timeout]
  | some deadline =>
      simp [Client.Due, timeout, sound.quiet, and_comm]

/-- The ids that a sweep of the room removes. -/
def expired
    (room : Room)
    (order : VisitOrder)
    (now : Instant) : List ClientId :=
  (({ room with
      clients := room.clients.map fun _ client =>
        client.handleTimeout now } : Room).walk order).flatMap fun entry =>
    entry.2.takeEvents.1.map fun _ => entry.1

theorem Sound.mem_expired
    {room : Room}
    (sound : room.Sound)
    (order : VisitOrder)
    (now : Instant)
    (key : ClientId) :
    key ∈ room.expired order now ↔
      ∃ client, room.clients[key]? = some client ∧ client.Due now := by
  simp only [expired, walk, List.mem_flatMap, HashOrder.mem_visit,
    Prod.exists, ExtTreeMap.mem_toList_iff_getElem?_eq_some,
    ExtTreeMap.getElem?_map, Option.map_eq_some_iff, List.mem_map]
  constructor
  · rintro ⟨clientId, ticked, ⟨client, found, rfl⟩, event, surfaced, rfl⟩
    refine ⟨client, found, ?_⟩
    have clientSound := sound.clients _ _ found
    by_contra spared
    rw [tick_eq clientSound, if_neg spared] at surfaced
    simp [Client.takeEvents, clientSound.quiet] at surfaced
  · rintro ⟨client, found, due⟩
    refine ⟨key, _, ⟨client, found, rfl⟩, .expired, ?_, rfl⟩
    rw [tick_eq (sound.clients _ _ found), if_pos due]
    simp [Client.takeEvents]

theorem Sound.handleTimeout
    {room : Room}
    (sound : room.Sound)
    (order : VisitOrder)
    (now : Instant) :
    (room.handleTimeout order now).Sound ∧
      (room.handleTimeout order now).id = room.id := by
  have emptied : Room.Sound { room with
      clients := ((room.clients.map fun _ client =>
        client.handleTimeout now).map
          fun _ client => client.takeEvents.2) } := by
    refine ⟨fun key client found => ?_, ?_⟩
    · simp only [ExtTreeMap.getElem?_map, Option.map_map,
        Option.map_eq_some_iff, Function.comp_apply] at found
      obtain ⟨before, stored, rfl⟩ := found
      have kept := sound.clients _ _ stored
      rw [tick_eq kept]
      split
      · exact ⟨kept.id, kept.roomId, rfl, by simp [Client.takeEvents]⟩
      · exact ⟨kept.id, kept.roomId, rfl, kept.bound⟩
    · simpa using sound.space
  exact emptied.removeAll _

/-- A sweep removes the clients that are due and promotes whoever is left, if
any client was due. -/
theorem Sound.handleTimeout_getElem?
    {room : Room}
    (sound : room.Sound)
    (order : VisitOrder)
    (now : Instant)
    (key : ClientId) :
    (¬room.Expires now ->
        (room.handleTimeout order now).clients[key]? = room.clients[key]?) ∧
      (room.Expires now ->
        (room.handleTimeout order now).clients[key]? =
          (room.clients[key]?).bind fun client =>
            if client.Due now then none
            else some (client.setInitiator true)) := by
  have emptied : ∀ key : ClientId,
      ((room.clients.map fun _ client => client.handleTimeout now).map
          fun _ client => client.takeEvents.2)[key]? =
        (room.clients[key]?).map fun (client : Client) =>
          if client.Due now then { client with timeout := none }
          else client := by
    intro key
    simp only [ExtTreeMap.getElem?_map, Option.map_map]
    cases found : room.clients[key]? with
    | none => rfl
    | some client =>
        have clientSound := sound.clients _ _ found
        simp only [Option.map_some, Function.comp_apply, tick_eq clientSound]
        split
        · simp [Client.takeEvents, clientSound.quiet]
        · simp [Client.takeEvents, ← clientSound.quiet]
  have swept : (room.handleTimeout order now).clients[key]? =
      ((room.expired order now).foldl Room.remove
        { room with
          clients := ((room.clients.map fun _ client =>
            client.handleTimeout now).map
              fun _ client => client.takeEvents.2) }).clients[key]? := rfl
  rw [swept, removeAll_getElem?]
  simp only [emptied]
  constructor
  · intro calm
    have nobody : ∀ clientId, clientId ∉ room.expired order now := by
      intro clientId listed
      obtain ⟨client, found, due⟩ := (sound.mem_expired ..).1 listed
      exact calm ⟨clientId, client, found, due⟩
    rw [if_neg (nobody key), if_neg]
    · cases found : room.clients[key]? with
      | none => rfl
      | some client =>
          have spared : ¬client.Due now := fun due => calm ⟨_, _, found, due⟩
          simp [spared]
    · rintro ⟨clientId, listed, -⟩
      exact nobody clientId listed
  · intro expires
    obtain ⟨dueId, dueClient, dueFound, due⟩ := expires
    have member : dueId ∈ (room.clients.map fun _ client =>
        client.handleTimeout now).map fun _ client => client.takeEvents.2 := by
      rw [ExtTreeMap.mem_iff_isSome_getElem?, emptied, dueFound]
      rfl
    have someone : ∃ clientId ∈ room.expired order now,
        clientId ∈ (room.clients.map fun _ client =>
          client.handleTimeout now).map fun _ client => client.takeEvents.2 :=
      ⟨dueId, (sound.mem_expired ..).2 ⟨dueClient, dueFound, due⟩, member⟩
    rw [if_pos someone]
    cases found : room.clients[key]? with
    | none => simp
    | some client =>
        by_cases own : client.Due now
        · rw [if_pos ((sound.mem_expired ..).2 ⟨client, found, own⟩)]
          simp [own]
        · have outside : key ∉ room.expired order now := by
            intro listed
            obtain ⟨other, stored, due⟩ := (sound.mem_expired ..).1 listed
            obtain rfl : client = other := by simpa [found] using stored
            exact own due
          rw [if_neg outside]
          simp [own]

/-- The room after a join, apart from the loopback peer. -/
def joinedBy
    (room : Room)
    (now : Instant)
    (clientId : ClientId) : Room :=
  ({ room with
      clients := room.clients.map fun _ other => other.drained } : Room).setClient
    clientId ((Client.new clientId room.id
      (some (now + room.registerTimeout))).setInitiator room.clients.isEmpty)

theorem joinedBy_getElem?
    (room : Room)
    (now : Instant)
    (clientId key : ClientId) :
    (room.joinedBy now clientId).clients[key]? =
      if clientId = key then
        some ((Client.new clientId room.id
          (some (now + room.registerTimeout))).setInitiator
            room.clients.isEmpty)
      else (room.clients[key]?).map Client.drained := by
  rw [joinedBy, setClient_getElem?]
  split
  · rfl
  · simp [ExtTreeMap.getElem?_map]

theorem Sound.joinedBy
    {room : Room}
    (sound : room.Sound)
    (now : Instant)
    (clientId : ClientId)
    (spare : room.clients.size < maxRoomCapacity) :
    (room.joinedBy now clientId).Sound where
  clients := by
    intro key client found
    rw [joinedBy_getElem?] at found
    split at found
    · next equal =>
        subst equal
        cases found
        exact (Client.Sound.new ..).of_same rfl rfl rfl rfl rfl
    · obtain ⟨before, stored, rfl⟩ := Option.map_eq_some_iff.1 found
      exact (sound.clients _ _ stored).of_same rfl rfl rfl rfl rfl
  space := by
    simp only [Room.joinedBy, Room.setClient_clients, ExtTreeMap.size_insert,
      ExtTreeMap.size_map]
    split
    · exact sound.space
    · exact spare

/-- A join fails without a change; or it stores a new client, hands out what the
other clients have queued, and in loopback mode adds the loopback peer or
clears the flag of the one that is there. -/
theorem addClient_cases
    (room : Room)
    (order : VisitOrder)
    (now : Instant)
    (clientId : ClientId)
    (isLoopback : Bool) :
    (∃ error, room.addClient order now clientId isLoopback =
        (.error error, room)) ∨
      room.clients[clientId]? = none ∧
        room.clients.size < maxRoomCapacity ∧
        (room.addClient order now clientId isLoopback).1 =
          .ok (room.clients.isEmpty,
            (room.walk order).flatMap fun entry => entry.2.msgs) ∧
        ((room.addClient order now clientId isLoopback).2 =
            room.joinedBy now clientId ∨
          isLoopback = true ∧ ∃ peer,
            (room.joinedBy now clientId).Hands now loopbackClientId peer ∧
            (room.addClient order now clientId isLoopback).2 =
              (room.joinedBy now clientId).setClient loopbackClientId
                (peer.setInitiator false)) := by
  by_cases present : room.clients.contains clientId = true
  · exact .inl ⟨"DUPLICATE_CLIENT", by simp [addClient, present]⟩
  by_cases full : room.clients.size ≥ maxRoomCapacity
  · exact .inl ⟨"FULL", by simp [addClient, present, full]⟩
  have absent : room.clients[clientId]? = none := by
    simpa using present
  -- an empty room has no queues to hand out or to clear
  have drained :
      (if room.clients.isEmpty = true then room
        else { room with
          clients := room.clients.map fun _ other => other.drainMsgs.2 }) =
      ({ room with
        clients := room.clients.map fun _ other => other.drained } : Room) := by
    split
    · next empty =>
        have nothing : room.clients = ∅ := by simpa using empty
        cases room
        simp only at nothing
        subst nothing
        simp
    · rfl
  have messages :
      (if room.clients.isEmpty = true then []
        else (room.walk order).flatMap fun entry => entry.2.drainMsgs.1) =
      (room.walk order).flatMap fun entry => entry.2.msgs := by
    split
    · next empty =>
        have nothing : room.clients = ∅ := by simpa using empty
        simp [walk, nothing]
    · rfl
  have fresh : ({ room with
        clients := room.clients.map fun _ other => other.drained } : Room).client
          now clientId =
      .ok (Client.new clientId room.id (some (now + room.registerTimeout)),
        ({ room with
          clients := room.clients.map fun _ other =>
            other.drained } : Room).setClient clientId
              (Client.new clientId room.id
                (some (now + room.registerTimeout)))) := by
    simp [client, ExtTreeMap.getElem?_map, absent, full]
  refine .inr ⟨absent, by omega, ?_, ?_⟩
  · simp only [addClient, if_neg present, if_neg full, drained, messages,
      fresh]
  · simp only [addClient, if_neg present, if_neg full, drained, fresh,
      setClient_setClient]
    cases isLoopback with
    | false => exact .inl rfl
    | true =>
        rcases (room.joinedBy now clientId).client_cases now loopbackClientId
          with ⟨error, failed, -⟩ | ⟨peer, hands, handed⟩
        · refine .inl ?_
          simp only [if_true]
          rw [← joinedBy, failed]
        · refine .inr ⟨rfl, peer, hands, ?_⟩
          simp only [if_true]
          rw [← joinedBy, handed]
          simp only [setClient_setClient]

/-- A join registers nobody. -/
theorem addClient_keeps
    (room : Room)
    (order : VisitOrder)
    (now : Instant)
    (clientId : ClientId)
    (isLoopback : Bool) :
    room.Keeps Client.registered
      (room.addClient order now clientId isLoopback).2 := by
  rcases room.addClient_cases order now clientId isLoopback with
    ⟨error, failed⟩ | ⟨absent, -, -, joined⟩
  · rw [failed]
    exact .refl
  have base : room.Keeps Client.registered (room.joinedBy now clientId) := by
    constructor
    · intro key client found
      rw [joinedBy_getElem?] at found
      split at found
      · next equal =>
          cases equal
          cases found
          exact .inr ⟨absent, rfl⟩
      · obtain ⟨before, stored, rfl⟩ := Option.map_eq_some_iff.1 found
        exact .inl ⟨before, stored, rfl⟩
    · intro key client found
      have other : clientId ≠ key := by
        rintro rfl
        simp [absent] at found
      rw [joinedBy_getElem?, if_neg other, found]
      exact ⟨client.drained, rfl, rfl⟩
  rcases joined with joined | ⟨-, peer, hands, joined⟩
  · rw [joined]
    exact base
  · rw [joined]
    exact base.trans (.setClient (fun _ _ _ => rfl) hands
      (peer.setInitiator false) rfl)

theorem Sound.addClient
    {room : Room}
    (sound : room.Sound)
    (order : VisitOrder)
    (now : Instant)
    (clientId : ClientId)
    (isLoopback : Bool) :
    (room.addClient order now clientId isLoopback).2.Sound ∧
      (room.addClient order now clientId isLoopback).2.id = room.id := by
  rcases room.addClient_cases order now clientId isLoopback with
    ⟨error, failed⟩ | ⟨-, spare, -, joined | ⟨-, peer, hands, joined⟩⟩
  · rw [failed]
    exact ⟨sound, rfl⟩
  · rw [joined]
    exact ⟨sound.joinedBy now clientId spare, rfl⟩
  · rw [joined]
    have kept := sound.joinedBy now clientId spare
    exact ⟨kept.setClient hands
      ((hands.sound kept).of_same rfl rfl rfl rfl rfl), rfl⟩

theorem Sound.register
    {room : Room}
    (sound : room.Sound)
    (order : VisitOrder)
    (now : Instant)
    (clientId : ClientId) :
    (room.register order now clientId).2.Sound ∧
      (room.register order now clientId).2.id = room.id := by
  rcases sound.register_cases order now clientId with ⟨error, failed⟩ |
    ⟨client, hands, -, ⟨-, done⟩ | ⟨otherId, other, beside, found, done⟩⟩
  · rw [failed]
    exact ⟨sound, rfl⟩
  · rw [done]
    have bound : client.bind.Sound room.id clientId :=
      { hands.sound sound with bound := fun _ => rfl }
    exact ⟨sound.setClient hands bound, rfl⟩
  · rw [done]
    have bound : client.bind.Sound room.id clientId :=
      { hands.sound sound with bound := fun _ => rfl }
    have drained : other.drained.Sound room.id otherId :=
      (sound.clients _ _ found).of_same rfl rfl rfl rfl rfl
    have otherHands :
        (room.setClient clientId client.bind).Hands now otherId other :=
      .stored ((room.setClient_beside _ (Ne.symm beside)).trans found)
    have clientHands : ((room.setClient clientId client.bind).setClient otherId
        other.drained).Hands now clientId client.bind := by
      refine .stored ?_
      rw [setClient_beside _ _ beside, setClient_stored]
    exact ⟨((sound.setClient hands bound).setClient otherHands
      drained).setClient clientHands
        (bound.of_same rfl rfl rfl rfl rfl), rfl⟩

theorem Sound.send
    {room : Room}
    (sound : room.Sound)
    (order : VisitOrder)
    (now : Instant)
    (srcId : ClientId)
    (msg : String) :
    (room.send order now srcId msg).2.Sound ∧
      (room.send order now srcId msg).2.id = room.id := by
  rcases sound.send_cases order now srcId msg with ⟨error, failed, -⟩ |
    ⟨src, hands, ⟨-, -, done⟩ | ⟨otherId, other, beside, found, -, done⟩⟩
  · rw [failed]
    exact ⟨sound, rfl⟩
  · rw [done]
    exact ⟨sound.setClient hands
      ((hands.sound sound).of_same rfl rfl rfl rfl rfl), rfl⟩
  · rw [done]
    have otherHands : (room.setClient srcId src).Hands now otherId other :=
      .stored ((room.setClient_beside _ (Ne.symm beside)).trans found)
    exact ⟨(sound.setClient hands (hands.sound sound)).setClient otherHands
      ((sound.clients _ _ found).of_same rfl rfl rfl rfl rfl), rfl⟩

end Room
end V1
end Signaling
