import Signaling.Collider.Connections
import Signaling.V1.Delivery

/-!
# V1 messages are handed over once and in order

What a V1 client sends is either handed to its peer or waits on it. The
balance is kept by every call, so it holds along every run in which the two
clients of a room stay.
-/

namespace Signaling
namespace Collider

open Std (ExtTreeMap)

/-- The frames of relayed messages for a connection, if there is one. -/
def relayFrames
    (connection : Option ConnectionId)
    (msgs : List String) : List BrowserOutput :=
  match connection with
  | none => []
  | some connectionId =>
      msgs.map fun msg => .text connectionId (serverMsg msg)

/-- The message that an output carries to the connection of a client. -/
def relayedTo
    (connection : Option ConnectionId) : BrowserOutput -> Option String
  | .text connectionId (.server frame) =>
      if connection = some connectionId ∧ frame.error = "" then some frame.msg
      else none
  | _ => none

/-- The outputs that a call hands to the driver. -/
def outputs
    (decode : String -> Except String WsClientMsg)
    (collider : Collider)
    (call : Call) : List BrowserOutput :=
  match call.operation with
  | .pollWrite => []
  | _ => (collider.step decode call).browserOutputs.drop
      collider.browserOutputs.length

/-- The messages that the answer to a join of the client carries. -/
def joinMessages
    (roomid : V1.RoomId)
    (clientid : V1.ClientId)
    (collider : Collider)
    (call : Call) : List String :=
  match call.operation with
  | .handleWrite command =>
      match command.operation with
      | .admitClient joined joining _ _ =>
          if joined = roomid ∧ joining = clientid then
            match (collider.perform call.order command).1 with
            | some (.admitted _ messages) => messages
            | _ => []
          else []
      | _ => []
  | _ => []

/-- The messages that a call hands to the client: with the answer to its join,
and in frames for its connection. -/
def handed
    (decode : String -> Except String WsClientMsg)
    (roomid : V1.RoomId)
    (clientid : V1.ClientId)
    (collider : Collider)
    (call : Call) : List String :=
  joinMessages roomid clientid collider call ++
    (collider.outputs decode call).filterMap (relayedTo
      ((collider.step decode call).connections[(roomid, clientid)]?))

/-- The messages that a call accepts from the client without an error: from a
frame that its connection sends, or from the authority. -/
def accepted
    (decode : String -> Except String WsClientMsg)
    (roomid : V1.RoomId)
    (clientid : V1.ClientId)
    (collider : Collider)
    (call : Call) : List String :=
  match call.operation with
  | .handleRead (.text connectionId text now) =>
      match decode text with
      | .ok msg =>
          if msg.cmd = "send" ∧ msg.msg.isEmpty = false ∧
              collider.sessions[connectionId]? =
                some (.registeredV1 roomid clientid) ∧
              (collider.handleBrowserText decode call.order connectionId text
                now).1 = .ok () then [msg.msg]
          else []
      | .error _ => []
  | .handleWrite command =>
      match command.operation with
      | .inject injected injecting msg _ =>
          if injected = roomid ∧ injecting = clientid ∧
              (collider.perform call.order command).1 = some .injected then
            [msg]
          else []
      | _ => []
  | _ => []

/-- Everything that a history hands to the client, in time order. -/
def handedOver
    (decode : String -> Except String WsClientMsg)
    (roomid : V1.RoomId)
    (clientid : V1.ClientId) : History -> List String
  | [] => []
  | (collider, call) :: older =>
      handedOver decode roomid clientid older ++
        handed decode roomid clientid collider call

/-- Everything that a history accepts from the client, in time order. -/
def acceptedFrom
    (decode : String -> Except String WsClientMsg)
    (roomid : V1.RoomId)
    (clientid : V1.ClientId) : History -> List String
  | [] => []
  | (collider, call) :: older =>
      acceptedFrom decode roomid clientid older ++
        accepted decode roomid clientid collider call

/-- Nobody but the two clients is ever in the room, and neither is removed. -/
def Paired
    (decode : String -> Except String WsClientMsg)
    (roomid : V1.RoomId)
    (left right : V1.ClientId)
    (history : History) : Prop :=
  ∀ event ∈ history,
    (∀ clientid client,
      (event.1.step decode event.2).rooms.client? roomid clientid =
        some client -> clientid = left ∨ clientid = right) ∧
    ∀ clientid, (event.1.rooms.client? roomid clientid).isSome ->
      ((event.1.step decode event.2).rooms.client? roomid clientid).isSome

theorem drainWrites_idle
    (order : V1.VisitOrder)
    (fuel : Nat)
    {collider : Collider}
    (idle : ∀ (roomId : V1.RoomId) (clientId : V1.ClientId)
      (client : V1.Client),
      collider.rooms.client? roomId clientId = some client ->
        client.writes = []) :
    drainWrites order fuel collider = collider := by
  cases fuel with
  | zero => rfl
  | succ fuel =>
      rw [drainWrites_succ]
      rcases collider.rooms.pollWrite_cases order with ⟨nothing, -⟩ |
        ⟨roomId, clientId, client, message, rest, found, waiting, -⟩
      · rw [nothing]
      · simp [idle _ _ _ found] at waiting

/-- When only one client has messages to be written, all of them go to its
connection, in order. -/
theorem drainWrites_single
    (order : V1.VisitOrder)
    {roomid : V1.RoomId}
    {clientid : V1.ClientId}
    (msgs : List String)
    (fuel : Nat)
    (enough : msgs.length ≤ fuel)
    (collider : Collider)
    {client : V1.Client}
    (found : collider.rooms.client? roomid clientid = some client)
    (waiting : client.writes = msgs.map fun msg => ⟨roomid, clientid, msg⟩)
    (idle : ∀ (roomId : V1.RoomId) (other : V1.ClientId) (held : V1.Client),
      ¬(roomid = roomId ∧ clientid = other) ->
      collider.rooms.client? roomId other = some held ->
        held.writes = []) :
    (∀ roomId other,
      (drainWrites order fuel collider).rooms.client? roomId other =
        if roomid = roomId ∧ clientid = other then
          some { client with writes := [] }
        else collider.rooms.client? roomId other) ∧
    (drainWrites order fuel collider).browserOutputs =
      collider.browserOutputs ++
        relayFrames collider.connections[(roomid, clientid)]? msgs ∧
    (drainWrites order fuel collider).connections = collider.connections := by
  induction msgs generalizing fuel collider client with
  | nil =>
      have calm : drainWrites order fuel collider = collider := by
        refine drainWrites_idle order fuel fun roomId other held present => ?_
        by_cases own : roomid = roomId ∧ clientid = other
        · obtain ⟨rfl, rfl⟩ := own
          obtain rfl : client = held := by simpa [found] using present
          simpa using waiting
        · exact idle _ _ _ own present
      rw [calm]
      refine ⟨fun roomId other => ?_, ?_, rfl⟩
      · split
        · next own =>
            obtain ⟨rfl, rfl⟩ := own
            have same : { client with writes := [] } = client := by
              cases client
              simp only [List.map_nil] at waiting
              rw [waiting]
            rw [same, found]
        · rfl
      · unfold relayFrames
        split <;> simp
  | cons msg msgs inductionHypothesis =>
      cases fuel with
      | zero => simp at enough
      | succ fuel =>
          rw [drainWrites_succ]
          rcases collider.rooms.pollWrite_cases order with ⟨-, nothing⟩ |
            ⟨roomId, other, held, message, rest, present, first, taken⟩
          · simp [nothing _ _ _ found] at waiting
          have own : roomid = roomId ∧ clientid = other := by
            by_contra away
            simp [idle _ _ _ away present] at first
          obtain ⟨rfl, rfl⟩ := own
          obtain rfl : client = held := by simpa [found] using present
          rw [waiting] at first
          simp only [List.map_cons, List.cons.injEq] at first
          obtain ⟨rfl, rfl⟩ := first
          rw [taken]
          simp only
          obtain ⟨same, connections, -, -⟩ := collider.writeOut_frame
            (collider.rooms.setClient roomid clientid { client with
              writes := msgs.map fun msg => ⟨roomid, clientid, msg⟩ })
            ⟨roomid, clientid, msg⟩
          have stored := collider.rooms.client?_setClient roomid
          obtain ⟨clients, written, kept⟩ := inductionHypothesis fuel
            (by simpa using enough) _
            (by rw [same, stored, if_pos ⟨rfl, rfl⟩]) rfl
            (fun roomId other held away present => by
              rw [same, stored, if_neg away] at present
              exact idle _ _ _ away present)
          refine ⟨fun roomId other => ?_, ?_, kept.trans connections⟩
          · rw [clients]
            split
            · rfl
            · next away => rw [same, stored, if_neg away]
          · rw [written, connections]
            unfold writeOut relayFrames
            cases collider.connections[(roomid, clientid)]? <;> simp

theorem relayReads_idle
    (order : V1.VisitOrder)
    (now : Instant)
    (fuel : Nat)
    {rooms : V1.RoomTable}
    (idle : ∀ (roomId : V1.RoomId) (clientId : V1.ClientId)
      (client : V1.Client),
      rooms.client? roomId clientId = some client -> client.reads = []) :
    relayReads order now fuel rooms = (.ok (), rooms) := by
  cases fuel with
  | zero => rfl
  | succ fuel =>
      unfold relayReads
      rcases rooms.pollRead_cases order with ⟨nothing, -⟩ |
        ⟨roomId, clientId, client, message, rest, found, waiting, -⟩
      · rw [nothing]
      · simp [idle _ _ _ found] at waiting

/-- A frame from the socket of a client is sent as soon as it is received. -/
theorem relayReads_single
    (order : V1.VisitOrder)
    (now : Instant)
    {rooms : V1.RoomTable}
    (sound : rooms.Sound)
    (idle : rooms.Idle)
    {roomid : V1.RoomId}
    {clientid : V1.ClientId}
    {client : V1.Client}
    (found : rooms.client? roomid clientid = some client)
    (msg : String) :
    relayReads order now
        (rooms.handleRead ⟨roomid, clientid, msg⟩).readCount
        (rooms.handleRead ⟨roomid, clientid, msg⟩) =
      rooms.send order now roomid clientid msg := by
  have received : rooms.handleRead ⟨roomid, clientid, msg⟩ =
      rooms.setClient roomid clientid
        (client.handleRead ⟨roomid, clientid, msg⟩) := by
    rw [V1.RoomTable.handleRead_eq, found]
    rfl
  have stored : (rooms.handleRead ⟨roomid, clientid, msg⟩).client? roomid
      clientid = some (client.handleRead ⟨roomid, clientid, msg⟩) := by
    rw [received, V1.RoomTable.client?_setClient, if_pos ⟨rfl, rfl⟩]
  have waiting : (client.handleRead ⟨roomid, clientid, msg⟩).reads =
      [⟨roomid, clientid, msg⟩] := by
    simp [V1.Client.handleRead, (idle _ _ _ found).1]
  obtain ⟨fuel, enough⟩ := Nat.exists_eq_succ_of_ne_zero (Nat.ne_of_gt
    (V1.RoomTable.readCount_pos stored (by simp)))
  rw [enough, relayReads]
  rcases (rooms.handleRead ⟨roomid, clientid, msg⟩).pollRead_cases order with
    ⟨-, nothing⟩ |
    ⟨roomId, other, held, message, rest, present, first, taken⟩
  · have empty := nothing _ _ _ stored
    rw [waiting] at empty
    cases empty
  have own : roomid = roomId ∧ clientid = other := by
    by_contra away
    rw [received, V1.RoomTable.client?_setClient, if_neg away] at present
    simp [(idle _ _ _ present).1] at first
  obtain ⟨rfl, rfl⟩ := own
  obtain rfl : client.handleRead ⟨roomid, clientid, msg⟩ = held := by
    simpa [stored] using present
  rw [waiting] at first
  obtain ⟨rfl, rfl⟩ := List.cons.inj first
  have restored : (rooms.handleRead ⟨roomid, clientid, msg⟩).setClient roomid
      clientid { client.handleRead ⟨roomid, clientid, msg⟩ with reads := [] } =
        rooms := by
    rw [received, V1.RoomTable.setClient_setClient]
    have same : { client.handleRead ⟨roomid, clientid, msg⟩ with
        reads := [] } = client := by
      have empty := (idle _ _ _ found).1
      cases client
      simp only [V1.Client.handleRead] at empty ⊢
      rw [empty]
    rw [same, V1.RoomTable.setClient_self found]
  rw [taken]
  simp only [restored]
  have sent := sound.sent order now roomid clientid msg
  rcases result : rooms.send order now roomid clientid msg with
    ⟨error | done, after⟩
  · rfl
  · rw [result] at sent
    exact relayReads_idle order now fuel fun _ _ _ found =>
      sent.reads idle found

end Collider
end Signaling
