import Signaling.Collider.Acts
import Signaling.Collider.Turns
import Signaling.V2.Registrations

/-!
# Registered members are connected

Whatever browsers, workers and the authority do, a V2 member that is registered
has a connection. Conversely, a connection stays bound to a registered member
unless a worker's answer, or the end of the worker, takes the member out on its
own account.
-/

namespace Signaling
namespace Collider

open Std (ExtTreeMap)

section Connections

theorem notifyMember_v2Connections
    (collider : Collider)
    (roomId : V2.RoomId)
    (clientId : V2.ClientId)
    (frame : Frame) :
    (collider.notifyMember roomId clientId frame).v2Connections =
      collider.v2Connections := by
  unfold notifyMember
  split <;> rfl

theorem notifyMember_sessions
    (collider : Collider)
    (roomId : V2.RoomId)
    (clientId : V2.ClientId)
    (frame : Frame) :
    (collider.notifyMember roomId clientId frame).sessions =
      collider.sessions := by
  unfold notifyMember
  split <;> rfl

/-- Telling several members leaves the sessions and the connections alone. -/
theorem notifyMembers_kept
    (roomId : V2.RoomId)
    (frame : V2.ClientId -> Frame)
    (clients : List V2.ClientId)
    (collider : Collider) :
    (clients.foldl (fun collider clientId =>
        collider.notifyMember roomId clientId (frame clientId))
      collider).sessions = collider.sessions ∧
    (clients.foldl (fun collider clientId =>
        collider.notifyMember roomId clientId (frame clientId))
      collider).v2Connections = collider.v2Connections := by
  induction clients generalizing collider with
  | nil => exact ⟨rfl, rfl⟩
  | cons clientId clients inductionHypothesis =>
      obtain ⟨sessions, connections⟩ := inductionHypothesis
        (collider.notifyMember roomId clientId (frame clientId))
      exact ⟨sessions.trans (notifyMember_sessions ..),
        connections.trans (notifyMember_v2Connections ..)⟩

/-- A member's connection ends, and no other one. -/
theorem closeV2ClientConnection_v2Connections
    (collider : Collider)
    (roomId : V2.RoomId)
    (clientId : V2.ClientId)
    (key : V2.MemberKey) :
    (collider.closeV2ClientConnection roomId clientId).v2Connections[key]? =
      if key = (roomId, clientId) then none
      else collider.v2Connections[key]? := by
  unfold closeV2ClientConnection
  split
  · next absent =>
      split
      · next same => rw [same, absent]
      · rfl
  · simp only [pushOutput_v2Connections, connection_erase]
    grind

/-- An action that is carried out ends the connection of a member whose removal
it reports. -/
theorem performAction_v2Connections
    (collider : Collider)
    (action : V2.Action)
    (key : V2.MemberKey) :
    (action.Removes key.1 key.2 ∧
        (collider.performAction action).v2Connections[key]? = none) ∨
      ¬action.Removes key.1 key.2 ∧
        (collider.performAction action).v2Connections[key]? =
          collider.v2Connections[key]? := by
  cases action with
  | sfu | admissionCompleted => exact .inr ⟨id, rfl⟩
  | removalCompleted authorityRequestId roomId clientId result =>
      cases result with
      | error => exact .inr ⟨id, rfl⟩
      | ok =>
          have closed := closeV2ClientConnection_v2Connections collider roomId
            clientId key
          by_cases same : key = (roomId, clientId)
          · rw [if_pos same] at closed
            subst same
            exact .inl ⟨⟨rfl, rfl⟩, closed⟩
          · rw [if_neg same] at closed
            refine .inr ⟨?_, closed⟩
            rintro ⟨rfl, rfl⟩
            exact same rfl
  | deliver delivery =>
      exact .inr ⟨id, congrArg (·[key]?) (notifyMember_v2Connections ..)⟩
  | upgraded | downgraded | roomFailed =>
      exact .inr ⟨id, congrArg (·[key]?) (notifyMembers_kept _ _ _ _).2⟩

theorem relay_v2Rooms (collider : Collider) (result : V2.SendResult) :
    (collider.relay result).v2Rooms = collider.v2Rooms := by
  unfold relay
  split
  · exact notifyMember_v2Rooms ..
  · rfl

theorem relay_v2Connections (collider : Collider) (result : V2.SendResult) :
    (collider.relay result).v2Connections = collider.v2Connections := by
  unfold relay
  split
  · exact notifyMember_v2Connections ..
  · rfl

end Connections

/-- Every registered member has a connection, which presented the member's token,
and a member whose removal waits to be reported is not registered. -/
structure Serves
    (presented : ConnectionId -> V2.RoomId -> V2.ClientId -> String -> Prop)
    (collider : Collider) : Prop where
  consistent : collider.v2Rooms.Consistent
  reached : ∀ roomId clientId member,
    collider.v2Rooms.member? roomId clientId = some member ->
    member.registered = true -> ∃ connectionId,
      collider.v2Connections[(roomId, clientId)]? = some connectionId ∧
        presented connectionId roomId clientId member.token
  closing : ∀ action ∈ collider.v2Rooms.actions, ∀ roomId clientId,
    action.Removes roomId clientId ->
      ¬collider.v2Rooms.Registered roomId clientId

namespace Serves

variable
  {presented : ConnectionId -> V2.RoomId -> V2.ClientId -> String -> Prop}
  {collider after : Collider}

theorem connected
    {roomId : V2.RoomId}
    {clientId : V2.ClientId}
    (serves : Serves presented collider)
    (registered : collider.v2Rooms.Registered roomId clientId) :
    ∃ connectionId,
      collider.v2Connections[(roomId, clientId)]? = some connectionId := by
  obtain ⟨member, present, holds⟩ := registered
  obtain ⟨connectionId, held, -⟩ := serves.reached _ _ member present holds
  exact ⟨connectionId, held⟩

/-- A weaker reading of what was presented. -/
theorem mono
    {weaker : ConnectionId -> V2.RoomId -> V2.ClientId -> String -> Prop}
    (serves : Serves presented collider)
    (weakens : ∀ connectionId roomId clientId token,
      presented connectionId roomId clientId token ->
        weaker connectionId roomId clientId token) :
    Serves weaker collider where
  consistent := serves.consistent
  reached := by
    intro roomId clientId member present registered
    obtain ⟨connectionId, held, shown⟩ :=
      serves.reached roomId clientId member present registered
    exact ⟨connectionId, held, weakens _ _ _ _ shown⟩
  closing := serves.closing

theorem of_same
    (serves : Serves presented collider)
    (v2Rooms : after.v2Rooms = collider.v2Rooms)
    (v2Connections : after.v2Connections = collider.v2Connections) :
    Serves presented after where
  consistent := v2Rooms ▸ serves.consistent
  reached := by
    rw [v2Rooms, v2Connections]
    exact serves.reached
  closing := by
    rw [v2Rooms]
    exact serves.closing

/-- An input of the V2 table that registers nobody anew, after which every
connection that ends is that of a member who is not registered. -/
theorem of_call
    {call : V2.Call}
    (serves : Serves presented collider)
    (v2Rooms : after.v2Rooms = collider.v2Rooms.step call)
    (appends : call.operation ≠ .pollAction)
    (unregistered : ∀ roomId clientId,
      ¬call.Registers collider.v2Rooms roomId clientId)
    (v2Connections : ∀ roomId clientId,
      (collider.v2Rooms.step call).Registered roomId clientId ->
        after.v2Connections[(roomId, clientId)]? =
          collider.v2Connections[(roomId, clientId)]?) :
    Serves presented after where
  consistent := v2Rooms ▸ serves.consistent.step call
  reached := by
    intro roomId clientId member present registered
    rw [v2Rooms] at present
    rw [v2Connections roomId clientId ⟨member, present, registered⟩]
    obtain ⟨former, before, was, same⟩ :=
      (serves.consistent.registered_before present registered).resolve_right
        (unregistered roomId clientId)
    rw [same]
    exact serves.reached roomId clientId former before was
  closing := by
    intro action listed roomId clientId removes registered
    rw [v2Rooms] at listed registered
    obtain ⟨member, present, holds⟩ := registered
    rw [serves.consistent.appended appends] at listed
    rcases List.mem_append.1 listed with old | new
    · obtain ⟨former, before, was, -⟩ :=
        (serves.consistent.registered_before present holds).resolve_right
          (unregistered roomId clientId)
      exact serves.closing action old roomId clientId removes
        ⟨former, before, was⟩
    · rw [(serves.consistent.removes_absent appends new removes).1] at present
      cases present

/-- Every act, when no removal waits to be reported as a member registers. -/
theorem acted
    {act : Act}
    (serves : Serves presented collider)
    (acted : Acted collider act after)
    (free : ∀ connectionId roomId clientId token,
      act = .registerV2 connectionId roomId clientId token ->
        presented connectionId roomId clientId token ∧
        ∀ action ∈ collider.v2Rooms.actions,
          ¬action.Removes roomId clientId) :
    Serves presented after := by
  cases acted with
  | connect | fail | roomsV1 | bindV1 | writeV1 | forget | respond | pollWrite
  | pollEvent => exact serves.of_same rfl rfl
  | closeV1 roomid clientid =>
      have closed : (collider.closeClientConnection roomid clientid).v2Rooms =
            collider.v2Rooms ∧
          (collider.closeClientConnection roomid clientid).v2Connections =
            collider.v2Connections := by
        unfold closeClientConnection
        split <;> exact ⟨rfl, rfl⟩
      exact serves.of_same closed.1 closed.2
  | promote promotion =>
      exact serves.of_same (notifyMember_v2Rooms ..)
        (notifyMember_v2Connections ..)
  | registerV2 order unbound registered =>
      rename_i connectionId roomId clientId token registration v2Rooms
      have stepped : collider.v2Rooms.step ⟨.register roomId clientId token,
          order⟩ = v2Rooms := congrArg Prod.snd registered
      have quiet : v2Rooms.actions = collider.v2Rooms.actions := by
        have unchanged := V2.RoomTable.register_quiet collider.v2Rooms order
          roomId clientId token
        rwa [registered] at unchanged
      have before (otherId : V2.RoomId) (otherClientId : V2.ClientId)
          (member : V2.Member)
          (present : v2Rooms.member? otherId otherClientId = some member)
          (holds : member.registered = true) :
          (∃ former,
              collider.v2Rooms.member? otherId otherClientId = some former ∧
              former.registered = true ∧ member.token = former.token) ∨
            (otherId = roomId ∧ otherClientId = clientId) := by
        rw [← stepped] at present
        rcases serves.consistent.registered_before present holds with was |
          ⟨_, _, asked, -⟩
        · exact .inl was
        · cases asked
          exact .inr ⟨rfl, rfl⟩
      obtain ⟨shown, unreported⟩ := free _ _ _ _ rfl
      have consistent : v2Rooms.Consistent :=
        stepped ▸ serves.consistent.step _
      refine ⟨consistent, ?_, ?_⟩
      · intro otherId otherClientId member present holds
        simp only [welcome, connection_insert]
        split
        · next same =>
            cases same
            obtain ⟨stored, there, -, token⟩ :=
              V2.RoomTable.register_registered registered
            cases there.symm.trans present
            exact ⟨_, rfl, token ▸ shown⟩
        · next other =>
            rcases before _ _ member present holds with
              ⟨former, there, was, same⟩ | ⟨rfl, rfl⟩
            · rw [same]
              exact serves.reached otherId otherClientId former there was
            · exact absurd rfl other
      · rintro action listed otherId otherClientId removes
          ⟨member, present, holds⟩
        have earlier : action ∈ collider.v2Rooms.actions := quiet ▸ listed
        rcases before _ _ member present holds with ⟨former, there, was, -⟩ |
          ⟨rfl, rfl⟩
        · exact serves.closing action earlier _ _ removes ⟨former, there, was⟩
        · exact unreported action earlier removes
  | sendV2 order session sent =>
      rename_i connectionId roomId clientId signalEpoch message result v2Rooms
      have stepped : collider.v2Rooms.step ⟨.send roomId clientId signalEpoch
          message, order⟩ = v2Rooms := congrArg Prod.snd sent
      refine @of_call _ _ _ ⟨.send roomId clientId signalEpoch message, order⟩
        serves ?_ (by simp) ?_ ?_
      · rw [relay_v2Rooms, stepped]
      · rintro _ _ ⟨_, _, asked, -⟩
        cases asked
      · intro _ _ _
        rw [relay_v2Connections]
  | dropV2 now session bound =>
      rename_i connectionId roomId clientId
      refine @of_call _ _ _ ⟨.deregister now roomId clientId, .sorted⟩ serves
        rfl (by simp) ?_ ?_
      · rintro _ _ ⟨_, _, asked, -⟩
        cases asked
      · intro otherId otherClientId holds
        simp only [connection_erase]
        split
        · next same =>
            cases same
            exact absurd holds (V2.RoomTable.deregister_unregistered now)
        · rfl
  | removeV2 removed =>
      rename_i requestId roomId clientId token promotion v2Rooms
      have stepped : collider.v2Rooms.step ⟨.remove requestId roomId clientId
          token, .sorted⟩ = v2Rooms := congrArg Prod.snd removed
      refine @of_call _ _ _ ⟨.remove requestId roomId clientId token, .sorted⟩
        serves ?_ (by simp) ?_ ?_
      · rw [closeV2ClientConnection_v2Rooms, stepped]
      · rintro _ _ ⟨_, _, asked, -⟩
        cases asked
      · intro otherId otherClientId holds
        rw [closeV2ClientConnection_v2Connections]
        split
        · next same =>
            cases same
            obtain ⟨member, present, -⟩ := holds
            rw [stepped, V2.RoomTable.remove_absent removed] at present
            cases present
        · rfl
  | tableV2 call quiet =>
      by_cases registers : ∃ roomId clientId token,
          call.operation = .register roomId clientId token
      · obtain ⟨roomId, clientId, token, asked⟩ := registers
        simp only [Quiet, asked] at quiet
        obtain ⟨error, fails⟩ := quiet
        have same : collider.v2Rooms.step call = collider.v2Rooms := by
          simp only [V2.RoomTable.step, asked]
          exact V2.RoomTable.register_error fails
        exact serves.of_same same rfl
      · refine serves.of_call rfl ?_ ?_ fun _ _ _ => rfl
        · intro polls
          simp only [Quiet, polls] at quiet
        · rintro roomId clientId ⟨token, _, asked, -⟩
          exact registers ⟨roomId, clientId, token, asked⟩
  | perform queued =>
      rename_i action rest
      have kept := performAction_v2Rooms { collider with
        v2Rooms := { collider.v2Rooms with actions := rest } } action
      refine ⟨?_, ?_, ?_⟩
      · have polled : collider.v2Rooms.step ⟨.pollAction, .sorted⟩ =
            { collider.v2Rooms with actions := rest } := by
          simp [V2.RoomTable.step, V2.RoomTable.pollAction, queued]
        rw [kept]
        exact polled ▸ serves.consistent.step ⟨.pollAction, .sorted⟩
      · intro roomId clientId member present holds
        rw [kept] at present
        rcases performAction_v2Connections { collider with
          v2Rooms := { collider.v2Rooms with actions := rest } } action
            (roomId, clientId) with ⟨removes, -⟩ | ⟨-, same⟩
        · exact absurd ⟨member, present, holds⟩
            (serves.closing action (by simp [queued]) roomId clientId removes)
        · rw [same]
          exact serves.reached roomId clientId member present holds
      · intro other listed roomId clientId removes holds
        rw [kept] at listed holds
        exact serves.closing other (by simp [queued, listed]) roomId clientId
          removes holds
  | close order =>
      refine ⟨serves.consistent.clear, ?_, ?_⟩
      · intro roomId clientId member present
        simp [close, V2.RoomTable.clear, V2.RoomTable.member?] at present
      · intro action listed
        simp [close, V2.RoomTable.clear] at listed

end Serves

/-- A worker input that fails confirms nothing. -/
theorem failed_grants_nothing
    {table : V2.RoomTable}
    {order : V2.VisitOrder}
    {input : Sfu.Input}
    {action : V2.Action}
    (consistent : table.Consistent)
    (fails : (table.handleSfuInput order input).1 ≠ .ok ())
    (listed : action ∈ table.emitted ⟨.handleSfuInput input, order⟩) :
    ¬action.Grants := by
  intro grants
  have appended := @V2.RoomTable.Consistent.appended table
    ⟨.handleSfuInput input, order⟩ consistent (by simp)
  have grows : (table.handleSfuInput order input).2.actions ≠
      table.actions := by
    intro same
    have equal : table.actions ++ table.emitted ⟨.handleSfuInput input, order⟩ =
        table.actions := appended.symm.trans same
    rw [List.append_right_eq_self.1 equal] at listed
    cases listed
  obtain ⟨instanceId, requestId, expected, room, joining, lifecycleId,
    assignmentEpoch, ⟨_, ⟨_, _, asked, _, recorded⟩, unconfirmed⟩, -⟩ :=
    (V2.RoomTable.handleSfuInput_strands_iff table order input).1 ⟨fails, grows⟩
  obtain ⟨middle, move, arises, emission⟩ :=
    consistent.emission (by simp) listed
  obtain ⟨_, _, _, _, ⟨_, _, same, _, found⟩, confirmed⟩ :=
    emission.grants arises grants
  cases asked
  cases same
  cases recorded.symm.trans found
  exact unconfirmed confirmed

/-- Nothing that a worker has confirmed waits to be reported between two calls.
-/
def Reported (collider : Collider) : Prop :=
  ∀ action ∈ collider.v2Rooms.actions, ¬action.Grants

theorem Reported.step
    {collider : Collider}
    (reported : collider.Reported)
    (consistent : collider.v2Rooms.Consistent)
    (decode : String -> Except String WsClientMsg)
    (call : Call) :
    (collider.step decode call).Reported := by
  by_cases polled : call.operation = .pollEvent
  · have same : (collider.step decode call).v2Rooms = collider.v2Rooms := by
      simp [Collider.step, polled, pollEvent]
    exact fun action listed => reported action (same ▸ listed)
  by_cases ended : call.operation = .close
  · intro action listed
    simp [Collider.step, ended, close, V2.RoomTable.clear] at listed
  obtain ⟨table, answers, -, turned⟩ := step_turns decode collider call polled
    ended
  obtain ⟨done, left, split, stays, v2Rooms, -⟩ := turned.carried
  intro action listed
  rw [v2Rooms] at listed
  simp only at listed
  rcases stays with rfl | ⟨rfl, same | ⟨input, -, fails, rfl⟩⟩
  · cases listed
  · rw [List.nil_append] at split
    exact reported action (same ▸ split ▸ listed)
  · rw [List.nil_append] at split
    rw [← split, @V2.RoomTable.Consistent.appended collider.v2Rooms
      ⟨.handleSfuInput input, call.order.v2⟩ consistent (by simp)] at listed
    rcases List.mem_append.1 listed with old | new
    · exact reported action old
    · exact failed_grants_nothing consistent fails new

/-- The call brings a frame that registers the member on the connection with the
token. -/
def Call.Presents
    (decode : String -> Except String WsClientMsg)
    (call : Call)
    (connectionId : ConnectionId)
    (roomId : V2.RoomId)
    (clientId : V2.ClientId)
    (token : String) : Prop :=
  ∃ text now msg,
    call.operation = .handleRead (.text connectionId text now) ∧
    decode text = .ok msg ∧ msg.cmd = "register" ∧ msg.ver = some 2 ∧
    V2.parseRoomToken msg.roomid = some roomId ∧
    canonicalU64 msg.clientid = some clientId ∧ msg.token = token

/-- A frame of the history registers the member on the connection with the
token. -/
def Presented
    (decode : String -> Except String WsClientMsg)
    (history : History)
    (connectionId : ConnectionId)
    (roomId : V2.RoomId)
    (clientId : V2.ClientId)
    (token : String) : Prop :=
  ∃ event ∈ history, event.2.Presents decode connectionId roomId clientId token

/-- Every call keeps registered members connected. -/
theorem Serves.step
    {decode : String -> Except String WsClientMsg}
    {history : History}
    {collider : Collider}
    (serves : Serves (Presented decode history) collider)
    (reported : collider.Reported)
    (call : Call) :
    Serves (Presented decode ((collider, call) :: history))
      (collider.step decode call) := by
  refine Chain.invariant (Serves (Presented decode ((collider, call) ::
      history)))
    (fun state act after taken free kept => kept.acted taken ?_)
    (step_acts decode collider call)
    (serves.mono ?_)
  · rintro connectionId roomId clientId token rfl
    obtain ⟨rfl, presents⟩ := free
    exact ⟨⟨_, List.mem_cons_self, presents⟩,
      fun action listed removes => reported action listed removes.grants⟩
  · rintro connectionId roomId clientId token ⟨event, listed, presents⟩
    exact ⟨event, List.mem_cons_of_mem _ listed, presents⟩

theorem serves_of_run
    {decode : String -> Except String WsClientMsg}
    {registerTimeout : Duration}
    {history : History}
    {collider : Collider}
    (run : (machine decode registerTimeout).Run history collider) :
    Serves (Presented decode history) collider ∧ collider.Reported := by
  induction run with
  | start starts =>
      obtain rfl : _ = new registerTimeout := starts
      refine ⟨⟨.new registerTimeout, ?_, by simp⟩, by simp [Reported]⟩
      intro roomId clientId member present
      simp [V2.RoomTable.member?] at present
  | next call run inductionHypothesis =>
      obtain ⟨serves, reported⟩ := inductionHypothesis
      exact ⟨serves.step reported call,
        reported.step serves.consistent decode call⟩

/-- A call that hands a message over at once writes it to the connection of its
receiver. -/
theorem Serves.sendV2_writes
    {presented : ConnectionId -> V2.RoomId -> V2.ClientId -> String -> Prop}
    {collider : Collider}
    (serves : Serves presented collider)
    {order : VisitOrder}
    {roomId : V2.RoomId}
    {clientId : V2.ClientId}
    {msg : WsClientMsg}
    {signalEpoch : Nat}
    {delivery : V2.Delivery}
    (canonical : msg.epoch.bind canonicalJsonU64 = some signalEpoch)
    (sent : (collider.v2Rooms.send order.v2 roomId clientId signalEpoch
      msg.msg).1 = .ok (.p2p (some delivery))) :
    ∃ connectionId more,
      collider.v2Connections[(roomId, delivery.clientId)]? =
        some connectionId ∧
      (collider.sendV2 order roomId clientId msg).2.browserOutputs =
        collider.browserOutputs ++
          .text connectionId (serverMsg msg.msg) :: more := by
  obtain ⟨room, message, -, registered⟩ := V2.RoomTable.send_delivers sent
  obtain ⟨connectionId, bound⟩ := serves.connected registered
  unfold sendV2
  rw [canonical]
  dsimp only
  rcases outcome : collider.v2Rooms.send order.v2 roomId clientId signalEpoch
    msg.msg with ⟨result, v2Rooms⟩
  rw [outcome] at sent
  dsimp only at sent
  subst sent
  have told : ({ collider with v2Rooms := v2Rooms }.notifyMember
      delivery.roomId delivery.clientId
        (serverMsg delivery.message)).browserOutputs =
      collider.browserOutputs ++
        [.text connectionId (serverMsg msg.msg)] := by
    simp [notifyMember, room, message, bound]
  obtain ⟨more, carried, -⟩ := (Aside.drainV2Actions
    ({ collider with v2Rooms := v2Rooms }.notifyMember delivery.roomId
      delivery.clientId (serverMsg delivery.message))).outputs
  refine ⟨connectionId, more, bound, ?_⟩
  dsimp only
  rw [carried, told]
  simp

/-- In every run in which a connection opens once and before its other inputs,
every registered V2 member is connected: a session that is registered for
exactly this member. No connection serves two members, and a call that hands a
message over at once writes it to the connection of its receiver. -/
theorem registered_members_connected
    {decode : String -> Except String WsClientMsg}
    {registerTimeout : Duration}
    {history : History}
    {collider : Collider}
    (run : (machine decode registerTimeout).Run history collider)
    (introduced : Introduced history) :
    (∀ roomId clientId, collider.v2Rooms.Registered roomId clientId ->
      ∃ connectionId,
        collider.v2Connections[(roomId, clientId)]? = some connectionId ∧
        collider.sessions[connectionId]? =
          some (.registeredV2 roomId clientId)) ∧
    (∀ (key other : V2.MemberKey) (connectionId : ConnectionId),
      collider.v2Connections[key]? = some connectionId ->
      collider.v2Connections[other]? = some connectionId -> key = other) ∧
    ∀ (order : VisitOrder) (roomId : V2.RoomId) (clientId : V2.ClientId)
      (msg : WsClientMsg) (signalEpoch : Nat) (delivery : V2.Delivery),
      msg.epoch.bind canonicalJsonU64 = some signalEpoch ->
      (collider.v2Rooms.send order.v2 roomId clientId signalEpoch
        msg.msg).1 = .ok (.p2p (some delivery)) ->
      ∃ connectionId more,
        collider.sessions[connectionId]? =
          some (.registeredV2 roomId delivery.clientId) ∧
        (collider.sendV2 order roomId clientId msg).2.browserOutputs =
          collider.browserOutputs ++
            .text connectionId (serverMsg msg.msg) :: more := by
  obtain ⟨serves, -⟩ := serves_of_run run
  have bound := (bound_of_run run introduced).1.v2
  refine ⟨fun roomId clientId registered => ?_,
    fun key other connectionId held shared => ?_,
    fun order roomId clientId msg signalEpoch delivery canonical sent => ?_⟩
  · obtain ⟨connectionId, held⟩ := serves.connected registered
    exact ⟨connectionId, held, bound.session _ _ held⟩
  · have first := bound.session _ _ held
    rw [bound.session _ _ shared] at first
    obtain ⟨room, client⟩ := Session.registeredV2.inj (Option.some.inj first)
    exact Prod.ext room.symm client.symm
  · obtain ⟨connectionId, more, held, written⟩ :=
      serves.sendV2_writes canonical sent
    exact ⟨connectionId, more, bound.session _ _ held, written⟩

/-- The registrations of two members. -/
def memberFrames (text : String) : Except String WsClientMsg :=
  if text = "first" then
    .ok ⟨"register", V2.formatRoomToken V2.exampleRoomId, "1", "", some 2,
      "first", none⟩
  else .ok ⟨"register", V2.formatRoomToken V2.exampleRoomId, "2", "", some 2,
    "second", none⟩

/-- Two members are admitted and register. -/
def meetingOperations : List Operation :=
  [.handleWrite ⟨1, .admitV2 V2.exampleRoomId 1 "first" 0⟩,
    .handleWrite ⟨2, .admitV2 V2.exampleRoomId 2 "second" 0⟩,
    .handleRead (.connected 1), .handleRead (.connected 2),
    .handleRead (.text 1 "first" 0), .handleRead (.text 2 "second" 0)]

theorem meetingOperations_introduced :
    Introduced (played memberFrames 10 meetingOperations).1 := by
  simp [played, meetingOperations, Machine.play, Introduced, Call.Names]

/-- A message of the first member reaches the connection of the second one. -/
theorem registered_members_connected_meeting :
    ∃ connectionId more,
      (played memberFrames 10 meetingOperations).2.sessions[connectionId]? =
        some (.registeredV2 V2.exampleRoomId 2) ∧
      ((played memberFrames 10 meetingOperations).2.sendV2 .sorted
        V2.exampleRoomId 1 ⟨"send", "", "", "offer", none, "",
          some (.string "0")⟩).2.browserOutputs =
        (played memberFrames 10 meetingOperations).2.browserOutputs ++
          .text connectionId (serverMsg "offer") :: more :=
  (registered_members_connected
    (played_run memberFrames 10 meetingOperations)
    meetingOperations_introduced).2.2 .sorted V2.exampleRoomId 1
      ⟨"send", "", "", "offer", none, "", some (.string "0")⟩ 0
      ⟨V2.exampleRoomId, 2, "offer"⟩ (by decide +kernel) (by decide +kernel)

/-! ## Connections of members -/

/-- A worker's answer, or the end of a worker, takes a registered member out
without a request of the authority to remove it. -/
def Expels (collider : Collider) (call : Call) : Prop :=
  ∃ (input : V2.Call) (roomId : V2.RoomId) (clientId : V2.ClientId),
    call.Causes input.operation ∧
    collider.v2Rooms.Registered roomId clientId ∧
    input.Expels collider.v2Rooms roomId clientId

/-- Every connection of the V2 members belongs to a registered member, or to one
whose removal waits to be reported. -/
def Belongs (collider : Collider) : Prop :=
  ∀ roomId clientId connectionId,
    collider.v2Connections[(roomId, clientId)]? = some connectionId ->
    collider.v2Rooms.Registered roomId clientId ∨
      ∃ action ∈ collider.v2Rooms.actions, action.Removes roomId clientId

namespace Belongs

variable {collider after : Collider}

theorem of_same
    (belongs : collider.Belongs)
    (v2Rooms : after.v2Rooms = collider.v2Rooms)
    (v2Connections : after.v2Connections = collider.v2Connections) :
    after.Belongs := by
  unfold Belongs
  rw [v2Rooms, v2Connections]
  exact belongs

/-- An input of the V2 table that takes no member with a connection out, unless
it reports the removal. -/
theorem of_call
    {call : V2.Call}
    (belongs : collider.Belongs)
    (consistent : collider.v2Rooms.Consistent)
    (v2Rooms : after.v2Rooms = collider.v2Rooms.step call)
    (appends : call.operation ≠ .pollAction)
    (kept : ∀ roomId clientId connectionId,
      after.v2Connections[(roomId, clientId)]? = some connectionId ->
      (collider.v2Rooms.step call).Registered roomId clientId ∨
        collider.v2Connections[(roomId, clientId)]? = some connectionId ∧
        ¬collider.v2Rooms.Ends call roomId clientId)
    (spared : ∀ roomId clientId,
      collider.v2Rooms.Registered roomId clientId ->
        ¬call.Expels collider.v2Rooms roomId clientId) :
    after.Belongs := by
  intro roomId clientId connectionId held
  rw [v2Rooms, consistent.appended appends]
  rcases kept roomId clientId connectionId held with holds | ⟨before, lasts⟩
  · exact .inl holds
  rcases belongs roomId clientId connectionId before with registered |
    ⟨action, listed, removes⟩
  · rcases consistent.registered_after appends registered lasts
      (spared roomId clientId registered) with stays | ⟨action, new, removes⟩
    · exact .inl stays
    · exact .inr ⟨action, List.mem_append_right _ new, removes⟩
  · exact .inr ⟨action, List.mem_append_left _ listed, removes⟩

/-- Every act of a call that expels nobody. -/
theorem acted
    {decode : String -> Except String WsClientMsg}
    {call : Call}
    {start : Collider}
    {act : Act}
    (belongs : collider.Belongs)
    (consistent : collider.v2Rooms.Consistent)
    (taken : Acted collider act after)
    (free : act.From decode call start collider)
    (spares : ¬start.Expels call) :
    after.Belongs := by
  cases taken with
  | connect | fail | roomsV1 | bindV1 | writeV1 | forget | respond | pollWrite
  | pollEvent => exact belongs.of_same rfl rfl
  | closeV1 roomid clientid =>
      have closed : (collider.closeClientConnection roomid clientid).v2Rooms =
            collider.v2Rooms ∧
          (collider.closeClientConnection roomid clientid).v2Connections =
            collider.v2Connections := by
        unfold closeClientConnection
        split <;> exact ⟨rfl, rfl⟩
      exact belongs.of_same closed.1 closed.2
  | promote promotion =>
      exact belongs.of_same (notifyMember_v2Rooms ..)
        (notifyMember_v2Connections ..)
  | registerV2 order unbound registered =>
      rename_i connectionId roomId clientId token registration v2Rooms
      have stepped : collider.v2Rooms.step ⟨.register roomId clientId token,
          order⟩ = v2Rooms := congrArg Prod.snd registered
      refine @of_call _ _ ⟨.register roomId clientId token, order⟩ belongs
        consistent stepped.symm (by simp) ?_ ?_
      · intro otherId otherClientId other held
        simp only [welcome, connection_insert] at held
        split at held
        · next same =>
            cases same
            rw [stepped]
            obtain ⟨member, present, holds, -⟩ :=
              V2.RoomTable.register_registered registered
            exact .inl ⟨member, present, holds⟩
        · refine .inr ⟨held, ?_⟩
          rintro (⟨_, asked⟩ | ⟨_, _, _, asked, -⟩) <;> cases asked
      · intro _ _ _ expels
        rcases expels.inputs with ⟨_, asked⟩ | ⟨_, asked⟩ <;> cases asked
  | sendV2 order session sent =>
      rename_i connectionId roomId clientId signalEpoch message result v2Rooms
      have stepped : collider.v2Rooms.step ⟨.send roomId clientId signalEpoch
          message, order⟩ = v2Rooms := congrArg Prod.snd sent
      refine @of_call _ _ ⟨.send roomId clientId signalEpoch message, order⟩
        belongs consistent (by rw [relay_v2Rooms, stepped]) (by simp) ?_ ?_
      · intro otherId otherClientId other held
        rw [relay_v2Connections] at held
        refine .inr ⟨held, ?_⟩
        rintro (⟨_, asked⟩ | ⟨_, _, _, asked, -⟩) <;> cases asked
      · intro _ _ _ expels
        rcases expels.inputs with ⟨_, asked⟩ | ⟨_, asked⟩ <;> cases asked
  | dropV2 now session bound =>
      rename_i connectionId roomId clientId
      refine @of_call _ _ ⟨.deregister now roomId clientId, .sorted⟩ belongs
        consistent rfl (by simp) ?_ ?_
      · intro otherId otherClientId other held
        simp only [connection_erase] at held
        split at held
        · cases held
        · next different =>
            refine .inr ⟨held, ?_⟩
            rintro (⟨_, asked⟩ | ⟨_, _, _, asked, -⟩)
            · cases asked
              exact different rfl
            · cases asked
      · intro _ _ _ expels
        rcases expels.inputs with ⟨_, asked⟩ | ⟨_, asked⟩ <;> cases asked
  | removeV2 removed =>
      rename_i requestId roomId clientId token promotion v2Rooms
      have stepped : collider.v2Rooms.step ⟨.remove requestId roomId clientId
          token, .sorted⟩ = v2Rooms := congrArg Prod.snd removed
      refine @of_call _ _ ⟨.remove requestId roomId clientId token, .sorted⟩
        belongs consistent (by rw [closeV2ClientConnection_v2Rooms, stepped])
        (by simp) ?_ ?_
      · intro otherId otherClientId other held
        rw [closeV2ClientConnection_v2Connections] at held
        split at held
        · cases held
        · next different =>
            refine .inr ⟨held, ?_⟩
            rintro (⟨_, asked⟩ | ⟨_, _, _, asked, -⟩)
            · cases asked
            · cases asked
              exact different rfl
      · intro _ _ _ expels
        rcases expels.inputs with ⟨_, asked⟩ | ⟨_, asked⟩ <;> cases asked
  | tableV2 input quiet =>
      obtain ⟨same, caused⟩ := free
      refine @of_call _ _ input belongs consistent rfl ?_ ?_ ?_
      · intro polls
        simp only [Quiet, polls] at quiet
      · intro roomId clientId connectionId held
        refine .inr ⟨held, ?_⟩
        rintro (⟨_, asked⟩ | ⟨_, _, promotion, asked, completes⟩)
        · simp only [Quiet, asked] at quiet
        · simp only [Quiet, asked] at quiet
          exact quiet promotion completes
      · intro roomId clientId registered expels
        rw [same] at registered expels
        exact spares ⟨input, roomId, clientId, caused, registered, expels⟩
  | perform queued =>
      rename_i action rest
      intro roomId clientId connectionId held
      rw [performAction_v2Rooms]
      rcases performAction_v2Connections { collider with
        v2Rooms := { collider.v2Rooms with actions := rest } } action
          (roomId, clientId) with ⟨-, ended⟩ | ⟨silent, kept⟩
      · rw [ended] at held
        cases held
      · rw [kept] at held
        rcases belongs roomId clientId connectionId held with registered |
          ⟨other, listed, removes⟩
        · exact .inl registered
        · rw [queued] at listed
          rcases List.mem_cons.1 listed with rfl | later
          · exact absurd removes silent
          · exact .inr ⟨other, later, removes⟩
  | close order =>
      intro roomId clientId connectionId held
      simp [close] at held

end Belongs

theorem belongs_of_run
    {decode : String -> Except String WsClientMsg}
    {registerTimeout : Duration}
    {history : History}
    {collider : Collider}
    (run : (machine decode registerTimeout).Run history collider)
    (guarded : Machine.Guarded (fun collider call => ¬collider.Expels call)
      history) :
    collider.Belongs := by
  refine run.history_invariant (fun _ collider => collider.Belongs) ?_ ?_
    guarded
  · rintro collider rfl roomId clientId connectionId held
    simp at held
  · intro history collider call earlier spares belongs
    obtain ⟨serves, reported⟩ := serves_of_run earlier
    refine (Chain.invariant (fun state =>
        Serves (fun _ _ _ _ => True) state ∧ state.Belongs) ?_
      (step_acts decode collider call)
      ⟨serves.mono fun _ _ _ _ _ => trivial, belongs⟩).2
    intro state act after taken free kept
    refine ⟨kept.1.acted taken ?_,
      kept.2.acted kept.1.consistent taken free spares⟩
    rintro connectionId roomId clientId token rfl
    obtain ⟨rfl, -⟩ := free
    exact ⟨trivial, fun action listed removes =>
      reported action listed removes.grants⟩

/-- Every session of a V2 member is on the connection of that member. -/
def Current (collider : Collider) : Prop :=
  ∀ (connectionId : ConnectionId) (roomId : V2.RoomId) (clientId : V2.ClientId),
    collider.sessions[connectionId]? = some (.registeredV2 roomId clientId) ->
      collider.v2Connections[(roomId, clientId)]? = some connectionId

namespace Current

variable {collider after : Collider}

theorem of_same
    (current : collider.Current)
    (sessions : after.sessions = collider.sessions)
    (v2Connections : after.v2Connections = collider.v2Connections) :
    after.Current := by
  unfold Current
  rw [sessions, v2Connections]
  exact current

/-- The session of a connection begins for no V2 member, or ends. -/
theorem of_session
    (current : collider.Current)
    (connectionId : ConnectionId)
    (sessions : ∀ other session, after.sessions[other]? = some session ->
      (other ≠ connectionId ∧ collider.sessions[other]? = some session) ∨
        ∀ roomId clientId, session ≠ .registeredV2 roomId clientId)
    (v2Connections : after.v2Connections = collider.v2Connections) :
    after.Current := by
  intro other roomId clientId registered
  rw [v2Connections]
  rcases sessions other _ registered with ⟨-, before⟩ | foreign
  · exact current other roomId clientId before
  · exact absurd rfl (foreign roomId clientId)

/-- The connection of a member ends together with its session. -/
theorem unbind
    {connectionId : ConnectionId}
    {roomId : V2.RoomId}
    {clientId : V2.ClientId}
    (current : collider.Current)
    (held : collider.v2Connections[(roomId, clientId)]? = some connectionId)
    (sessions : after.sessions = collider.sessions.erase connectionId)
    (v2Connections : after.v2Connections =
      collider.v2Connections.erase (roomId, clientId)) :
    after.Current := by
  intro other otherId otherClientId registered
  rw [sessions, connection_erase] at registered
  split at registered
  · cases registered
  · next different =>
      have before := current other otherId otherClientId registered
      rw [v2Connections, connection_erase]
      split
      · next same =>
          cases same
          exact absurd (Option.some.inj (held.symm.trans before)) different
      · exact before

theorem closeV2ClientConnection
    (current : collider.Current)
    (roomId : V2.RoomId)
    (clientId : V2.ClientId) :
    (collider.closeV2ClientConnection roomId clientId).Current := by
  unfold Collider.closeV2ClientConnection
  split
  · exact current
  · next connectionId held => exact current.unbind held rfl rfl

/-- Every act, when a member that registers has no connection yet. -/
theorem acted
    {act : Act}
    (current : collider.Current)
    (taken : Acted collider act after)
    (fresh : ∀ connectionId roomId clientId token,
      act = .registerV2 connectionId roomId clientId token ->
        ¬collider.v2Rooms.Registered roomId clientId ->
        collider.v2Connections[(roomId, clientId)]? = none) :
    after.Current := by
  cases taken with
  | fail | roomsV1 | writeV1 | tableV2 | respond | pollWrite | pollEvent =>
      exact current.of_same rfl rfl
  | connect connectionId =>
      refine current.of_session connectionId (fun other session begun => ?_) rfl
      simp only [connection_insert] at begun
      split at begun
      · cases begun
        exact .inr fun _ _ => Session.noConfusion
      · next different => exact .inl ⟨Ne.symm different, begun⟩
  | bindV1 =>
      rename_i connectionId roomid clientid _
      refine current.of_session connectionId (fun other session begun => ?_) rfl
      simp only [connection_insert] at begun
      split at begun
      · cases begun
        exact .inr fun _ _ => Session.noConfusion
      · next different => exact .inl ⟨Ne.symm different, begun⟩
  | closeV1 roomid clientid =>
      unfold closeClientConnection
      split
      · exact current
      · next connectionId _ =>
          refine current.of_session connectionId (fun other session kept => ?_)
            rfl
          simp only [pushOutput_sessions, connection_erase] at kept
          split at kept
          · cases kept
          · next different => exact .inl ⟨Ne.symm different, kept⟩
  | forget connections rooms superseded =>
      rename_i connectionId
      refine current.of_session connectionId (fun other session kept => ?_) rfl
      simp only [connection_erase] at kept
      split at kept
      · cases kept
      · next different => exact .inl ⟨Ne.symm different, kept⟩
  | promote promotion =>
      exact current.of_same (notifyMember_sessions ..)
        (notifyMember_v2Connections ..)
  | registerV2 order unbound registered =>
      rename_i connectionId roomId clientId token registration v2Rooms
      have absent := fresh _ _ _ _ rfl
        (V2.RoomTable.register_unregistered registered)
      intro other otherId otherClientId held
      simp only [welcome, connection_insert] at held ⊢
      split at held
      · next same =>
          cases held
          simp [same]
      · next different =>
          have before := current other otherId otherClientId held
          split
          · next same =>
              cases same
              cases absent.symm.trans before
          · exact before
  | sendV2 order session sent =>
      rename_i connectionId roomId clientId signalEpoch message result v2Rooms
      refine current.of_same ?_ (relay_v2Connections ..)
      unfold relay
      split
      · exact notifyMember_sessions ..
      · rfl
  | dropV2 now session bound => exact current.unbind bound rfl rfl
  | removeV2 =>
      rename_i requestId roomId clientId token promotion v2Rooms _
      exact @closeV2ClientConnection { collider with v2Rooms := v2Rooms }
        (current.of_same rfl rfl) roomId clientId
  | perform =>
      rename_i action rest _
      cases action with
      | sfu | admissionCompleted => exact current.of_same rfl rfl
      | removalCompleted authorityRequestId roomId clientId result =>
          cases result with
          | ok =>
              have closed := @closeV2ClientConnection { collider with
                v2Rooms := { collider.v2Rooms with actions := rest } }
                (current.of_same rfl rfl) roomId clientId
              exact closed.of_same rfl rfl
          | error => exact current.of_same rfl rfl
      | deliver delivery =>
          exact current.of_same (notifyMember_sessions ..)
            (notifyMember_v2Connections ..)
      | upgraded | downgraded | roomFailed =>
          have told := notifyMembers_kept
          exact current.of_same (told _ _ _ _).1 (told _ _ _ _).2
  | close order =>
      intro connectionId roomId clientId registered
      simp [close] at registered

end Current

theorem current_of_run
    {decode : String -> Except String WsClientMsg}
    {registerTimeout : Duration}
    {history : History}
    {collider : Collider}
    (run : (machine decode registerTimeout).Run history collider)
    (guarded : Machine.Guarded (fun collider call => ¬collider.Expels call)
      history) :
    collider.Current := by
  induction run with
  | start starts =>
      obtain rfl : _ = new registerTimeout := starts
      intro connectionId roomId clientId registered
      simp at registered
  | @next history collider call run inductionHypothesis =>
      obtain ⟨serves, reported⟩ := serves_of_run run
      have belongs := belongs_of_run run guarded.tail
      refine Chain.invariant Current
        (fun state act after taken free kept => kept.acted taken ?_)
        (step_acts decode collider call) (inductionHypothesis guarded.tail)
      rintro connectionId roomId clientId token rfl unregistered
      obtain ⟨rfl, -⟩ := free
      rw [← Option.not_isSome_iff_eq_none, Option.isSome_iff_exists]
      rintro ⟨other, held⟩
      rcases belongs roomId clientId other held with registered |
        ⟨action, listed, removes⟩
      · exact unregistered registered
      · exact (reported action listed removes.grants).elim

/-- In every run in which a connection opens once and before its other inputs,
and in which no worker's answer and no end of a worker takes a registered member
out without a request of the authority, the V2 sessions, the V2 connections and
the registered members are the same: a member is registered exactly when it has
a connection, and a connection belongs to a member exactly when its session is
registered for this member. -/
theorem v2_maps_agree
    {decode : String -> Except String WsClientMsg}
    {registerTimeout : Duration}
    {history : History}
    {collider : Collider}
    (run : (machine decode registerTimeout).Run history collider)
    (introduced : Introduced history)
    (guarded : Machine.Guarded (fun collider call => ¬collider.Expels call)
      history) :
    (∀ roomId clientId, collider.v2Rooms.Registered roomId clientId ↔
      ∃ connectionId,
        collider.v2Connections[(roomId, clientId)]? = some connectionId) ∧
    ∀ (connectionId : ConnectionId) (roomId : V2.RoomId)
      (clientId : V2.ClientId),
      collider.sessions[connectionId]? =
          some (.registeredV2 roomId clientId) ↔
        collider.v2Connections[(roomId, clientId)]? = some connectionId := by
  obtain ⟨serves, reported⟩ := serves_of_run run
  have belongs := belongs_of_run run guarded
  refine ⟨fun roomId clientId => ⟨serves.connected, ?_⟩,
    fun connectionId roomId clientId =>
      ⟨current_of_run run guarded connectionId roomId clientId,
        (bound_of_run run introduced).1.v2.session _ _⟩⟩
  rintro ⟨connectionId, held⟩
  rcases belongs roomId clientId connectionId held with registered |
    ⟨action, listed, removes⟩
  · exact registered
  · exact (reported action listed removes.grants).elim

theorem meetingOperations_guarded :
    Machine.Guarded (fun collider call => ¬collider.Expels call)
      (played memberFrames 10 meetingOperations).1 := by
  have nothing : Machine.Guarded (fun collider call =>
      ¬collider.Expels call) ([] : History) := by
    simp [Machine.Guarded]
  refine nothing.play _ _ fun call listed collider => ?_
  rintro ⟨⟨operation, order⟩, roomId, clientId, caused, -, expels⟩
  simp only [meetingOperations, List.map_cons, List.map_nil, List.mem_cons,
    List.not_mem_nil, or_false] at listed
  rcases expels.inputs with ⟨input, rfl⟩ | ⟨now, rfl⟩ <;>
    rcases listed with rfl | rfl | rfl | rfl | rfl | rfl <;> cases caused

/-- The second member is registered on the second connection. -/
theorem v2_maps_agree_meeting :
    (played memberFrames 10 meetingOperations).2.v2Rooms.Registered
        V2.exampleRoomId 2 ∧
      (played memberFrames 10 meetingOperations).2.sessions[2]? =
        some (.registeredV2 V2.exampleRoomId 2) := by
  have held : (played memberFrames 10 meetingOperations).2.v2Connections[
      (V2.exampleRoomId, 2)]? = some 2 := by decide +kernel
  obtain ⟨registered, sessions⟩ := v2_maps_agree
    (played_run memberFrames 10 meetingOperations)
    meetingOperations_introduced meetingOperations_guarded
  exact ⟨(registered _ _).2 ⟨2, held⟩, (sessions 2 _ _).2 held⟩

/-- In every run, the connection of a registered member has presented the token
that the member holds now. When no worker's answer and no end of a worker takes
a registered member out without a request of the authority, every V2 session,
and so every message that is accepted from one, is that of a registered member
whose present token the connection has presented. -/
theorem sessions_hold_current_token
    {decode : String -> Except String WsClientMsg}
    {registerTimeout : Duration}
    {history : History}
    {collider : Collider}
    (run : (machine decode registerTimeout).Run history collider) :
    (∀ roomId clientId member,
      collider.v2Rooms.member? roomId clientId = some member ->
      member.registered = true -> ∃ connectionId,
        collider.v2Connections[(roomId, clientId)]? = some connectionId ∧
        Presented decode history connectionId roomId clientId member.token) ∧
    (Machine.Guarded (fun collider call => ¬collider.Expels call) history ->
      ∀ (connectionId : ConnectionId) (roomId : V2.RoomId)
        (clientId : V2.ClientId),
        collider.sessions[connectionId]? =
          some (.registeredV2 roomId clientId) ->
        ∃ member, collider.v2Rooms.member? roomId clientId = some member ∧
          member.registered = true ∧
          Presented decode history connectionId roomId clientId
            member.token) := by
  obtain ⟨serves, reported⟩ := serves_of_run run
  refine ⟨serves.reached, fun guarded connectionId roomId clientId session => ?_⟩
  have held := current_of_run run guarded connectionId roomId clientId session
  rcases belongs_of_run run guarded roomId clientId connectionId held with
    ⟨member, present, registered⟩ | ⟨action, listed, removes⟩
  · obtain ⟨other, there, presented⟩ :=
      serves.reached roomId clientId member present registered
    cases there.symm.trans held
    exact ⟨member, present, registered, presented⟩
  · exact (reported action listed removes.grants).elim

/-- The second connection has presented the token of the second member. -/
theorem sessions_hold_current_token_meeting :
    ∃ member, (played memberFrames 10 meetingOperations).2.v2Rooms.member?
        V2.exampleRoomId 2 = some member ∧ member.registered = true ∧
      Presented memberFrames (played memberFrames 10 meetingOperations).1 2
        V2.exampleRoomId 2 member.token :=
  (sessions_hold_current_token
    (played_run memberFrames 10 meetingOperations)).2 meetingOperations_guarded
      2 V2.exampleRoomId 2 (by decide +kernel)

end Collider
end Signaling
