import Signaling.Collider.Stalls
import Signaling.V2.Debts

/-!
# What a call answers

A call of the collider puts at most one input to the V2 table, may answer its
command at once, and then carries the actions of the table out or leaves them.
The responses that it hands over are the answers of both kinds.
-/

namespace Signaling

/-- The response that an action of the V2 table becomes. -/
def V2.Action.response? : V2.Action -> Option AuthorityResponse
  | .admissionCompleted authorityRequestId (.ok admission) =>
      some ⟨authorityRequestId, Collider.admissionResult admission⟩
  | .admissionCompleted authorityRequestId (.error error) =>
      some ⟨authorityRequestId, .error error⟩
  | .removalCompleted authorityRequestId _ _ (.ok _) =>
      some ⟨authorityRequestId, .removedV2⟩
  | .removalCompleted authorityRequestId _ _ (.error error) =>
      some ⟨authorityRequestId, .error error⟩
  | _ => none

/-- The kinds of result that an operation of the authority can have. -/
def AuthorityOperation.Yields :
    AuthorityOperation -> AuthorityResult -> Prop
  | .admitClient .., .admitted .. => True
  | .admitClient .., .error _ => True
  | .remove .., .removed => True
  | .occupancy _, .occupancy _ => True
  | .inject .., .injected => True
  | .inject .., .error _ => True
  | .admitV2 .., .admittedV2 .. => True
  | .admitV2 .., .error _ => True
  | .removeV2 .., .removedV2 => True
  | .removeV2 .., .error _ => True
  | .occupancyV2 _, .occupancyV2 .. => True
  | .status, .status _ => True
  | _, _ => False

/-- The V2 table completes the admission with the result at once, if the result
is one of an admission. -/
def AuthorityOperation.Completes
    (operation : AuthorityOperation)
    (table : V2.RoomTable)
    (requestId : Nat)
    (result : AuthorityResult) : Prop :=
  match operation, result with
  | .admitV2 roomId clientId token now,
    .admittedV2 mode signalEpoch admissionToken isInitiator =>
      (table.admitClient requestId now roomId clientId token).1 =
        .ok (.complete ⟨mode, signalEpoch, admissionToken, isInitiator⟩)
  | _, _ => True

/-- The input of the V2 table puts the request of the command to it. -/
def V2.Call.Requests
    (input : V2.Call)
    (command : AuthorityCommand) : Prop :=
  match command.operation with
  | .admitV2 roomId clientId admissionToken now => input.operation =
      .admitClient command.requestId now roomId clientId admissionToken
  | .removeV2 roomId clientId admissionToken => input.operation =
      .remove command.requestId roomId clientId admissionToken
  | _ => False

/-- An input of the V2 table with which the authority requests nothing. -/
def V2.Operation.Unasked : V2.Operation -> Prop
  | .admitClient .. | .remove .. | .pollAction => False
  | _ => True

namespace Collider

open Std (ExtTreeMap)

section Mute

/-- A step that leaves the V2 table and the responses. -/
structure Mute (collider after : Collider) : Prop where
  v2Rooms : after.v2Rooms = collider.v2Rooms
  responses : after.authorityResponses = collider.authorityResponses

namespace Mute

variable {collider middle after : Collider}

theorem refl (collider : Collider) : collider.Mute collider :=
  ⟨rfl, rfl⟩

theorem trans
    (first : collider.Mute middle)
    (second : middle.Mute after) :
    collider.Mute after :=
  ⟨second.v2Rooms.trans first.v2Rooms,
    second.responses.trans first.responses⟩

theorem foldl
    {α : Type}
    {step : Collider -> α -> Collider}
    (mute : ∀ (collider : Collider) (entry : α),
      collider.Mute (step collider entry))
    (entries : List α)
    (collider : Collider) :
    collider.Mute (entries.foldl step collider) := by
  induction entries generalizing collider with
  | nil => exact refl collider
  | cons entry entries inductionHypothesis =>
      exact (mute collider entry).trans (inductionHypothesis _)

theorem failConnection
    (collider : Collider)
    (connectionId : ConnectionId)
    (error : String) :
    collider.Mute (collider.failConnection connectionId error) :=
  ⟨rfl, rfl⟩

theorem notifyMember
    (collider : Collider)
    (roomId : V2.RoomId)
    (clientId : V2.ClientId)
    (frame : Frame) :
    collider.Mute (collider.notifyMember roomId clientId frame) := by
  unfold Collider.notifyMember
  split <;> exact ⟨rfl, rfl⟩

theorem pushPromotions
    (promotions : List V2.Promotion)
    (collider : Collider) :
    collider.Mute (promotions.foldl pushPromotion collider) :=
  foldl (fun collider _ => notifyMember collider ..) promotions collider

theorem closeClientConnection
    (collider : Collider)
    (roomid : V1.RoomId)
    (clientid : V1.ClientId) :
    collider.Mute (collider.closeClientConnection roomid clientid) := by
  unfold Collider.closeClientConnection
  split <;> exact ⟨rfl, rfl⟩

theorem closeV2ClientConnection
    (collider : Collider)
    (roomId : V2.RoomId)
    (clientId : V2.ClientId) :
    collider.Mute (collider.closeV2ClientConnection roomId clientId) := by
  unfold Collider.closeV2ClientConnection
  split <;> exact ⟨rfl, rfl⟩

theorem drainRoomWrites
    (collider : Collider)
    (order : V1.VisitOrder) :
    collider.Mute (collider.drainRoomWrites order) := by
  unfold Collider.drainRoomWrites
  generalize collider.rooms.writeCount = fuel
  induction fuel generalizing collider with
  | zero => exact refl collider
  | succ fuel inductionHypothesis =>
      rw [drainWrites_succ]
      split
      · exact refl collider
      · next message rooms _ =>
          have written : collider.Mute (collider.writeOut rooms message) := by
            unfold writeOut
            split <;> exact ⟨rfl, rfl⟩
          exact written.trans (inductionHypothesis _)

theorem registerV1
    (collider : Collider)
    (order : VisitOrder)
    (connectionId : ConnectionId)
    (msg : WsClientMsg)
    (now : Instant) :
    collider.Mute (collider.registerV1 order connectionId msg now) := by
  unfold Collider.registerV1
  split
  · exact failConnection ..
  split
  · exact failConnection ..
  rcases collider.rooms.register order.v1 now msg.roomid msg.clientid with
    ⟨error | done, rooms⟩
  · exact ⟨rfl, rfl⟩
  · refine Mute.trans ?_ (drainRoomWrites _ order.v1)
    exact ⟨rfl, rfl⟩

theorem sendV1
    (collider : Collider)
    (order : VisitOrder)
    (roomid : V1.RoomId)
    (clientid : V1.ClientId)
    (msg : String)
    (now : Instant) :
    collider.Mute (collider.sendV1 order roomid clientid msg now).2 := by
  unfold Collider.sendV1
  simp only
  split
  · exact ⟨rfl, rfl⟩
  · refine Mute.trans ?_ (drainRoomWrites _ order.v1)
    exact ⟨rfl, rfl⟩

end Mute

end Mute

section Draining

/-- An action that is carried out becomes its response, if it has one. -/
theorem performAction_responses
    (collider : Collider)
    (action : V2.Action) :
    (collider.performAction action).authorityResponses =
      collider.authorityResponses ++ action.response?.toList := by
  cases action with
  | sfu output => simp [performAction, V2.Action.response?]
  | admissionCompleted authorityRequestId result =>
      cases result <;> rfl
  | removalCompleted authorityRequestId roomId clientId result =>
      cases result with
      | ok =>
          have closed := Mute.closeV2ClientConnection collider roomId clientId
          simp [performAction, V2.Action.response?, closed.responses]
      | error => rfl
  | deliver delivery =>
      have told := Mute.notifyMember collider delivery.roomId
        delivery.clientId (serverMsg delivery.message)
      simp [performAction, V2.Action.response?, told.responses]
  | upgraded | downgraded | roomFailed =>
      refine Eq.trans (Mute.foldl (fun collider clientId => ?_) _
        collider).responses (List.append_nil _).symm
      exact Mute.notifyMember collider ..

/-- Carrying every action out hands their responses over in order. -/
theorem drainV2Actions_responses (collider : Collider) :
    collider.drainV2Actions.authorityResponses =
      collider.authorityResponses ++
        collider.v2Rooms.actions.filterMap (·.response?) := by
  unfold drainV2Actions
  generalize left : collider.v2Rooms.actions.length = fuel
  induction fuel generalizing collider with
  | zero =>
      have done : collider.v2Rooms.actions = [] := by simpa using left
      simp [drainActions, done]
  | succ fuel inductionHypothesis =>
      obtain ⟨action, rest, queued⟩ := List.exists_cons_of_length_eq_add_one left
      have polled : collider.v2Rooms.pollAction =
          (some action, { collider.v2Rooms with actions := rest }) := by
        simp [V2.RoomTable.pollAction, queued]
      rw [drainActions, polled]
      dsimp only
      rw [inductionHypothesis _ (by
        rw [performAction_v2Rooms]
        simpa [queued] using left), performAction_v2Rooms,
        performAction_responses, queued]
      cases answered : action.response? <;> simp [answered]

end Draining

/-- No action has to be carried out after the input of the V2 table, or the
input fails. -/
def Stays
    (collider : Collider)
    (call : Call)
    (table : V2.RoomTable) : Prop :=
  table.actions = collider.v2Rooms.actions ∨
    ∃ input, call.operation = .handleSfuInput input ∧
      (collider.v2Rooms.handleSfuInput call.order.v2 input).1 ≠ .ok () ∧
      table = collider.v2Rooms.step ⟨.handleSfuInput input, call.order.v2⟩

/-- The collider has put its input to the V2 table, which became `table`, has
given the answers, and has carried all actions out or none. -/
structure Turned
    (collider : Collider)
    (call : Call)
    (table : V2.RoomTable)
    (answers : List AuthorityResponse)
    (after : Collider) : Prop where
  carried : ∃ done left,
    table.actions = done ++ left ∧
    (left = [] ∨ done = [] ∧ collider.Stays call table) ∧
    after.v2Rooms = { table with actions := left } ∧
    after.authorityResponses = collider.authorityResponses ++ answers ++
      done.filterMap (·.response?)

namespace Turned

variable
  {collider middle : Collider}
  {call : Call}
  {table : V2.RoomTable}
  {answers : List AuthorityResponse}

/-- The actions stay where they are. -/
theorem of_left
    (stays : collider.Stays call table)
    (v2Rooms : middle.v2Rooms = table)
    (responses : middle.authorityResponses =
      collider.authorityResponses ++ answers) :
    collider.Turned call table answers middle :=
  ⟨[], table.actions, rfl, .inr ⟨rfl, stays⟩, v2Rooms, by simpa using responses⟩

theorem of_mute (mute : collider.Mute middle) :
    collider.Turned call collider.v2Rooms [] middle :=
  of_left (.inl rfl) mute.v2Rooms (by simpa using mute.responses)

/-- All actions are carried out. -/
theorem drained
    (v2Rooms : middle.v2Rooms = table)
    (responses : middle.authorityResponses =
      collider.authorityResponses ++ answers) :
    collider.Turned call table answers middle.drainV2Actions := by
  refine ⟨table.actions, [], by simp, .inl rfl, ?_, ?_⟩
  · rw [drainV2Actions_v2Rooms, v2Rooms]
  · rw [drainV2Actions_responses, v2Rooms, responses]

end Turned

/-- What a call puts to the V2 table, with the table after it, and what it
answers at once. -/
inductive Turn
    (collider : Collider)
    (call : Call) : V2.RoomTable -> List AuthorityResponse -> Prop
  | rest : Turn collider call collider.v2Rooms []
  | input
      (input : V2.Call)
      (unasked : input.operation.Unasked)
      (told : ∀ heard, input.operation = .handleSfuInput heard ->
        call.operation = .handleSfuInput heard ∧ input.order = call.order.v2) :
      Turn collider call (collider.v2Rooms.step input) []
  | answer
      {command : AuthorityCommand} {result : AuthorityResult}
      (asked : call.operation = .handleWrite command)
      (yields : command.operation.Yields result)
      (elsewhere : ∀ roomId clientId token now,
        command.operation ≠ .admitV2 roomId clientId token now) :
      Turn collider call collider.v2Rooms [⟨command.requestId, result⟩]
  | settle
      {command : AuthorityCommand} {result : AuthorityResult}
      {input : V2.Call}
      (asked : call.operation = .handleWrite command)
      (requests : input.Requests command)
      (settled : ¬input.Waits collider.v2Rooms)
      (yields : command.operation.Yields result)
      (completes : command.operation.Completes collider.v2Rooms
        command.requestId result) :
      Turn collider call (collider.v2Rooms.step input)
        [⟨command.requestId, result⟩]
  | wait
      {command : AuthorityCommand} {input : V2.Call}
      (asked : call.operation = .handleWrite command)
      (requests : input.Requests command)
      (waits : input.Waits collider.v2Rooms) :
      Turn collider call (collider.v2Rooms.step input) []

/-- What a call puts and answers, and the collider after it. -/
def Turns (collider : Collider) (call : Call) (after : Collider) : Prop :=
  ∃ table answers, collider.Turn call table answers ∧
    collider.Turned call table answers after

namespace Turns

variable {collider after : Collider} {call : Call}

theorem of_mute (mute : collider.Mute after) : collider.Turns call after :=
  ⟨_, _, .rest, .of_mute mute⟩

theorem registerV2
    (order : VisitOrder)
    (connectionId : ConnectionId)
    (msg : WsClientMsg) :
    collider.Turns call (collider.registerV2 order connectionId msg) := by
  unfold Collider.registerV2
  split
  · exact of_mute (.failConnection ..)
  split
  · exact of_mute (.failConnection ..)
  next roomId _ =>
  split
  · exact of_mute (.failConnection ..)
  next clientId _ =>
  split
  · exact of_mute (.failConnection ..)
  refine ⟨_, _, .input ⟨.register roomId clientId msg.token, order.v2⟩ trivial
    (by simp), ?_⟩
  simp only [V2.RoomTable.step]
  have quiet := V2.RoomTable.register_quiet collider.v2Rooms order.v2 roomId
    clientId msg.token
  rcases outcome : collider.v2Rooms.register order.v2 roomId clientId
    msg.token with ⟨error | registration, v2Rooms⟩
  · rw [outcome] at quiet
    exact .of_left (.inl quiet) rfl (List.append_nil _).symm
  · rw [outcome] at quiet
    dsimp only
    rw [Bound.pushTexts_eq]
    exact .of_left (.inl quiet) rfl (List.append_nil _).symm

theorem sendV2
    (order : VisitOrder)
    (roomId : V2.RoomId)
    (clientId : V2.ClientId)
    (msg : WsClientMsg) :
    collider.Turns call (collider.sendV2 order roomId clientId msg).2 := by
  unfold Collider.sendV2
  split
  · exact of_mute (.refl collider)
  next signalEpoch _ =>
  refine ⟨_, _, .input ⟨.send roomId clientId signalEpoch msg.msg, order.v2⟩
    trivial (by simp), ?_⟩
  simp only [V2.RoomTable.step]
  rcases outcome : collider.v2Rooms.send order.v2 roomId clientId signalEpoch
    msg.msg with ⟨error | result, v2Rooms⟩
  · have same := V2.RoomTable.send_error (congrArg Prod.fst outcome)
    rw [outcome] at same
    exact .of_left (.inl (congrArg (·.actions) same)) rfl
      (List.append_nil _).symm
  · dsimp only
    split
    · next delivery =>
        have told := Mute.notifyMember { collider with v2Rooms := v2Rooms }
          delivery.roomId delivery.clientId (serverMsg delivery.message)
        exact .drained told.v2Rooms
          (told.responses.trans (List.append_nil _).symm)
    · exact .drained rfl (List.append_nil _).symm

theorem disconnect
    (connectionId : ConnectionId)
    (now : Instant) :
    collider.Turns call (collider.disconnect connectionId now) := by
  unfold Collider.disconnect
  split
  · exact of_mute (.refl collider)
  next session _ =>
  cases session with
  | connected => exact of_mute ⟨rfl, rfl⟩
  | registeredV1 roomid clientid =>
      dsimp only
      split <;> exact of_mute ⟨rfl, rfl⟩
  | registeredV2 roomId clientId =>
      dsimp only
      split
      · exact ⟨_, _, .input ⟨.deregister now roomId clientId, .sorted⟩ trivial
          (by simp), .drained rfl (List.append_nil _).symm⟩
      · exact of_mute ⟨rfl, rfl⟩

theorem handleBrowserText
    (decode : String -> Except String WsClientMsg)
    (order : VisitOrder)
    (connectionId : ConnectionId)
    (text : String)
    (now : Instant) :
    collider.Turns call
      (collider.handleBrowserText decode order connectionId text now).2 := by
  unfold Collider.handleBrowserText
  split
  · exact of_mute (.failConnection ..)
  split
  · split
    · exact registerV2 ..
    · split
      · exact of_mute (.registerV1 ..)
      · exact of_mute (.failConnection ..)
  · split
    · unfold Collider.send
      split
      · exact of_mute (.failConnection ..)
      · split
        · exact of_mute (.failConnection ..)
        · split
          · exact of_mute (.sendV1 ..)
          · exact sendV2 ..
          · exact of_mute (.failConnection ..)
    · exact of_mute (.failConnection ..)

theorem handleSfuInput
    {input : Sfu.Input}
    (asked : call.operation = .handleSfuInput input) :
    collider.Turns call (collider.handleSfuInput call.order input).2 := by
  refine ⟨_, _, .input ⟨.handleSfuInput input, call.order.v2⟩ trivial
    (by simp [asked]), ?_⟩
  have taken : collider.v2Rooms.step ⟨.handleSfuInput input,
      call.order.v2⟩ = (collider.v2Rooms.handleSfuInput call.order.v2
        input).2 := rfl
  unfold Collider.handleSfuInput
  rcases outcome : collider.v2Rooms.handleSfuInput call.order.v2 input with
    ⟨error | done, v2Rooms⟩
  · rw [outcome] at taken
    refine .of_left (.inr ⟨input, asked, by simp [outcome], rfl⟩) taken.symm
      (List.append_nil _).symm
  · rw [outcome] at taken
    exact .drained taken.symm (List.append_nil _).symm

theorem handleTimeout
    (order : VisitOrder)
    (now : Instant) :
    collider.Turns call (collider.handleTimeout order now) := by
  refine ⟨_, _, .input ⟨.handleTimeout now, order.v2⟩ trivial (by simp), ?_⟩
  unfold Collider.handleTimeout
  simp only [V2.RoomTable.step]
  rcases collider.v2Rooms.handleTimeout order.v2 now with
    ⟨promotions, v2Rooms⟩
  have told := Mute.pushPromotions promotions { collider with
    rooms := collider.rooms.handleTimeout order.v1 now
    v2Rooms := v2Rooms }
  exact .drained told.v2Rooms (told.responses.trans (List.append_nil _).symm)

/-- A command that is carried out puts its request to the V2 table when it is
about V2, and has a result of its kind unless a worker must answer first. -/
theorem perform
    {command : AuthorityCommand}
    (order : VisitOrder)
    (asked : call.operation = .handleWrite command) :
    collider.Turn call (collider.perform order command).2.v2Rooms
        ((collider.perform order command).1.toList.map
          (⟨command.requestId, ·⟩)) ∧
      (collider.perform order command).2.authorityResponses =
        collider.authorityResponses := by
  obtain ⟨requestId, operation⟩ := command
  cases operation with
  | admitClient roomid clientid isLoopback now =>
      refine ⟨.answer asked ?_ (by simp), rfl⟩
      split <;> trivial
  | remove roomid clientid =>
      have closed := Mute.closeClientConnection collider roomid clientid
      refine ⟨?_, closed.responses⟩
      have answered : collider.Turn call collider.v2Rooms
          [⟨requestId, .removed⟩] := .answer asked trivial (by simp)
      exact closed.v2Rooms.symm ▸ answered
  | occupancy | occupancyV2 | status =>
      exact ⟨.answer asked trivial (by simp), rfl⟩
  | inject roomid clientid msg now =>
      unfold Collider.perform
      simp only
      rcases collider.rooms.saveOrSend order.v1 now roomid clientid msg with
        ⟨error | done, rooms⟩
      · exact ⟨.answer asked trivial (by simp), rfl⟩
      · have written := Mute.drainRoomWrites
          { collider with rooms := rooms } order.v1
        refine ⟨?_, written.responses⟩
        have answered : collider.Turn call collider.v2Rooms
            [⟨requestId, .injected⟩] := .answer asked trivial (by simp)
        exact written.v2Rooms.symm ▸ answered
  | admitV2 roomId clientId admissionToken now =>
      have requests : V2.Call.Requests ⟨.admitClient requestId now roomId
          clientId admissionToken, order.v2⟩ ⟨requestId, .admitV2 roomId
            clientId admissionToken now⟩ := rfl
      have settle := fun result => @Turn.settle collider call _ result _ asked
        requests
      have wait := @Turn.wait collider call _ _ asked requests
      simp only [V2.RoomTable.step, V2.Call.Waits] at settle wait
      unfold Collider.perform
      simp only
      rcases outcome : collider.v2Rooms.admitClient requestId now roomId
        clientId admissionToken with ⟨error | ⟨admission | _⟩, v2Rooms⟩
      · rw [outcome] at settle
        exact ⟨settle _ (by simp) trivial trivial, trivial⟩
      · rw [outcome] at settle
        exact ⟨settle _ (by simp) trivial (congrArg Prod.fst outcome), trivial⟩
      · rw [outcome] at wait
        exact ⟨wait rfl, trivial⟩
  | removeV2 roomId clientId admissionToken =>
      have requests : V2.Call.Requests ⟨.remove requestId roomId clientId
          admissionToken, order.v2⟩ ⟨requestId, .removeV2 roomId clientId
            admissionToken⟩ := rfl
      have settle := fun result => @Turn.settle collider call _ result _ asked
        requests
      have wait := @Turn.wait collider call _ _ asked requests
      simp only [V2.RoomTable.step, V2.Call.Waits] at settle wait
      unfold Collider.perform
      simp only
      rcases outcome : collider.v2Rooms.remove requestId roomId clientId
        admissionToken with ⟨error | ⟨promotion | _⟩, v2Rooms⟩
      · rw [outcome] at settle
        exact ⟨settle _ (by simp) trivial trivial, rfl⟩
      · rw [outcome] at settle
        have told := (Mute.closeV2ClientConnection { collider with
          v2Rooms := v2Rooms } roomId clientId).trans
            (.pushPromotions promotion.toList _)
        refine ⟨?_, told.responses⟩
        exact told.v2Rooms.symm ▸ settle .removedV2 (by simp) trivial trivial
      · rw [outcome] at wait
        exact ⟨wait rfl, rfl⟩

theorem handleAuthority
    {command : AuthorityCommand}
    (order : VisitOrder)
    (asked : call.operation = .handleWrite command) :
    collider.Turns call (collider.handleAuthority order command) := by
  obtain ⟨turn, responses⟩ := @perform collider call command order asked
  unfold Collider.handleAuthority
  rcases outcome : collider.perform order command with ⟨result, performed⟩
  rw [outcome] at turn responses
  refine ⟨_, _, turn, ?_⟩
  cases result with
  | none => exact .drained rfl (responses.trans (List.append_nil _).symm)
  | some result =>
      refine .drained rfl ?_
      simp only at responses
      simp [responses]

end Turns

/-- Every call but the end and the polling of responses. -/
theorem step_turns
    (decode : String -> Except String WsClientMsg)
    (collider : Collider)
    (call : Call)
    (unpolled : call.operation ≠ .pollEvent)
    (unended : call.operation ≠ .close) :
    collider.Turns call (collider.step decode call) := by
  unfold Collider.step
  cases asked : call.operation with
  | handleRead input =>
      cases input with
      | connected connectionId => exact .of_mute ⟨rfl, rfl⟩
      | text connectionId text now => exact .handleBrowserText ..
      | disconnected connectionId now => exact .disconnect ..
  | handleWrite command => exact .handleAuthority call.order asked
  | handleSfuInput input => exact .handleSfuInput asked
  | handleTimeout now => exact .handleTimeout ..
  | setDowngradeDwell dwell =>
      exact ⟨_, _, .input ⟨.setDowngradeDwell dwell, call.order.v2⟩ trivial
        (by simp), .of_left (.inl rfl) rfl (List.append_nil _).symm⟩
  | pollWrite => exact .of_mute ⟨rfl, rfl⟩
  | pollEvent => exact absurd asked unpolled
  | close => exact absurd asked unended

end Collider
end Signaling
