import Signaling.Collider.Handover
import Signaling.Collider.Numerals
import Signaling.Collider.Registrations
import Signaling.V2.Spelling

/-!
# The wire format

The fields of the frames that browsers receive. Frames with the same fields are
the same frame, the room token and the epoch of a frame have one reading, and no
message that a browser relays can be taken for a control frame.
-/

namespace Signaling

/-! ## Fields -/

/-- The value of a field. -/
inductive Scalar
  | text (value : String)
  | flag (value : Bool)
  deriving DecidableEq

/-- The fields of a serialized struct, in the order of its declaration. -/
abbrev Object := List (String × Scalar)

def V2Registered.fields (frame : V2Registered) : Object :=
  [("control", .text frame.control), ("roomid", .text frame.roomid),
    ("epoch", .text frame.epoch), ("mode", .text frame.mode)] ++
    -- An absent role is skipped.
    match frame.isInitiator with
    | none => []
    | some isInitiator => [("is_initiator", .flag isInitiator)]

def V2Promoted.fields (frame : V2Promoted) : Object :=
  [("control", .text frame.control), ("roomid", .text frame.roomid),
    ("epoch", .text frame.epoch), ("is_initiator", .flag frame.isInitiator)]

def V2Upgrade.fields (frame : V2Upgrade) : Object :=
  [("control", .text frame.control), ("roomid", .text frame.roomid),
    ("epoch", .text frame.epoch)]

def V2Downgrade.fields (frame : V2Downgrade) : Object :=
  [("control", .text frame.control), ("roomid", .text frame.roomid),
    ("epoch", .text frame.epoch), ("is_initiator", .flag frame.isInitiator)]

def V2RoomFailed.fields (frame : V2RoomFailed) : Object :=
  [("control", .text frame.control), ("roomid", .text frame.roomid),
    ("reason", .text frame.reason)]

def WsServerMsg.fields (frame : WsServerMsg) : Object :=
  [("msg", .text frame.msg), ("error", .text frame.error)]

namespace Frame

/-- The fields of a frame: those of the struct in it. -/
def fields : Frame -> Object
  | .registered frame => frame.fields
  | .promoted frame => frame.fields
  | .upgrade frame => frame.fields
  | .downgrade frame => frame.fields
  | .roomFailed frame => frame.fields
  | .server frame => frame.fields

/-- The token of the room that a control frame names. -/
def roomid? : Frame -> Option String
  | .registered frame => some frame.roomid
  | .promoted frame => some frame.roomid
  | .upgrade frame => some frame.roomid
  | .downgrade frame => some frame.roomid
  | .roomFailed frame => some frame.roomid
  | .server _ => none

/-- The epoch that a control frame names. -/
def epoch? : Frame -> Option String
  | .registered frame => some frame.epoch
  | .promoted frame => some frame.epoch
  | .upgrade frame => some frame.epoch
  | .downgrade frame => some frame.epoch
  | .roomFailed _ | .server _ => none

/-- What the collider writes to browsers. -/
inductive Genuine : Frame -> Prop
  | registered
      {roomId : V2.RoomId} {epoch : Nat}
      (mode : V2.RoomMode) (isInitiator : Option Bool)
      (named : V2.isRoomUuid roomId = true) (fits : epoch ≤ u64Max)
      (settled : mode ≠ .upgrading)
      (direct : isInitiator.isSome ↔ mode = .p2p) :
      Genuine (.registered ⟨"registered", V2.formatRoomToken roomId,
        toString epoch, roomModeName mode, isInitiator⟩)
  | promoted
      {roomId : V2.RoomId} {epoch : Nat}
      (named : V2.isRoomUuid roomId = true) (fits : epoch ≤ u64Max) :
      Genuine (.promoted ⟨"p2p-promote", V2.formatRoomToken roomId,
        toString epoch, true⟩)
  | upgrade
      {roomId : V2.RoomId} {epoch : Nat}
      (named : V2.isRoomUuid roomId = true) (fits : epoch ≤ u64Max) :
      Genuine (.upgrade ⟨"sfu-upgrade", V2.formatRoomToken roomId,
        toString epoch⟩)
  | downgrade
      {roomId : V2.RoomId} {epoch : Nat}
      (isInitiator : Bool)
      (named : V2.isRoomUuid roomId = true) (fits : epoch ≤ u64Max) :
      Genuine (.downgrade ⟨"sfu-downgrade", V2.formatRoomToken roomId,
        toString epoch, isInitiator⟩)
  | roomFailed
      {roomId : V2.RoomId}
      (reason : String)
      (named : V2.isRoomUuid roomId = true) :
      Genuine (.roomFailed ⟨"room-failed", V2.formatRoomToken roomId, reason⟩)
  | relayed (msg : String) : Genuine (serverMsg msg)
  | refused (error : String) : Genuine (serverErr error)

namespace Genuine

variable {frame : Frame}

/-- Frames with the same fields are the same frame: control frames are told apart
by their fields or, where those have the same names, by their control word. -/
theorem eq_of_fields
    {other : Frame}
    (genuine : frame.Genuine)
    (others : other.Genuine)
    (same : frame.fields = other.fields) :
    frame = other := by
  cases genuine with
  | registered mode isInitiator =>
      cases isInitiator <;> cases others with
      | registered _ role => cases role <;> simp_all [fields, V2Registered.fields]
      | _ => simp [fields, V2Registered.fields, V2Promoted.fields,
          V2Upgrade.fields, V2Downgrade.fields, V2RoomFailed.fields,
          WsServerMsg.fields, serverMsg, serverErr] at same
  | _ =>
      cases others with
      | registered _ role =>
          cases role <;> simp [fields, V2Registered.fields, V2Promoted.fields,
            V2Upgrade.fields, V2Downgrade.fields, V2RoomFailed.fields,
            WsServerMsg.fields, serverMsg, serverErr] at same
      | _ => simp_all [fields, V2Promoted.fields, V2Upgrade.fields,
          V2Downgrade.fields, V2RoomFailed.fields, WsServerMsg.fields,
          serverMsg, serverErr]

theorem roomid_parses
    {roomid : String}
    (genuine : frame.Genuine)
    (names : frame.roomid? = some roomid) :
    ∃ roomId, V2.parseRoomToken roomid = some roomId := by
  cases genuine with
  | registered _ _ named | promoted named | upgrade named
  | downgrade _ named | roomFailed _ named =>
      cases names
      exact ⟨_, V2.parseRoomToken_formatRoomToken named⟩
  | relayed | refused => cases names

theorem epoch_parses
    {epoch : String}
    (genuine : frame.Genuine)
    (names : frame.epoch? = some epoch) :
    ∃ number, canonicalU64 epoch = some number := by
  have written {number : Nat} (fits : number ≤ u64Max) :
      canonicalU64 (toString number) = some number := by
    refine (canonicalU64_eq_some_iff _ _).2 ⟨?_, isDecimal_toString number⟩
    simp only [u64Max] at fits
    omega
  cases genuine with
  | registered _ _ _ fits | promoted _ fits | upgrade _ fits
  | downgrade _ _ fits =>
      cases names
      exact ⟨_, written fits⟩
  | roomFailed | relayed | refused => cases names

/-- A frame that names no room has a message or an error, and nothing else. -/
theorem plain
    (genuine : frame.Genuine)
    (unnamed : frame.roomid? = none) :
    ∃ msg error, (msg = "" ∨ error = "") ∧
      frame.fields = [("msg", .text msg), ("error", .text error)] := by
  cases genuine with
  | relayed msg => exact ⟨msg, "", .inr rfl, rfl⟩
  | refused error => exact ⟨"", error, .inl rfl, rfl⟩
  | registered | promoted | upgrade | downgrade | roomFailed => cases unnamed

end Genuine

end Frame

/-! ## Epochs fit -/

namespace V2

open Std (ExtTreeMap)

/-- The epochs of all rooms fit 64 bits. -/
def RoomTable.EpochsFit (table : RoomTable) : Prop :=
  ∀ (roomId : RoomId) (room : Room),
    table.rooms[roomId]? = some room -> room.signalEpoch ≤ u64Max

theorem RoomTable.EpochsFit.step
    {table : RoomTable}
    (fit : table.EpochsFit)
    (consistent : table.Consistent)
    (call : Call) :
    (table.step call).EpochsFit := by
  intro roomId room stored
  cases was : table.rooms[roomId]? with
  | none =>
      rw [consistent.epoch_of_created was stored]
      exact Nat.zero_le _
  | some former =>
      rcases consistent.steps was stored with ⟨-, epoch⟩ | ⟨-, epoch⟩
      · rw [epoch]
        exact saturatingAdd_le _ _
      · rw [epoch]
        exact fit roomId former was

/-- The epoch that the action announces fits 64 bits. -/
def Action.Fits : Action -> Prop
  | .upgraded _ signalEpoch _ => signalEpoch ≤ u64Max
  | .downgraded _ signalEpoch _ _ => signalEpoch ≤ u64Max
  | _ => True

theorem Emission.fits
    {table : RoomTable}
    {move : Move}
    {action : Action}
    (emission : Emission table move action) :
    action.Fits := by
  cases emission with
  | plain plain =>
      cases action with
      | upgraded | downgraded => exact plain.elim
      | _ => trivial
  | upgraded | downgraded => exact saturatingAdd_le _ _
  | _ => trivial

theorem RoomTable.Consistent.emitted_fits
    {table : RoomTable}
    {call : Call}
    (consistent : table.Consistent)
    (appends : call.operation ≠ .pollAction) :
    ∀ action ∈ table.emitted call, action.Fits :=
  consistent.emitted_invariant
    (fun _ _ actions => ∀ action ∈ actions, action.Fits) appends
    (fun _ _ earlier _ _ _ actions _ _ _ emits fits action listed => by
      rcases List.mem_append.1 listed with old | new
      · exact fits action old
      · exact (emits.emission new).fits)
    (by simp)

theorem register_fits
    {table after : RoomTable}
    {order : VisitOrder}
    {roomId : RoomId}
    {clientId : ClientId}
    {token : String}
    {registration : Registration}
    (fit : table.EpochsFit)
    (registered : table.register order roomId clientId token =
      (.ok registration, after)) :
    registration.signalEpoch ≤ u64Max ∧ registration.mode ≠ .upgrading ∧
      (registration.isInitiator.isSome ↔ registration.mode = .p2p) := by
  unfold RoomTable.register at registered
  split at registered
  · cases registered
  next room found =>
  split at registered
  · cases registered
  next settled =>
  split at registered
  · cases registered
  split at registered
  · cases registered
  split at registered
  · cases registered
  · cases registered
    refine ⟨fit roomId room found, settled, ?_⟩
    dsimp only
    split <;> simp_all

end V2

/-! ## Outputs -/

namespace Collider

/-- Whatever waits to be written, or will be, is genuine: the connections of V2
members are those of rooms with a token, and all epochs fit. -/
structure Speaks (collider : Collider) : Prop where
  consistent : collider.v2Rooms.Consistent
  epochs : collider.v2Rooms.EpochsFit
  named : ∀ (key : V2.MemberKey) (connectionId : ConnectionId),
    collider.v2Connections[key]? = some connectionId ->
    V2.isRoomUuid key.1 = true
  queued : ∀ action ∈ collider.v2Rooms.actions, action.Fits
  written : ∀ (connectionId : ConnectionId) (frame : Frame),
    .text connectionId frame ∈ collider.browserOutputs -> frame.Genuine

namespace Speaks

variable {collider after : Collider}

/-- Only the outputs grow, by genuine ones. -/
theorem of_outputs
    (speaks : collider.Speaks)
    (more : List BrowserOutput)
    (v2Rooms : after.v2Rooms = collider.v2Rooms)
    (v2Connections : ∀ (key : V2.MemberKey) (connectionId : ConnectionId),
      after.v2Connections[key]? = some connectionId ->
      collider.v2Connections[key]? = some connectionId)
    (outputs : after.browserOutputs = collider.browserOutputs ++ more)
    (genuine : ∀ (connectionId : ConnectionId) (frame : Frame),
      .text connectionId frame ∈ more -> frame.Genuine) :
    after.Speaks where
  consistent := v2Rooms ▸ speaks.consistent
  epochs := v2Rooms ▸ speaks.epochs
  named key connectionId held := speaks.named key _ (v2Connections key _ held)
  queued := v2Rooms ▸ speaks.queued
  written := by
    intro connectionId frame listed
    rw [outputs] at listed
    rcases List.mem_append.1 listed with old | new
    · exact speaks.written connectionId frame old
    · exact genuine connectionId frame new

/-- A member of a room with a token is sent a genuine frame. -/
theorem notifyMember
    (speaks : collider.Speaks)
    (roomId : V2.RoomId)
    (clientId : V2.ClientId)
    {frame : Frame}
    (genuine : V2.isRoomUuid roomId = true -> frame.Genuine) :
    (collider.notifyMember roomId clientId frame).Speaks := by
  unfold Collider.notifyMember
  split
  · exact speaks
  · next connectionId held =>
      refine speaks.of_outputs [.text connectionId frame] rfl
        (fun _ _ same => same) rfl ?_
      intro other shown listed
      cases List.mem_singleton.1 listed
      exact genuine (speaks.named _ connectionId held)

theorem notifyMembers
    (roomId : V2.RoomId)
    {frame : V2.ClientId -> Frame}
    (clients : List V2.ClientId)
    (genuine : V2.isRoomUuid roomId = true -> ∀ clientId,
      (frame clientId).Genuine)
    (speaks : collider.Speaks) :
    (clients.foldl (fun collider clientId =>
      collider.notifyMember roomId clientId (frame clientId))
      collider).Speaks := by
  induction clients generalizing collider with
  | nil => exact speaks
  | cons clientId clients inductionHypothesis =>
      exact inductionHypothesis (speaks.notifyMember roomId clientId
        fun named => genuine named clientId)

/-- An input of the V2 table queues announcements of epochs that fit. -/
theorem stepped
    (speaks : collider.Speaks)
    (call : V2.Call)
    (appends : call.operation ≠ .pollAction) :
    Speaks { collider with v2Rooms := collider.v2Rooms.step call } where
  consistent := speaks.consistent.step call
  epochs := speaks.epochs.step speaks.consistent call
  named := speaks.named
  queued := by
    intro action listed
    rw [speaks.consistent.appended appends] at listed
    rcases List.mem_append.1 listed with old | new
    · exact speaks.queued action old
    · exact speaks.consistent.emitted_fits appends action new
  written := speaks.written

theorem closeV2ClientConnection
    (speaks : collider.Speaks)
    (roomId : V2.RoomId)
    (clientId : V2.ClientId) :
    (collider.closeV2ClientConnection roomId clientId).Speaks := by
  have kept := closeV2ClientConnection_v2Connections collider roomId clientId
  refine speaks.of_outputs
    (collider.v2Connections[(roomId, clientId)]?.toList.map .close)
    (closeV2ClientConnection_v2Rooms ..) ?_ ?_ (by simp)
  · intro key connectionId held
    rw [kept] at held
    split at held
    · cases held
    · exact held
  · unfold Collider.closeV2ClientConnection
    cases collider.v2Connections[(roomId, clientId)]? <;> simp

/-- Whatever an action has the collider write is genuine. -/
theorem performAction
    (speaks : collider.Speaks)
    {action : V2.Action}
    (fits : action.Fits) :
    (collider.performAction action).Speaks := by
  cases action with
  | sfu output =>
      exact speaks.of_outputs [.sfu output] rfl
        (fun _ _ same => same) rfl (by simp)
  | admissionCompleted =>
      exact speaks.of_outputs [] rfl (fun _ _ same => same)
        (by simp [Collider.performAction, pushResponse]) (by simp)
  | removalCompleted authorityRequestId roomId clientId result =>
      cases result with
      | ok =>
          exact (speaks.closeV2ClientConnection roomId clientId).of_outputs
            [] rfl (fun _ _ same => same)
            (by simp [Collider.performAction, pushResponse]) (by simp)
      | error =>
          exact speaks.of_outputs [] rfl (fun _ _ same => same)
            (by simp [Collider.performAction, pushResponse]) (by simp)
  | deliver delivery =>
      exact speaks.notifyMember _ _ fun _ => .relayed _
  | upgraded roomId signalEpoch clients =>
      exact notifyMembers roomId clients
        (fun named _ => .upgrade named fits) speaks
  | downgraded roomId signalEpoch initiatorClientId clients =>
      exact notifyMembers roomId clients
        (fun named _ => .downgrade _ named fits) speaks
  | roomFailed roomId clients reason =>
      exact notifyMembers roomId clients
        (fun named _ => .roomFailed _ named) speaks

/-- Every act of a call has genuine frames written only. -/
theorem acted
    {decode : String -> Except String WsClientMsg}
    {call : Call}
    {start : Collider}
    {act : Act}
    (speaks : collider.Speaks)
    (begun : start.Speaks)
    (taken : Acted collider act after)
    (free : act.From decode call start collider) :
    after.Speaks := by
  cases taken with
  | connect | roomsV1 | bindV1 | forget | respond | pollEvent =>
      exact speaks.of_outputs [] rfl (fun _ _ same => same)
        (by simp [pushResponse, pollEvent]) (by simp)
  | fail connectionId error =>
      exact speaks.of_outputs
        [.text connectionId (serverErr error), .close connectionId]
        rfl (fun _ _ same => same) (by simp [failConnection])
        (by
          intro other frame listed
          simp only [List.mem_cons, BrowserOutput.text.injEq, reduceCtorEq,
            List.not_mem_nil, or_false] at listed
          rw [listed.2]
          exact .refused error)
  | writeV1 message bound =>
      rename_i connectionId _
      refine speaks.of_outputs
        [.text connectionId (serverMsg message)] rfl
        (fun _ _ same => same) rfl ?_
      intro other frame listed
      cases List.mem_singleton.1 listed
      exact .relayed message
  | closeV1 roomid clientid =>
      unfold closeClientConnection
      split
      · exact speaks
      · next connectionId _ =>
          exact speaks.of_outputs [.close connectionId] rfl
            (fun _ _ same => same) rfl (by simp)
  | registerV2 order unbound registered =>
      rename_i connectionId roomId clientId token registration v2Rooms
      obtain ⟨rfl, text, now, msg, -, -, -, -, parsed, -⟩ := free
      have named := (V2.of_parseRoomToken parsed).2
      obtain ⟨fits, settled, direct⟩ := V2.register_fits speaks.epochs registered
      have stepped := speaks.stepped ⟨.register roomId clientId token, order⟩
        (by simp)
      simp only [V2.RoomTable.step, registered] at stepped
      exact {
        consistent := stepped.consistent
        epochs := stepped.epochs
        named := by
          intro key other held
          simp only [welcome, connection_insert] at held
          split at held
          · next same => exact same ▸ named
          · exact speaks.named key other held
        queued := stepped.queued
        written := by
          intro other frame listed
          simp only [welcome, List.mem_append, List.mem_cons, List.mem_map,
            BrowserOutput.text.injEq] at listed
          rcases listed with old | ⟨-, rfl⟩ | ⟨message, -, -, rfl⟩
          · exact speaks.written other frame old
          · exact .registered registration.mode registration.isInitiator named
              fits settled direct
          · exact .relayed message }
  | sendV2 order session sent =>
      rename_i connectionId roomId clientId signalEpoch message result v2Rooms
      have stepped := speaks.stepped ⟨.send roomId clientId signalEpoch message,
        order⟩ (by simp)
      simp only [V2.RoomTable.step, sent] at stepped
      unfold relay
      split
      · exact stepped.notifyMember _ _ fun _ => .relayed _
      · exact stepped
  | dropV2 now session bound =>
      rename_i connectionId roomId clientId
      have stepped := speaks.stepped ⟨.deregister now roomId clientId, .sorted⟩
        (by simp)
      refine stepped.of_outputs [] rfl ?_ (by simp) (by simp)
      intro key other held
      simp only [connection_erase] at held
      split at held
      · cases held
      · exact held
  | removeV2 removed =>
      rename_i requestId roomId clientId token promotion v2Rooms
      have stepped := speaks.stepped ⟨.remove requestId roomId clientId token,
        .sorted⟩ (by simp)
      simp only [V2.RoomTable.step, removed] at stepped
      exact stepped.closeV2ClientConnection roomId clientId
  | tableV2 input quiet =>
      refine speaks.stepped input ?_
      intro polls
      simp only [Quiet, polls] at quiet
  | promote promotion =>
      obtain ⟨input, -, promoted, same⟩ := free
      obtain ⟨room, member, found, -, epoch, -⟩ :=
        begun.consistent.promotion_holds promoted
      rw [← same] at found
      exact speaks.notifyMember _ _ fun named =>
        .promoted named (epoch ▸ speaks.epochs _ room found)
  | perform queued =>
      rename_i action rest
      have polled : collider.v2Rooms.step ⟨.pollAction, .sorted⟩ =
          { collider.v2Rooms with actions := rest } := by
        simp [V2.RoomTable.step, V2.RoomTable.pollAction, queued]
      have taken : Speaks { collider with
          v2Rooms := { collider.v2Rooms with actions := rest } } := {
        consistent := polled ▸ speaks.consistent.step ⟨.pollAction, .sorted⟩
        epochs := speaks.epochs
        named := speaks.named
        queued := fun other listed =>
          speaks.queued other (by simp [queued, listed])
        written := speaks.written }
      exact taken.performAction (speaks.queued action (by simp [queued]))
  | pollWrite =>
      exact {
        consistent := speaks.consistent
        epochs := speaks.epochs
        named := speaks.named
        queued := speaks.queued
        written := fun connectionId frame listed =>
          speaks.written connectionId frame (List.mem_of_mem_tail listed) }
  | close order =>
      exact {
        consistent := speaks.consistent.clear
        epochs := by
          intro roomId room found
          simp [Collider.close, V2.RoomTable.clear] at found
        named := by
          intro key connectionId held
          simp [Collider.close] at held
        queued := by
          intro action listed
          simp [Collider.close, V2.RoomTable.clear] at listed
        written := by
          intro connectionId frame listed
          simp only [Collider.close, pushCloses, List.mem_append, List.mem_map,
            reduceCtorEq, and_false, exists_false, or_false] at listed
          exact speaks.written connectionId frame listed }

end Speaks

theorem speaks_of_run
    {decode : String -> Except String WsClientMsg}
    {registerTimeout : Duration}
    {history : History}
    {collider : Collider}
    (run : (machine decode registerTimeout).Run history collider) :
    collider.Speaks := by
  induction run with
  | start starts =>
      obtain rfl : _ = new registerTimeout := starts
      exact {
        consistent := .new registerTimeout
        epochs := by simp [V2.RoomTable.EpochsFit]
        named := by simp
        queued := by simp
        written := by simp }
  | @next history collider call run speaks =>
      exact Chain.invariant Speaks
        (fun state act after taken free kept => @Speaks.acted state after
          decode call collider act kept speaks taken free)
        (step_acts decode collider call) speaks

/-- The frame is written to a browser in some run. -/
def Written
    (decode : String -> Except String WsClientMsg)
    (frame : Frame) : Prop :=
  ∃ registerTimeout history collider connectionId,
    (machine decode registerTimeout).Run history collider ∧
      .text connectionId frame ∈ collider.browserOutputs

/-- The frames that are written to browsers are unambiguous: no two of them have
the same fields, the room and the epoch that one names, if any, are the token of
a room id and a number of 64 bits, and one that names no room carries a message
or an error and nothing else, whatever text was relayed. -/
theorem written_frames_unambiguous
    {decode : String -> Except String WsClientMsg}
    {frame : Frame}
    (written : Written decode frame) :
    (∀ other, Written decode other -> frame.fields = other.fields ->
      frame = other) ∧
    (∀ roomid, frame.roomid? = some roomid ->
      ∃ roomId, V2.parseRoomToken roomid = some roomId) ∧
    (∀ epoch, frame.epoch? = some epoch ->
      ∃ number, canonicalU64 epoch = some number) ∧
    (frame.roomid? = none -> ∃ msg error, (msg = "" ∨ error = "") ∧
      frame.fields = [("msg", .text msg), ("error", .text error)]) := by
  have spoken {frame : Frame} (written : Written decode frame) :
      frame.Genuine := by
    obtain ⟨_, _, _, connectionId, run, listed⟩ := written
    exact (speaks_of_run run).written connectionId frame listed
  have genuine := spoken written
  exact ⟨fun _ others => genuine.eq_of_fields (spoken others),
    fun _ => genuine.roomid_parses, fun _ => genuine.epoch_parses, genuine.plain⟩

/-- The first member learns its room, its epoch and that it offers. -/
theorem written_frames_unambiguous_meeting :
    ∃ roomId, V2.parseRoomToken (V2.formatRoomToken V2.exampleRoomId) =
      some roomId :=
  (written_frames_unambiguous ⟨10, _, _, 1, played_run memberFrames 10
    meetingOperations, show BrowserOutput.text 1 (registeredFrame
      V2.exampleRoomId ⟨.p2p, 0, some true, []⟩) ∈ _ by decide +kernel⟩).2.1 _ rfl

end Collider
end Signaling
