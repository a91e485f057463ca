import Signaling.Collider.Tables
import Signaling.V1.Deadlines
import Signaling.V2.Deadlines

/-!
# The driver's timer

A driver that sleeps until `pollTimeout` and then calls `handleTimeout` misses
no work, and after finitely many calls it may sleep again.
-/

namespace Signaling
namespace Collider

/-- A timeout at `now` does something that shows: it changes a V1 client or a V2
member, changes the mode of a room or the record of a worker, issues a command
or any other action, or promotes a survivor. -/
inductive Acts
    (collider : Collider)
    (order : VisitOrder)
    (now : Instant) : Prop
  | client
      {roomid : V1.RoomId} {clientid : V1.ClientId}
      (changes : (collider.handleTimeout order now).rooms.client? roomid
        clientid ≠ collider.rooms.client? roomid clientid)
  | member
      {roomId : V2.RoomId} {clientId : V2.ClientId}
      (changes : (collider.handleTimeout order now).v2Rooms.member? roomId
        clientId ≠ collider.v2Rooms.member? roomId clientId)
  | mode
      {roomId : V2.RoomId} {before after : V2.RoomMode}
      (was : collider.v2Rooms.mode? roomId = some before)
      (becomes : (collider.handleTimeout order now).v2Rooms.mode? roomId =
        some after)
      (changes : before ≠ after)
  | worker
      (changes : (collider.handleTimeout order now).v2Rooms.workers ≠
        collider.v2Rooms.workers)
  | command
      (issues : (collider.handleTimeout order now).v2Rooms.pendingCommands ≠
        collider.v2Rooms.pendingCommands)
  | action
      (queues : (collider.v2Rooms.handleTimeout order.v2 now).2.actions ≠
        collider.v2Rooms.actions)
  | promotion
      (promotes : (collider.v2Rooms.handleTimeout order.v2 now).1 ≠ [])

/-- The collider after some timeouts at one moment. -/
def timeouts
    (collider : Collider)
    (now : Instant)
    (orders : Nat -> VisitOrder) : Nat -> Collider
  | 0 => collider
  | count + 1 =>
      (timeouts collider now orders count).handleTimeout (orders count) now

theorem drainV2Actions_v2Rooms (collider : Collider) :
    collider.drainV2Actions.v2Rooms = { collider.v2Rooms with actions := [] } := by
  unfold drainV2Actions
  generalize left : collider.v2Rooms.actions.length = fuel
  induction fuel generalizing collider with
  | zero =>
      have done : collider.v2Rooms.actions = [] := by simpa using left
      simp only [drainActions]
      rw [← done]
  | succ fuel inductionHypothesis =>
      obtain ⟨action, rest, queued⟩ := List.exists_cons_of_length_eq_add_one left
      have polled : collider.v2Rooms.pollAction =
          (some action, { collider.v2Rooms with actions := rest }) := by
        simp [V2.RoomTable.pollAction, queued]
      rw [drainActions, polled]
      dsimp only
      rw [inductionHypothesis _ (by
        rw [performAction_v2Rooms]
        simpa [queued] using left), performAction_v2Rooms]

/-- A timeout drives both tables and empties the action queue. -/
theorem handleTimeout_tables
    (collider : Collider)
    (order : VisitOrder)
    (now : Instant) :
    (collider.handleTimeout order now).rooms =
        collider.rooms.handleTimeout order.v1 now ∧
      (collider.handleTimeout order now).v2Rooms =
        { (collider.v2Rooms.handleTimeout order.v2 now).2 with
          actions := [] } := by
  unfold handleTimeout
  rcases outcome : collider.v2Rooms.handleTimeout order.v2 now with
    ⟨promotions, v2Rooms⟩
  dsimp only
  have told := Aside.foldl Aside.pushPromotion promotions { collider with
    rooms := collider.rooms.handleTimeout order.v1 now
    v2Rooms := v2Rooms }
  refine ⟨(Aside.drainV2Actions _).rooms.trans told.rooms, ?_⟩
  rw [drainV2Actions_v2Rooms, pushPromotions_v2Rooms]

/-- Something is due in one of the tables. -/
def Due (collider : Collider) (now : Instant) : Prop :=
  collider.rooms.Due now ∨ collider.v2Rooms.Due now

/-- The passed deadlines of both tables. -/
def load (collider : Collider) (now : Instant) : Nat :=
  collider.rooms.load now + collider.v2Rooms.load now

section Timer

variable
  {collider : Collider}
  {now : Instant}

theorem due_iff (sound : collider.rooms.Sound) :
    collider.Due now ↔
      ∃ deadline, collider.pollTimeout = some deadline ∧ deadline ≤ now := by
  unfold Due
  rw [sound.due_iff, collider.v2Rooms.due_iff, pollTimeout]
  cases left : collider.rooms.pollTimeout <;>
    cases right : collider.v2Rooms.pollTimeout <;> simp

/-- A timeout acts only when something is due. -/
theorem Acts.due
    {order : VisitOrder}
    (acts : collider.Acts order now)
    (sound : collider.rooms.Sound) :
    collider.Due now := by
  by_contra undue
  rw [Due, not_or] at undue
  obtain ⟨rooms, v2Rooms⟩ := collider.handleTimeout_tables order now
  obtain ⟨nobody, swept⟩ :=
    V2.RoomTable.handleTimeout_of_undue undue.2 order.v2
  have left := swept
  obtain ⟨stored, same, -⟩ := left
  cases acts with
  | client changes =>
      rw [rooms] at changes
      exact changes (sound.handleTimeout_of_undue undue.1 order.v1 _ _)
  | member changes =>
      rw [v2Rooms] at changes
      exact changes (swept.member?_eq _ _)
  | mode was becomes changes =>
      rw [v2Rooms] at becomes
      obtain ⟨room, found, rfl⟩ := Option.map_eq_some_iff.1 becomes
      have before := swept.stored found
      simp only [V2.RoomTable.mode?, before, Option.map_some] at was
      exact changes (Option.some.inj was).symm
  | worker changes => exact changes (by rw [v2Rooms, same])
  | command issues => exact issues (by rw [v2Rooms, same])
  | action queues => exact queues (by rw [same])
  | promotion promotes => exact promotes nobody

/-- A timeout takes load off whenever something is due. -/
theorem handleTimeout_load
    (sound : collider.rooms.Sound)
    (wellFormed : collider.v2Rooms.WellFormed)
    (positive : 0 < collider.v2Rooms.reconnectGrace)
    (order : VisitOrder)
    (due : collider.Due now) :
    (collider.handleTimeout order now).load now < collider.load now := by
  obtain ⟨rooms, v2Rooms⟩ := collider.handleTimeout_tables order now
  obtain ⟨lighter, less⟩ :
      (collider.v2Rooms.handleTimeout order.v2 now).2.load now ≤
          collider.v2Rooms.load now ∧
        (collider.v2Rooms.Due now ->
          (collider.v2Rooms.handleTimeout order.v2 now).2.load now <
            collider.v2Rooms.load now) :=
    V2.RoomTable.handleTimeout_load wellFormed positive order.v2
  have cleared := sound.handleTimeout_load order.v1 now
  have same : ({ (collider.v2Rooms.handleTimeout order.v2 now).2 with
      actions := [] } : V2.RoomTable).load now =
        (collider.v2Rooms.handleTimeout order.v2 now).2.load now := rfl
  unfold load
  rw [rooms, v2Rooms, same, cleared]
  rcases due with due | due
  · have some := V1.RoomTable.load_pos_iff.2 due
    omega
  · have fewer := less due
    omega

end Timer

/-- The V1 table is sound, and the V2 table well formed with the configured
grace. -/
theorem timed_of_reachable
    {decode : String -> Except String WsClientMsg}
    {registerTimeout : Duration}
    {collider : Collider}
    (reachable : (machine decode registerTimeout).Reachable collider) :
    collider.rooms.Sound ∧ collider.v2Rooms.WellFormed ∧
      collider.v2Rooms.reconnectGrace = registerTimeout := by
  refine tables_of_reachable (fun table => table.WellFormed ∧
    table.reconnectGrace = registerTimeout) ⟨.new registerTimeout, rfl⟩ ?_
      reachable
  rintro table after (call | _) ⟨wellFormed, configured⟩
  · obtain ⟨shape, same⟩ := V2.RoomTable.step_reconnectGrace wellFormed call
    exact ⟨shape, same.trans configured⟩
  · exact ⟨⟨by simp [V2.RoomTable.clear], by simp [V2.RoomTable.clear],
      wellFormed.counter⟩, configured⟩

theorem reachable_timeouts
    {decode : String -> Except String WsClientMsg}
    {registerTimeout : Duration}
    {collider : Collider}
    (reachable : (machine decode registerTimeout).Reachable collider)
    (now : Instant)
    (orders : Nat -> VisitOrder)
    (count : Nat) :
    (machine decode registerTimeout).Reachable
      (collider.timeouts now orders count) := by
  induction count with
  | zero => exact reachable
  | succ count inductionHypothesis =>
      obtain ⟨history, run⟩ := inductionHypothesis
      exact ⟨_, run.next ⟨.handleTimeout now, orders count⟩⟩

/-- A timeout does something that shows only when `pollTimeout` has announced
it. With a positive grace, timeouts at one moment leave nothing announced for
that moment after no more calls than there are members, rooms and workers. -/
theorem timeouts_serve_deadlines
    {decode : String -> Except String WsClientMsg}
    {registerTimeout : Duration}
    {collider : Collider}
    (reachable : (machine decode registerTimeout).Reachable collider)
    (now : Instant) :
    (∀ order, collider.Acts order now ->
      ∃ deadline, collider.pollTimeout = some deadline ∧ deadline ≤ now) ∧
    (0 < registerTimeout -> ∀ orders : Nat -> VisitOrder,
      ∃ count ≤ collider.rooms.clientCount + collider.v2Rooms.memberCount +
          collider.v2Rooms.roomCount + collider.v2Rooms.workers.size,
        ∀ deadline, (collider.timeouts now orders count).pollTimeout =
          some deadline -> now < deadline) := by
  obtain ⟨sound, -, -⟩ := timed_of_reachable reachable
  refine ⟨fun order acts => (due_iff sound).1 (acts.due sound),
    fun positive orders => ?_⟩
  have descends (count : Nat)
      (restless : ¬¬(collider.timeouts now orders count).Due now) :
      (collider.timeouts now orders (count + 1)).load now <
        (collider.timeouts now orders count).load now := by
    obtain ⟨kept, wellFormed, configured⟩ :=
      timed_of_reachable (reachable_timeouts reachable now orders count)
    exact handleTimeout_load kept wellFormed (configured ▸ positive) _
      (not_not.1 restless)
  obtain ⟨count, within, settled⟩ := Machine.settles_within_rank
    (fun collider : Collider => ¬collider.Due now)
    (fun collider => collider.load now) descends
  refine ⟨count, within.trans ?_, fun deadline announced => ?_⟩
  · have clients := collider.rooms.load_le now
    have members := collider.v2Rooms.load_le now
    simp only [timeouts, load]
    omega
  · obtain ⟨kept, -, -⟩ :=
      timed_of_reachable (reachable_timeouts reachable now orders count)
    rw [due_iff kept] at settled
    by_contra early
    exact settled ⟨deadline, announced, Nat.le_of_not_lt early⟩

/-- Two V2 members and a V1 client wait to be registered. -/
def waitingOperations : List Operation :=
  [.handleWrite ⟨1, .admitV2 V2.exampleRoomId 1 "first" 0⟩,
    .handleWrite ⟨2, .admitV2 V2.exampleRoomId 2 "second" 0⟩,
    .handleWrite ⟨3, .admitClient "room" "client" false 0⟩]

/-- All three waits of one moment are over after at most four timeouts. -/
theorem timeouts_serve_deadlines_waiting :
    (played (fun _ => .error "") 1 waitingOperations).2.pollTimeout = some 1 ∧
      ∃ count ≤ 4, ∀ deadline,
        ((played (fun _ => .error "") 1 waitingOperations).2.timeouts 1
          (fun _ => .sorted) count).pollTimeout = some deadline ->
            1 < deadline := by
  refine ⟨by decide +kernel, ?_⟩
  obtain ⟨count, within, settled⟩ := (timeouts_serve_deadlines
    ⟨_, played_run (fun _ => .error "") 1 waitingOperations⟩ 1).2 Nat.one_pos
      fun _ => .sorted
  exact ⟨count, within.trans (by decide +kernel), settled⟩

end Collider
end Signaling
