import Signaling.V2.RoomMoves

/-!
# What a timeout does to one room

A timeout leaves each room as the sweep of that room alone would, in a table in
which the expired workers have been given up.
-/

namespace Signaling
namespace V2

open Std (ExtTreeMap ExtTreeSet)
open RoomTable

/-- A table in which the sweep arrives at a room: the room is as the expiry of
the workers has left it. -/
structure Arrived
    (before : RoomTable)
    (now : Instant)
    (roomId : RoomId)
    (table : RoomTable) : Prop where
  wellFormed : table.WellFormed
  connections : ∀ instanceId,
    table.connection? instanceId = before.connection? instanceId
  touched : table.rooms[roomId]? = before.rooms[roomId]? ∨
    ∃ instanceId, before.Expires now instanceId ∧
      before.Lists instanceId roomId

/-- The table when the sweep over the rooms begins: the workers whose grace has
passed have been given up. -/
def RoomTable.givenUp
    (table : RoomTable)
    (order : VisitOrder)
    (now : Instant) : RoomTable :=
  (table.expiredWorkers order now).foldl (RoomTable.expireWorker order) table

/-- A visit appends its promotions and does not look at the others. -/
theorem sweepRoom_append
    (order : VisitOrder)
    (now : Instant)
    (promotions : List Promotion)
    (table : RoomTable)
    (roomId : RoomId) :
    RoomTable.sweepRoom order now (promotions, table) roomId =
      (promotions ++ (RoomTable.sweepRoom order now ([], table) roomId).1,
        (RoomTable.sweepRoom order now ([], table) roomId).2) := by
  unfold RoomTable.sweepRoom
  dsimp only
  split
  · simp
  split
  · split <;> simp
  split
  · split <;> simp
  split <;> simp

section Sweep

variable
  {before expired table : RoomTable}
  {now : Instant}

/-- A sweep over distinct rooms changes each of them, and promotes, as its own
visit does. -/
theorem sweep_visits
    (order : VisitOrder)
    (expiring : Expiring before
      (fun otherId _ => before.Expires now otherId) expired)
    (cleared : ∀ instanceId, before.Expires now instanceId ->
      ∀ roomId, ¬expired.Lists instanceId roomId)
    (remaining : List RoomId)
    (nodup : remaining.Nodup)
    (promotions : List Promotion)
    (wellFormed : table.WellFormed)
    (unvisited : ∀ roomId ∈ remaining,
      table.rooms[roomId]? = expired.rooms[roomId]?)
    (connections : ∀ instanceId,
      table.connection? instanceId = before.connection? instanceId) :
    ∃ arrived : RoomId -> RoomTable,
      (∀ roomId ∈ remaining, Arrived before now roomId (arrived roomId) ∧
        (arrived roomId).rooms[roomId]? = expired.rooms[roomId]? ∧
        (remaining.foldl (RoomTable.sweepRoom order now)
          (promotions, table)).2.rooms[roomId]? =
          (RoomTable.sweepRoom order now ([], arrived roomId)
            roomId).2.rooms[roomId]?) ∧
      (remaining.foldl (RoomTable.sweepRoom order now)
        (promotions, table)).1 = promotions ++ remaining.flatMap (fun roomId =>
          (RoomTable.sweepRoom order now ([], arrived roomId) roomId).1) ∧
      ∀ roomId, roomId ∉ remaining ->
        (remaining.foldl (RoomTable.sweepRoom order now)
          (promotions, table)).2.rooms[roomId]? = table.rooms[roomId]? := by
  induction remaining generalizing table promotions with
  | nil => exact ⟨fun _ => table, by simp, by simp, by simp⟩
  | cons visited remaining inductionHypothesis =>
      obtain ⟨fresh, nodup⟩ := List.nodup_cons.1 nodup
      obtain ⟨call, asked, rfl⟩ : ∃ call : Call,
          call.operation = .handleTimeout now ∧ call.order = order :=
        ⟨⟨.handleTimeout now, order⟩, rfl, rfl⟩
      have head := sweepRoom_chain asked table [] expiring cleared
          (unvisited visited List.mem_cons_self) connections
      have touches := sweepRoom_touches call.order now [] visited wellFormed
      have shape := head.wellFormed wellFormed
      rw [List.foldl_cons, sweepRoom_append]
      obtain ⟨arrived, visits, promoted, elsewhere⟩ := inductionHypothesis nodup
        (promotions ++ (RoomTable.sweepRoom call.order now ([], table)
          visited).1) shape
        (fun otherId listed => (touches.rooms otherId (by
            rintro rfl
            exact fresh listed)).trans
          (unvisited otherId (List.mem_cons_of_mem _ listed)))
        fun instanceId =>
          (touches.connections instanceId).trans (connections instanceId)
      have other (roomId : RoomId) (listed : roomId ∈ remaining) :
          ¬roomId = visited := by
        rintro rfl
        exact fresh listed
      refine ⟨fun roomId => if roomId = visited then table else arrived roomId,
        fun roomId present => ?_, ?_, fun roomId absent => ?_⟩
      · rcases List.mem_cons.1 present with rfl | listed
        · simp only [if_true]
          refine ⟨⟨wellFormed, connections, ?_⟩, unvisited roomId present,
            elsewhere roomId fresh⟩
          rw [unvisited roomId present]
          exact (expiring.touched roomId).imp id
            fun ⟨instanceId, expires, was⟩ => ⟨instanceId, expires, was⟩
        · simp only [if_neg (other roomId listed)]
          exact visits roomId listed
      · rw [promoted, List.flatMap_cons, List.append_assoc]
        simp only [if_true]
        congr 2
        exact List.flatMap_congr fun roomId listed => by
          simp only [if_neg (other roomId listed)]
      · simp only [List.mem_cons, not_or] at absent
        rw [elsewhere roomId absent.2]
        exact touches.rooms roomId absent.1

end Sweep

/-- A timeout sweeps distinct rooms of the table in which the expired workers
have been given up, each as its own visit does, and promotes accordingly. -/
theorem handleTimeout_sweeps
    (order : VisitOrder)
    (now : Instant)
    {before : RoomTable}
    (wellFormed : before.WellFormed) :
    ∃ (roomIds : List RoomId) (arrived : RoomId -> RoomTable),
      roomIds.Nodup ∧
      (∀ roomId, roomId ∈ roomIds ↔
        ((before.givenUp order now).rooms[roomId]?).isSome = true) ∧
      (∀ roomId, Arrived before now roomId (arrived roomId) ∧
        (arrived roomId).rooms[roomId]? =
          (before.givenUp order now).rooms[roomId]? ∧
        (before.handleTimeout order now).2.rooms[roomId]? =
          (RoomTable.sweepRoom order now ([], arrived roomId)
            roomId).2.rooms[roomId]?) ∧
      (before.handleTimeout order now).1 = roomIds.flatMap fun roomId =>
        (RoomTable.sweepRoom order now ([], arrived roomId) roomId).1 := by
  obtain ⟨call, asked, rfl⟩ : ∃ call : Call,
      call.operation = .handleTimeout now ∧ call.order = order :=
    ⟨⟨.handleTimeout now, order⟩, rfl, rfl⟩
  obtain ⟨-, expiring, cleared⟩ := expiry_chain asked wellFormed
  change Expiring before _ (before.givenUp call.order now) at expiring
  change ∀ instanceId, before.Expires now instanceId ->
    ∀ roomId, ¬(before.givenUp call.order now).Lists instanceId roomId at cleared
  have swept : before.handleTimeout call.order now =
      (call.order.visit .rooms (before.givenUp call.order now).rooms.keys).foldl
        (RoomTable.sweepRoom call.order now)
        ([], before.givenUp call.order now) := rfl
  rw [swept]
  generalize before.givenUp call.order now = expired at expiring cleared ⊢
  obtain ⟨arrived, visits, promoted, elsewhere⟩ := sweep_visits call.order
    expiring cleared (call.order.visit .rooms expired.rooms.keys)
    (HashOrder.nodup_visit _ _ ExtTreeMap.nodup_keys) []
    expiring.wellFormed (fun _ _ => rfl) expiring.connections
  have listed (roomId : RoomId) :
      roomId ∈ call.order.visit .rooms expired.rooms.keys ↔
        (expired.rooms[roomId]?).isSome = true := by
    rw [HashOrder.mem_visit, ExtTreeMap.mem_keys,
      ExtTreeMap.mem_iff_isSome_getElem?]
  refine ⟨_, fun roomId => if (expired.rooms[roomId]?).isSome then
      arrived roomId else expired,
    HashOrder.nodup_visit _ _ ExtTreeMap.nodup_keys, listed, fun roomId => ?_,
    ?_⟩
  · by_cases present : (expired.rooms[roomId]?).isSome = true
    · simp only [if_pos present]
      exact visits roomId ((listed roomId).2 present)
    · simp only [if_neg present]
      refine ⟨⟨expiring.wellFormed, expiring.connections,
        (expiring.touched roomId).imp id
          fun ⟨instanceId, expires, was⟩ => ⟨instanceId, expires, was⟩⟩,
        trivial, ?_⟩
      rw [elsewhere roomId fun inside => present ((listed roomId).1 inside)]
      have absent : expired.rooms[roomId]? = none := by simpa using present
      simp [RoomTable.sweepRoom, absent]
  · rw [promoted, List.nil_append]
    exact List.flatMap_congr fun roomId inside => by
      simp only [if_pos ((listed roomId).1 inside)]

/-- After a timeout a room is as the sweep of that room alone leaves it, from a
table in which the expired workers have been given up. -/
theorem handleTimeout_visits
    (order : VisitOrder)
    (now : Instant)
    (roomId : RoomId)
    {before : RoomTable}
    (wellFormed : before.WellFormed) :
    ∃ (promotions : List Promotion) (arrived : RoomTable),
      Arrived before now roomId arrived ∧
      (before.handleTimeout order now).2.rooms[roomId]? =
        (RoomTable.sweepRoom order now (promotions, arrived)
          roomId).2.rooms[roomId]? := by
  obtain ⟨-, arrived, -, -, visits, -⟩ := handleTimeout_sweeps order now
    wellFormed
  obtain ⟨arrives, -, same⟩ := visits roomId
  exact ⟨[], arrived roomId, arrives, same⟩

end V2
end Signaling
