import Signaling.Support.MapValues
import Signaling.V1.Lookup

/-!
# What a V1 timeout waits for

The register-timeouts that `pollTimeout` reports are those that `handleTimeout`
acts on, and one timeout serves all of them.
-/

namespace Signaling
namespace V1

open Std (ExtTreeMap)

namespace RoomTable

/-- Some client of the table is due. -/
def Due (table : RoomTable) (now : Instant) : Prop :=
  ∃ (roomId : RoomId) (clientId : ClientId) (client : Client),
    table.client? roomId clientId = some client ∧ client.Due now

/-- The number of clients that are due. -/
def load (table : RoomTable) (now : Instant) : Nat :=
  tally table.rooms fun room =>
    tally room.clients fun client => if client.Due now then 1 else 0

variable
  {table : RoomTable}
  {now : Instant}

/-- The earliest reported register-timeout has passed exactly when some client
is due. -/
theorem Sound.due_iff
    (sound : table.Sound) :
    table.Due now ↔
      ∃ deadline, table.pollTimeout = some deadline ∧ deadline ≤ now := by
  have room (roomId : RoomId) (room : Room)
      (found : table.rooms[roomId]? = some room) :
      (∃ deadline, room.pollTimeout = some deadline ∧ deadline ≤ now) ↔
        room.Expires now := by
    unfold Room.pollTimeout Room.Expires
    rw [min?_le_iff]
    simp only [List.mem_filterMap, mem_values]
    constructor
    · rintro ⟨deadline, ⟨client, ⟨clientId, present⟩, waiting⟩, passed⟩
      have kept := (sound roomId room found).1.clients clientId client present
      refine ⟨clientId, client, present, ?_, deadline, waiting, passed⟩
      by_contra registered
      simp [kept.bound (by simpa using registered)] at waiting
    · rintro ⟨clientId, client, present, -, deadline, waiting, passed⟩
      exact ⟨deadline, ⟨client, ⟨clientId, present⟩, waiting⟩, passed⟩
  unfold RoomTable.pollTimeout
  rw [min?_le_iff]
  simp only [List.mem_filterMap, mem_values]
  constructor
  · rintro ⟨roomId, clientId, client, present, due⟩
    obtain ⟨stored, found, inside⟩ := Option.bind_eq_some_iff.1 present
    obtain ⟨deadline, waiting, passed⟩ := (room roomId stored found).2
      ⟨clientId, client, inside, due⟩
    exact ⟨deadline, ⟨stored, ⟨roomId, found⟩, waiting⟩, passed⟩
  · rintro ⟨deadline, ⟨stored, ⟨roomId, found⟩, waiting⟩, passed⟩
    obtain ⟨clientId, client, inside, due⟩ :=
      (room roomId stored found).1 ⟨deadline, waiting, passed⟩
    exact ⟨roomId, clientId, client, by simp [client?, found, inside], due⟩

/-- A timeout on which nobody is due keeps every client. -/
theorem Sound.handleTimeout_of_undue
    (sound : table.Sound)
    (undue : ¬table.Due now)
    (order : VisitOrder)
    (roomId : RoomId)
    (clientId : ClientId) :
    (table.handleTimeout order now).client? roomId clientId =
      table.client? roomId clientId := by
  rw [client?_handleTimeout, client?]
  cases found : table.rooms[roomId]? with
  | none => rfl
  | some room =>
      refine ((sound roomId room found).1.handleTimeout_getElem? order now
        clientId).1 ?_
      rintro ⟨dueId, client, present, due⟩
      exact undue ⟨roomId, dueId, client, by simp [client?, found, present], due⟩

/-- Nobody is due after a timeout. -/
theorem Sound.undue_handleTimeout
    (sound : table.Sound)
    (order : VisitOrder)
    (now : Instant) :
    ¬(table.handleTimeout order now).Due now := by
  rintro ⟨roomId, clientId, client, present, due⟩
  rw [client?_handleTimeout] at present
  obtain ⟨room, found, inside⟩ := Option.bind_eq_some_iff.1 present
  obtain ⟨calm, swept⟩ := (sound roomId room found).1.handleTimeout_getElem?
    order now clientId
  by_cases expires : room.Expires now
  · rw [swept expires] at inside
    obtain ⟨former, -, kept⟩ := Option.bind_eq_some_iff.1 inside
    split at kept
    · cases kept
    · next spared =>
        cases kept
        exact spared due
  · rw [calm expires] at inside
    exact expires ⟨clientId, client, inside, due⟩

theorem load_pos_iff :
    0 < table.load now ↔ table.Due now := by
  simp only [load, tally_pos_iff]
  constructor
  · rintro ⟨roomId, room, found, clientId, client, present, due⟩
    refine ⟨roomId, clientId, client, by simp [client?, found, present], ?_⟩
    by_contra spared
    simp [spared] at due
  · rintro ⟨roomId, clientId, client, present, due⟩
    obtain ⟨room, found, inside⟩ := Option.bind_eq_some_iff.1 present
    exact ⟨roomId, room, found, clientId, client, inside, by simp [due]⟩

theorem load_le (table : RoomTable) (now : Instant) :
    table.load now ≤ table.clientCount := by
  refine tally_le fun roomId => ?_
  cases found : table.rooms[roomId]? with
  | none => simp [weightAt, found]
  | some room =>
      simp only [weightAt, found, Option.elim_some, Room.occupancy]
      rw [← tally_one]
      refine tally_le fun clientId => ?_
      cases present : room.clients[clientId]? with
      | none => simp [weightAt, present]
      | some client =>
          simp only [weightAt, present, Option.elim_some]
          split <;> omega

/-- A timeout takes the whole load off. -/
theorem Sound.handleTimeout_load
    (sound : table.Sound)
    (order : VisitOrder)
    (now : Instant) :
    (table.handleTimeout order now).load now = 0 := by
  have undue := sound.undue_handleTimeout order now
  rw [← load_pos_iff] at undue
  omega

end RoomTable
end V1
end Signaling
