import Signaling.V2.Deadlines
import Signaling.V2.Sweep

/-!
# Promotions

A member is promoted when a call takes the only other member of its P2P room
out. Whatever else a removal or a timeout does, short of a downgrade, leaves the
flags and the queues of the members as they were.
-/

namespace Signaling
namespace V2

open Std (ExtTreeMap ExtTreeSet)
open RoomTable

/-- The member as the initiator of its room, with an empty queue. -/
@[simps] def Member.promote (member : Member) : Member :=
  { member with isInitiator := true, queuedMessages := [] }

namespace Room

/-- Every member was a member before, with the same flag and the same queue. -/
def Retains (room after : Room) : Prop :=
  ∀ (clientId : ClientId) (member : Member),
    after.members[clientId]? = some member ->
    ∃ former, room.members[clientId]? = some former ∧
      member.isInitiator = former.isInitiator ∧
      member.queuedMessages = former.queuedMessages

namespace Retains

variable {room middle after : Room}

theorem of_members
    (members : ∀ (clientId : ClientId) (member : Member),
      after.members[clientId]? = some member ->
      room.members[clientId]? = some member) :
    room.Retains after :=
  fun clientId member present => ⟨member, members clientId member present, rfl, rfl⟩

theorem refl : room.Retains room :=
  of_members fun _ _ present => present

theorem trans
    (earlier : room.Retains middle)
    (later : middle.Retains after) :
    room.Retains after := by
  intro clientId member present
  obtain ⟨between, found, flag, queue⟩ := later clientId member present
  obtain ⟨former, was, sameFlag, sameQueue⟩ := earlier clientId between found
  exact ⟨former, was, flag.trans sameFlag, queue.trans sameQueue⟩

end Retains

/-- A P2P room of two goes on with one of them alone. -/
structure Halves
    (room after : Room)
    (survivorId : ClientId)
    (survivor : Member) : Prop where
  direct : room.mode = .p2p
  pair : room.members.size = 2
  present : room.members[survivorId]? = some survivor
  stays : after.members[survivorId]?.isSome = true
  leaves : ∃ clientId : ClientId, room.members[clientId]?.isSome = true ∧
    after.members[clientId]? = none

/-- What becomes of a room when a call takes members out of it, and whom the
call promotes. -/
inductive Sheds (roomId : RoomId) (room : Room) :
    List Promotion -> Option Room -> Prop
  | kept {after : Room}
      (retains : room.Retains after)
      (stays : room.mode = .p2p -> ∀ clientId : ClientId,
        room.members[clientId]?.isSome = true ->
        after.members[clientId]?.isSome = true) :
      Sheds roomId room [] (some after)
  | downgraded {after : Room}
      (forwarded : room.mode = .sfu)
      (direct : after.mode = .p2p) :
      Sheds roomId room [] (some after)
  | emptied : Sheds roomId room [] none
  | halved {after : Room} {survivorId : ClientId} {survivor : Member}
      (direct : room.mode = .p2p)
      (pair : room.members.size = 2)
      (present : room.members[survivorId]? = some survivor)
      (only : ∀ clientId : ClientId, after.members[clientId]? =
        if clientId = survivorId then some survivor.promote else none) :
      Sheds roomId room
        (if survivor.registered then
          [⟨roomId, survivorId, room.signalEpoch⟩] else [])
        (some after)

namespace Sheds

variable
  {roomId : RoomId}
  {room after : Room}
  {left : Option Room}
  {promotions : List Promotion}

theorem refl (roomId : RoomId) (room : Room) :
    room.Sheds roomId [] (some room) :=
  .kept .refl fun _ _ present => present

/-- Besides the survivor, a pair has exactly one member. -/
theorem other_of_pair
    {survivorId : ClientId}
    (pair : room.members.size = 2) :
    ∃ clientId : ClientId, clientId ≠ survivorId ∧
      room.members[clientId]?.isSome = true := by
  by_contra nobody
  push Not at nobody
  have few := size_le_of_subset room.members [survivorId]
    fun clientId present => by
      by_contra absent
      exact nobody clientId (by simpa using absent) present
  simp [pair] at few

/-- The survivor of a room of two leads it, with an empty queue. -/
theorem survivor_promoted
    {survivorId : ClientId}
    {survivor : Member}
    (sheds : room.Sheds roomId promotions (some after))
    (halves : room.Halves after survivorId survivor) :
    after.members[survivorId]? = some survivor.promote := by
  obtain ⟨direct, pair, present, stays, clientId, was, gone⟩ := halves
  cases sheds with
  | kept retains stays =>
      have still := stays direct clientId was
      simp [gone] at still
  | downgraded forwarded => simp [direct] at forwarded
  | halved _ _ before only =>
      rw [only] at stays ⊢
      split
      · next same =>
          subst same
          rw [present] at before
          rw [Option.some.inj before]
      · next other => simp [other] at stays

/-- A member is promoted when it is the registered survivor of a room of two. -/
theorem mem_promotions
    (sheds : room.Sheds roomId promotions left)
    (promotion : Promotion) :
    promotion ∈ promotions ↔
      ∃ (after : Room) (survivorId : ClientId) (survivor : Member),
        left = some after ∧ room.Halves after survivorId survivor ∧
        survivor.registered = true ∧
        promotion = ⟨roomId, survivorId, room.signalEpoch⟩ := by
  cases sheds with
  | kept retains stays =>
      refine ⟨nofun, ?_⟩
      rintro ⟨after, survivorId, survivor, same, halves, -⟩
      obtain rfl := Option.some.inj same
      obtain ⟨clientId, was, gone⟩ := halves.leaves
      have still := stays halves.direct clientId was
      simp [gone] at still
  | downgraded forwarded =>
      refine ⟨nofun, ?_⟩
      rintro ⟨after, survivorId, survivor, -, halves, -⟩
      simp [halves.direct] at forwarded
  | emptied => exact ⟨nofun, fun ⟨_, _, _, same, _⟩ => nomatch same⟩
  | @halved after survivorId survivor direct pair present only =>
      have halves : room.Halves after survivorId survivor := by
        obtain ⟨clientId, other, was⟩ := @other_of_pair room survivorId pair
        exact ⟨direct, pair, present, by simp [only], clientId, was,
          by simp [only, other]⟩
      constructor
      · intro listed
        split at listed
        · next registered =>
            exact ⟨after, survivorId, survivor, rfl, halves, registered,
              List.mem_singleton.1 listed⟩
        · cases listed
      · rintro ⟨kept, otherId, other, same, remains, registered, rfl⟩
        obtain rfl := Option.some.inj same
        have stays := remains.stays
        rw [only] at stays
        split at stays
        · next same =>
            subst same
            have found := remains.present
            rw [present] at found
            obtain rfl := Option.some.inj found
            simp [registered]
        · cases stays

/-- A room has at most one promotion. -/
theorem promotions_sublist
    (sheds : room.Sheds roomId promotions left) :
    (promotions.map (·.roomId)).Sublist [roomId] := by
  cases sheds with
  | halved =>
      split
      · exact List.Sublist.refl _
      · exact List.nil_sublist _
  | _ => exact List.nil_sublist _

/-- A room that stays stored loses one of two members, is downgraded or leaves
its members their flags and queues. -/
theorem cases_of_kept
    (sheds : room.Sheds roomId promotions (some after)) :
    (∃ survivorId survivor, room.Halves after survivorId survivor) ∨
      (room.mode = .sfu ∧ after.mode = .p2p) ∨
      room.Retains after := by
  cases sheds with
  | kept retains => exact Or.inr (Or.inr retains)
  | downgraded forwarded direct => exact Or.inr (Or.inl ⟨forwarded, direct⟩)
  | @halved _ survivorId survivor direct pair present only =>
      obtain ⟨clientId, other, was⟩ := @other_of_pair room survivorId pair
      exact Or.inl ⟨survivorId, survivor, direct, pair, present, by simp [only],
        clientId, was, by simp [only, other]⟩

end Sheds

/-- Taking members out of a P2P room promotes whoever is left alone, and drops
the room when nobody is. -/
theorem promoteSurvivor_sheds
    {room : Room}
    {clientId : ClientId}
    (wellFormed : room.WellFormed)
    (direct : room.mode = .p2p)
    (roomId : RoomId)
    (gone : List ClientId)
    (listed : clientId ∈ gone)
    (present : room.members[clientId]?.isSome = true) :
    room.Sheds roomId
      (promoteSurvivor roomId (room.eraseMembers gone)).1.toList
      (if (promoteSurvivor roomId (room.eraseMembers gone)).2.members.isEmpty
        then none
        else some (promoteSurvivor roomId (room.eraseMembers gone)).2) := by
  have small : room.members.size ≤ 2 := (wellFormed.direct direct).1
  have rest := room.eraseMembers_eq gone
  have left (otherId : ClientId) :
      (room.eraseMembers gone).members[otherId]? =
        if otherId ∈ gone then none else room.members[otherId]? :=
    room.eraseMembers_members otherId gone
  generalize room.eraseMembers gone = erased at rest left ⊢
  have mode : erased.mode = .p2p := by rw [rest]; exact direct
  have epoch : erased.signalEpoch = room.signalEpoch := by rw [rest]
  have fewer : erased.members.size + 1 ≤ room.members.size := by
    have inside : clientId ∈ room.members :=
      ExtTreeMap.mem_iff_isSome_getElem?.2 present
    have others := size_le_of_subset erased.members
      (room.members.erase clientId).keys fun otherId stays => by
        rw [ExtTreeMap.mem_keys, ExtTreeMap.mem_erase]
        rw [left] at stays
        split at stays
        · cases stays
        · next kept =>
            refine ⟨fun same => kept ?_,
              ExtTreeMap.mem_iff_isSome_getElem?.2 stays⟩
            exact compare_eq_iff_eq.1 same ▸ listed
    rw [ExtTreeMap.length_keys, ExtTreeMap.size_erase,
      if_pos (ExtTreeMap.contains_iff_mem.2 inside)] at others
    have positive : room.members.size ≠ 0 := by
      intro zero
      rw [ExtTreeMap.eq_empty_iff_size_eq_zero.2 zero] at present
      simp at present
    omega
  by_cases alone : erased.members.size = 1
  · have one : erased.members.toList.length = 1 := by simpa using alone
    obtain ⟨⟨survivorId, survivor⟩, only⟩ := List.length_eq_one_iff.1 one
    have members (otherId : ClientId) (other : Member) :
        erased.members[otherId]? = some other ↔
          otherId = survivorId ∧ other = survivor := by
      rw [← ExtTreeMap.mem_toList_iff_getElem?_eq_some, only]
      simp
    have stored := (members survivorId survivor).2 ⟨rfl, rfl⟩
    have promoted : promoteSurvivor roomId erased =
        ((if survivor.registered then
          some ⟨roomId, survivorId, room.signalEpoch⟩ else none),
          erased.insertMember survivorId survivor.promote) := by
      unfold promoteSurvivor
      simp only [alone, mode, ne_eq, not_true_eq_false, decide_false,
        Bool.or_self, Bool.false_eq_true, if_false, only]
      rw [← epoch]
      split <;> rfl
    have before : room.members[survivorId]? = some survivor := by
      rw [left] at stored
      split at stored
      · cases stored
      · exact stored
    have sheds : room.Sheds roomId _
        (some (erased.insertMember survivorId survivor.promote)) :=
      .halved direct (by omega) before fun otherId => by
        rw [insertMember_members, ExtTreeMap.getElem?_insert]
        simp only [compare_eq_iff_eq, @eq_comm _ survivorId]
        split
        · rfl
        · next other =>
            cases found : erased.members[otherId]? with
            | none => rfl
            | some member =>
                exact absurd ((members otherId member).1 found).1 other
    have occupied : (erased.insertMember survivorId
        survivor.promote).members.isEmpty = false := by
      simp [insertMember]
    rw [promoted]
    simp only [occupied, Bool.false_eq_true, if_false]
    convert sheds using 1
    split <;> rfl
  · have nobody : erased.members = ∅ :=
      ExtTreeMap.eq_empty_iff_size_eq_zero.2 (by omega)
    have unpromoted : promoteSurvivor roomId erased = (none, erased) := by
      simp [promoteSurvivor, alone]
    rw [unpromoted, nobody]
    exact .emptied

/-- A change of one member that keeps its flag and its queue. -/
theorem Retains.modifyMember
    (room : Room)
    (clientId : ClientId)
    (update : Member -> Member)
    (flag : ∀ member, (update member).isInitiator = member.isInitiator)
    (queue : ∀ member, (update member).queuedMessages = member.queuedMessages) :
    room.Retains (room.modifyMember clientId update) := by
  intro otherId member present
  rw [modifyMember_members, ExtTreeMap.getElem?_modify] at present
  split at present
  · next same =>
      obtain ⟨former, found, rfl⟩ := Option.map_eq_some_iff.1 present
      rw [compare_eq_iff_eq.1 same] at found
      exact ⟨former, found, flag former, queue former⟩
  · exact ⟨member, present, rfl, rfl⟩

end Room

namespace RoomTable

variable {table : RoomTable}

theorem setOrDropRoom_getElem?
    (table : RoomTable)
    (roomId : RoomId)
    (room : Room) :
    (table.setOrDropRoom roomId room).rooms[roomId]? =
      if room.members.isEmpty then none else some room := by
  unfold setOrDropRoom
  split <;> simp

/-- What the sweep does to the room that it visits. -/
theorem WellFormed.sweepRoom_sheds
    (wellFormed : table.WellFormed)
    (order : VisitOrder)
    (now : Instant)
    {roomId : RoomId}
    {room : Room}
    (found : table.rooms[roomId]? = some room) :
    room.Sheds roomId
      (RoomTable.sweepRoom order now ([], table) roomId).1
      ((RoomTable.sweepRoom order now ([], table) roomId).2.rooms[roomId]?) := by
  unfold RoomTable.sweepRoom
  simp only [found]
  split
  · split
    · next eligible =>
        obtain ⟨other, instanceId, initiatorClientId, others, present,
          forwarded, small, noJoin, noLeave, assigned, clients⟩ :=
            wellFormed.eligible eligible
        obtain rfl : room = other := by simpa [found] using present
        have release := commitDowngrade_released order found assigned clients
        rw [release.rooms, ExtTreeMap.getElem?_insert_self]
        exact .downgraded forwarded rfl
    · rw [setRoom_rooms, ExtTreeMap.getElem?_insert_self]
      exact .kept (.of_members fun _ _ present => present)
        fun _ _ present => present
  split
  · next clientId expired =>
      obtain ⟨forwarded, -⟩ := Room.of_expiredSfuClient expired
      rcases issueSfuLeave_cases table roomId clientId .disconnected with
        kept | ⟨other, member, instanceId, connectionId, present, -, -, -, -, -,
          issued⟩
      · rw [kept]
        simp only [setRoom_rooms, ExtTreeMap.getElem?_insert_self]
        exact .kept (.modifyMember room clientId _ (fun _ => rfl) fun _ => rfl)
          fun mode => by simp [forwarded] at mode
      · obtain rfl : room = other := by simpa [found] using present
        rw [issued]
        simp only [issueCommand_rooms, setRoom_rooms,
          ExtTreeMap.getElem?_insert_self]
        exact .kept (.of_members fun _ _ present => present)
          fun _ _ present => present
  split
  · simp only [found]
    exact .refl roomId room
  · next settled =>
      have direct : room.mode = .p2p := by simpa using settled
      rw [List.nil_append, setOrDropRoom_getElem?]
      unfold Room.expireMembers
      cases expired : room.expiredClients now with
      | nil =>
          simp only [Room.eraseMembers, List.foldl_nil, List.isEmpty_nil, if_true,
            Option.toList_none]
          split
          · exact .emptied
          · exact .refl roomId room
      | cons clientId gone =>
          obtain ⟨member, present, -⟩ := Room.mem_expiredClients.1
            (expired ▸ List.mem_cons_self : clientId ∈ room.expiredClients now)
          exact room.promoteSurvivor_sheds (wellFormed.rooms roomId room found)
            direct roomId (clientId :: gone) List.mem_cons_self
            (by simp [present])

/-- The promotions that a removal yields. -/
def promotionsOf : Except String RemovalResult -> List Promotion
  | .ok (.complete promotion) => promotion.toList
  | _ => []

/-- What a removal does to its room. -/
theorem WellFormed.remove_sheds
    (wellFormed : table.WellFormed)
    (authorityRequestId : Nat)
    {roomId : RoomId}
    {room : Room}
    (clientId : ClientId)
    (token : String)
    (found : table.rooms[roomId]? = some room) :
    room.Sheds roomId
      (promotionsOf (table.remove authorityRequestId roomId clientId token).1)
      ((table.remove authorityRequestId roomId clientId
        token).2.rooms[roomId]?) := by
  have refused : room.Sheds roomId [] table.rooms[roomId]? :=
    found ▸ .refl roomId room
  unfold RoomTable.remove
  simp only [found]
  cases present : room.members[clientId]? with
  | none => exact refused
  | some member =>
      dsimp only
      split
      · exact refused
      split
      · exact refused
      next settled =>
      simp only [Bool.or_eq_true, decide_eq_true_eq, not_or] at settled
      cases mode : room.mode with
      | sfu =>
          dsimp only
          split
          · exact refused
          split
          · exact refused
          · simp only [issueCommand_rooms, setRoom_rooms,
              ExtTreeMap.getElem?_insert_self]
            exact .kept (.of_members fun _ _ present => present)
              fun _ _ present => present
      | failed =>
          simp only [promotionsOf, setOrDropRoom_getElem?, Option.toList_none]
          split
          · exact .emptied
          · refine .kept (.of_members fun otherId other stays => ?_)
              fun direct => by simp [mode] at direct
            rw [Room.eraseMember_members, ExtTreeMap.getElem?_erase] at stays
            split at stays
            · cases stays
            · exact stays
      | p2p =>
          simp only [promotionsOf, setOrDropRoom_getElem?]
          exact room.promoteSurvivor_sheds (wellFormed.rooms roomId room found)
            mode roomId [clientId] List.mem_cons_self (by simp [present])
      | upgrading => exact absurd mode settled.1.1

theorem remove_elsewhere
    (table : RoomTable)
    (authorityRequestId : Nat)
    (roomId otherId : RoomId)
    (clientId : ClientId)
    (token : String)
    (other : otherId ≠ roomId) :
    (table.remove authorityRequestId roomId clientId token).2.rooms[otherId]? =
      table.rooms[otherId]? := by
  have stored (room : Room) :
      (table.setRoom roomId room).rooms[otherId]? = table.rooms[otherId]? := by
    rw [setRoom_rooms]
    grind
  have dropped (room : Room) :
      (table.setOrDropRoom roomId room).rooms[otherId]? =
        table.rooms[otherId]? :=
    (TouchesOnly.of_setOrDropRoom table roomId room).rooms otherId other
  unfold RoomTable.remove
  dsimp only
  split <;> try rfl
  split <;> try rfl
  split <;> try rfl
  split <;> try rfl
  split
  · split <;> try rfl
    split <;> try rfl
    rw [issueCommand_rooms]
    exact stored _
  · exact dropped _
  · exact dropped _

/-- What a removal or a timeout promotes, and what it leaves of the rooms. -/
structure Promotes
    (table after : RoomTable)
    (promotions : List Promotion) : Prop where
  once : (promotions.map (·.roomId)).Nodup
  exactly : ∀ promotion, promotion ∈ promotions ↔
    ∃ (roomId : RoomId) (room kept : Room) (survivorId : ClientId)
      (survivor : Member),
      table.rooms[roomId]? = some room ∧ after.rooms[roomId]? = some kept ∧
      room.Halves kept survivorId survivor ∧ survivor.registered = true ∧
      promotion = ⟨roomId, survivorId, room.signalEpoch⟩
  survivors : ∀ (roomId : RoomId) (room kept : Room) (survivorId : ClientId)
    (survivor : Member),
    table.rooms[roomId]? = some room -> after.rooms[roomId]? = some kept ->
    room.Halves kept survivorId survivor ->
    kept.members[survivorId]? = some survivor.promote
  others : ∀ (roomId : RoomId) (kept : Room),
    after.rooms[roomId]? = some kept ->
    ∃ room, table.rooms[roomId]? = some room ∧
      ((∃ survivorId survivor, room.Halves kept survivorId survivor) ∨
        (room.mode = .sfu ∧ kept.mode = .p2p) ∨
        room.Retains kept)

/-- The promotions of a call are those of the rooms that it visits. -/
theorem promotes_of_sheds
    {after : RoomTable}
    (roomIds : List RoomId)
    (nodup : roomIds.Nodup)
    (promoted : RoomId -> List Promotion)
    (stored : ∀ roomId ∈ roomIds, (table.rooms[roomId]?).isSome = true)
    (sheds : ∀ (roomId : RoomId) (room : Room),
      table.rooms[roomId]? = some room ->
      room.Sheds roomId (if roomId ∈ roomIds then promoted roomId else [])
        after.rooms[roomId]?)
    (created : ∀ roomId : RoomId, table.rooms[roomId]? = none ->
      after.rooms[roomId]? = none) :
    Promotes table after (roomIds.flatMap promoted) where
  once := by
    rw [List.map_flatMap]
    have each : ∀ roomId ∈ roomIds,
        ((promoted roomId).map (·.roomId)).Sublist [roomId] := by
      intro roomId listed
      obtain ⟨room, found⟩ := Option.isSome_iff_exists.1 (stored roomId listed)
      have lost := sheds roomId room found
      rw [if_pos listed] at lost
      exact lost.promotions_sublist
    have fewer := List.Sublist.flatMap_right roomIds each
    rw [List.flatMap_singleton'] at fewer
    exact fewer.nodup nodup
  exactly := by
    intro promotion
    rw [List.mem_flatMap]
    constructor
    · rintro ⟨roomId, listed, inside⟩
      obtain ⟨room, found⟩ := Option.isSome_iff_exists.1 (stored roomId listed)
      have lost := sheds roomId room found
      rw [if_pos listed] at lost
      obtain ⟨kept, survivorId, survivor, same, halves, registered, rfl⟩ :=
        (lost.mem_promotions promotion).1 inside
      exact ⟨roomId, room, kept, survivorId, survivor, found, same, halves,
        registered, rfl⟩
    · rintro ⟨roomId, room, kept, survivorId, survivor, found, same, halves,
        registered, rfl⟩
      have inside := ((sheds roomId room found).mem_promotions _).2
        ⟨kept, survivorId, survivor, same, halves, registered, rfl⟩
      split at inside
      · next listed => exact ⟨roomId, listed, inside⟩
      · cases inside
  survivors := by
    intro roomId room kept survivorId survivor found same halves
    have lost := sheds roomId room found
    rw [same] at lost
    exact lost.survivor_promoted halves
  others := by
    intro roomId kept same
    cases found : table.rooms[roomId]? with
    | none => simp [created roomId found] at same
    | some room =>
        have lost := sheds roomId room found
        rw [same] at lost
        exact ⟨room, rfl, lost.cases_of_kept⟩

/-- A removal promotes the survivor of its own room only. -/
theorem WellFormed.remove_promotes
    (wellFormed : table.WellFormed)
    (authorityRequestId : Nat)
    (roomId : RoomId)
    (clientId : ClientId)
    (token : String) :
    Promotes table (table.remove authorityRequestId roomId clientId token).2
      (promotionsOf
        (table.remove authorityRequestId roomId clientId token).1) := by
  have elsewhere (otherId : RoomId) (other : otherId ≠ roomId) :=
    remove_elsewhere table authorityRequestId roomId otherId clientId token other
  cases found : table.rooms[roomId]? with
  | none =>
      have refused : table.remove authorityRequestId roomId clientId token =
          (.error "ROOM_NOT_FOUND", table) := by
        simp [RoomTable.remove, found]
      rw [refused]
      refine promotes_of_sheds [] List.nodup_nil (fun _ => []) (by simp) ?_
        fun _ absent => absent
      intro otherId room stored
      rw [stored]
      exact .refl otherId room
  | some room =>
      have whole := @promotes_of_sheds table
        (table.remove authorityRequestId roomId clientId token).2
        [roomId] (List.nodup_singleton roomId)
        (fun _ => promotionsOf
          (table.remove authorityRequestId roomId clientId token).1)
        (fun otherId listed => by
          simp [List.mem_singleton.1 listed, Option.isSome_of_eq_some found])
        ?_ ?_
      · simpa using whole
      · intro otherId other stored
        by_cases same : otherId = roomId
        · subst same
          simpa using wellFormed.remove_sheds authorityRequestId clientId token
            stored
        · rw [elsewhere otherId same, stored, if_neg (by simpa using same)]
          exact .refl otherId other
      · intro otherId absent
        rw [elsewhere otherId (by rintro rfl; simp [found] at absent), absent]

/-- Giving rooms up keeps the flags and the queues of the members that stay. A
room that changes is one whose upgrade was aborted, or has failed. -/
structure Spares
    (table after : RoomTable) : Prop where
  wellFormed : after.WellFormed
  rooms : ∀ (roomId : RoomId) (kept : Room), after.rooms[roomId]? = some kept ->
    ∃ room, table.rooms[roomId]? = some room ∧ room.Retains kept ∧
      (kept = room ∨ room.mode = .upgrading ∨ kept.mode = .failed)

namespace Spares

variable {middle after : RoomTable}

theorem refl (wellFormed : table.WellFormed) : Spares table table :=
  ⟨wellFormed, fun _ kept found => ⟨kept, found, .refl, Or.inl rfl⟩⟩

theorem trans
    (first : Spares table middle)
    (second : Spares middle after) :
    Spares table after where
  wellFormed := second.wellFormed
  rooms := by
    intro roomId kept found
    obtain ⟨between, stored, later, how⟩ := second.rooms roomId kept found
    obtain ⟨room, was, earlier, before⟩ := first.rooms roomId between stored
    refine ⟨room, was, earlier.trans later, ?_⟩
    rcases how with rfl | upgrading | failed
    · exact before
    · rcases before with rfl | running | failed
      · exact Or.inr (Or.inl upgrading)
      · exact Or.inr (Or.inl running)
      · simp [upgrading] at failed
    · exact Or.inr (Or.inr failed)

/-- One room is stored again. -/
theorem of_insert
    {roomId : RoomId}
    {room given : Room}
    (wellFormed : after.WellFormed)
    (found : table.rooms[roomId]? = some room)
    (rooms : after.rooms = table.rooms.insert roomId given)
    (retains : room.Retains given)
    (how : room.mode = .upgrading ∨ given.mode = .failed) :
    Spares table after where
  wellFormed := wellFormed
  rooms := by
    intro otherId kept stored
    rw [rooms, ExtTreeMap.getElem?_insert] at stored
    split at stored
    · next same =>
        obtain rfl := Std.LawfulEqCmp.eq_of_compare same
        obtain rfl := Option.some.inj stored
        exact ⟨room, found, retains, Or.inr how⟩
    · exact ⟨kept, stored, .refl, Or.inl rfl⟩

/-- A room of an expired worker is given up. -/
theorem expireRoom
    (wellFormed : table.WellFormed)
    (order : VisitOrder)
    (roomId : RoomId) :
    Spares table (RoomTable.expireRoom order table roomId) := by
  unfold RoomTable.expireRoom
  cases found : table.rooms[roomId]? with
  | none => exact refl wellFormed
  | some room =>
      have shape := wellFormed.rooms roomId room found
      dsimp only
      split
      · next mode =>
          obtain ⟨upgrade, upgrading, -⟩ := shape.upgrading mode
          obtain ⟨instanceId, assigned⟩ := Option.isSome_iff_exists.1
            (shape.upgrade upgrade upgrading).2.2.1
          obtain ⟨leavers, answers, release, -⟩ := abortUpgrade_released
            table "WORKER_UNAVAILABLE" found upgrading assigned
          refine of_insert (wellFormed.abortUpgrade roomId _) found
            release.rooms (.of_members fun clientId member present => ?_)
            (Or.inl mode)
          simp only [Room.release, Room.rollBack, Room.eraseMember,
            ExtTreeMap.getElem?_erase] at present
          split at present
          · cases present
          · exact present
      · next settled =>
          refine of_insert ((wellFormed.setRoom (shape.fail settled)).pushActions
            _) found
            (show (table.failExpired order roomId room).rooms =
              table.rooms.insert roomId room.fail by simp [failExpired])
            (.of_members fun clientId member present => ?_) (Or.inr rfl)
          unfold Room.fail at present
          split at present
          · exact present
          · rw [ExtTreeMap.getElem?_erase] at present
            split at present
            · cases present
            · exact present

/-- An expired worker is given up. -/
theorem expireWorker
    (wellFormed : table.WellFormed)
    (order : VisitOrder)
    (instanceId : InstanceId) :
    Spares table (RoomTable.expireWorker order table instanceId) := by
  obtain ⟨remaining, given⟩ := expireWorker_eq order table instanceId
  have emptied : Spares table
      (remaining.foldl (RoomTable.expireRoom order) table) := by
    clear given
    induction remaining using List.reverseRecOn with
    | nil => exact refl wellFormed
    | append_singleton remaining roomId inductionHypothesis =>
        rw [List.foldl_append]
        exact inductionHypothesis.trans
          (expireRoom inductionHypothesis.wellFormed order roomId)
  obtain ⟨wellFormed, rooms⟩ := emptied
  rw [given]
  refine ⟨(wellFormed.retireAll _).modifyWorker _ _ fun _ _ connected => ?_, ?_⟩
  · cases connected
  intro roomId kept found
  rw [(releaseWorker_facts _ instanceId).1] at found
  exact rooms roomId kept found

/-- All expired workers are given up. -/
theorem givenUp
    (wellFormed : table.WellFormed)
    (order : VisitOrder)
    (now : Instant) :
    Spares table (table.givenUp order now) := by
  unfold RoomTable.givenUp
  generalize table.expiredWorkers order now = remaining
  induction remaining using List.reverseRecOn with
  | nil => exact refl wellFormed
  | append_singleton remaining instanceId inductionHypothesis =>
      rw [List.foldl_append]
      exact inductionHypothesis.trans
        (expireWorker inductionHypothesis.wellFormed order instanceId)

end Spares

/-- What a timeout promotes is decided by the rooms as the expiry of the workers
has left them. -/
theorem WellFormed.handleTimeout_promotes
    (wellFormed : table.WellFormed)
    (order : VisitOrder)
    (now : Instant) :
    Promotes (table.givenUp order now) (table.handleTimeout order now).2
      (table.handleTimeout order now).1 := by
  obtain ⟨roomIds, arrived, nodup, listed, visits, promoted⟩ :=
    handleTimeout_sweeps order now wellFormed
  rw [promoted]
  refine promotes_of_sheds roomIds nodup _ (fun roomId => (listed roomId).1) ?_
    ?_
  · intro roomId room found
    obtain ⟨arrives, same, swept⟩ := visits roomId
    rw [if_pos ((listed roomId).2 (by simp [found])), swept]
    exact arrives.wellFormed.sweepRoom_sheds order now (same.trans found)
  · intro roomId absent
    obtain ⟨-, same, swept⟩ := visits roomId
    rw [swept]
    rw [absent] at same
    simp [RoomTable.sweepRoom, same]

end RoomTable

/-- A removal or a timeout promotes exactly the registered members that it
leaves alone in a P2P room of two. Every survivor of such a room leads it with
an empty queue, and nothing but a downgrade changes the flag or the queue of a
member of another room. A timeout decides on the rooms as the expiry of the
workers has left them, where only aborted upgrades and failed rooms differ. -/
theorem promotions_exact
    {reconnectGrace : Duration}
    {history : History}
    {table : RoomTable}
    (run : (RoomTable.machine reconnectGrace).Run history table) :
    (∀ authorityRequestId roomId clientId token,
      Promotes table (table.remove authorityRequestId roomId clientId token).2
        (promotionsOf
          (table.remove authorityRequestId roomId clientId token).1)) ∧
    ∀ order now,
      Spares table (table.givenUp order now) ∧
      Promotes (table.givenUp order now) (table.handleTimeout order now).2
        (table.handleTimeout order now).1 := by
  have wellFormed := (consistent_of_run run).wellFormed
  exact ⟨wellFormed.remove_promotes, fun order now =>
    ⟨Spares.givenUp wellFormed order now,
      wellFormed.handleTimeout_promotes order now⟩⟩

/-- The second of two members registers, the first never does. -/
def expectantOperations : List Operation :=
  [.admitClient 1 0 exampleRoomId 1 "first",
    .admitClient 2 0 exampleRoomId 2 "second",
    .register exampleRoomId 2 "second"]

/-- The grace of the first member passes, and the second leads the room. -/
theorem promotions_exact_expired :
    ∃ survivor : Member,
      ((RoomTable.played 0 expectantOperations).2.handleTimeout
        .sorted 0).2.member? exampleRoomId 2 = some survivor.promote := by
  have promoted : (⟨exampleRoomId, 2, 0⟩ : Promotion) ∈
      ((RoomTable.played 0 expectantOperations).2.handleTimeout .sorted 0).1 := by
    decide +kernel
  obtain ⟨-, promotes⟩ := (promotions_exact
    (RoomTable.played_run 0 expectantOperations)).2 .sorted 0
  obtain ⟨roomId, room, kept, survivorId, survivor, found, same, halves, -,
    named⟩ := (promotes.exactly _).1 promoted
  obtain ⟨rfl, rfl, -⟩ := Promotion.mk.inj named
  refine ⟨survivor, ?_⟩
  rw [RoomTable.member?, same]
  exact promotes.survivors _ room kept _ survivor found same halves

/-! ## Promotions are true -/

/-- The survivor leads its P2P room under the epoch that it is told. -/
def Promotion.Holds (promotion : Promotion) (room : Option Room) : Prop :=
  ∃ kept member, room = some kept ∧ kept.mode = .p2p ∧
    kept.signalEpoch = promotion.signalEpoch ∧
    kept.members[promotion.clientId]? = some member ∧
    member.registered = true ∧ member.isInitiator = true

theorem promoteSurvivor_holds
    {roomId : RoomId}
    {room kept : Room}
    {promotion : Promotion}
    (promoted : promoteSurvivor roomId room = (some promotion, kept)) :
    promotion.roomId = roomId ∧ promotion.Holds (some kept) := by
  unfold promoteSurvivor at promoted
  split at promoted
  · cases promoted
  next alone =>
  simp only [ne_eq, decide_not, Bool.or_eq_true, Bool.not_eq_true',
    decide_eq_false_iff_not, not_or, not_not] at alone
  split at promoted
  · cases promoted
  next clientId member rest listed =>
  dsimp only at promoted
  split at promoted
  · next registered =>
      cases promoted
      exact ⟨rfl, _, { member with isInitiator := true, queuedMessages := [] },
        rfl, alone.2, rfl, by simp, registered, rfl⟩
  · cases promoted

theorem Promotion.Holds.stored
    {promotion : Promotion}
    {table : RoomTable}
    {room : Room}
    (holds : promotion.Holds (some room)) :
    promotion.Holds (table.setOrDropRoom promotion.roomId
      room).rooms[promotion.roomId]? := by
  obtain ⟨_, member, same, direct, epoch, present, rest⟩ := holds
  cases same
  rw [setOrDropRoom_getElem?, if_neg]
  · exact ⟨_, member, rfl, direct, epoch, present, rest⟩
  · intro empty
    rw [ExtTreeMap.isEmpty_iff.1 empty] at present
    simp at present

namespace RoomTable

/-- The survivors whom a call promotes. -/
def promotionsBy (table : RoomTable) (call : Call) : List Promotion :=
  match call.operation with
  | .remove authorityRequestId roomId clientId token =>
      promotionsOf (table.remove authorityRequestId roomId clientId token).1
  | .handleTimeout now => (table.handleTimeout call.order now).1
  | _ => []

theorem remove_promotion_holds
    {table : RoomTable}
    {authorityRequestId : Nat}
    {roomId : RoomId}
    {clientId : ClientId}
    {token : String}
    {promotion : Promotion}
    (promoted : promotion ∈ promotionsOf
      (table.remove authorityRequestId roomId clientId token).1) :
    promotion.Holds (table.remove authorityRequestId roomId clientId
      token).2.rooms[promotion.roomId]? := by
  unfold remove at promoted ⊢
  split at promoted
  · cases promoted
  next room found =>
  split at promoted
  · cases promoted
  next member present =>
  split at promoted
  · cases promoted
  next known =>
  split at promoted
  · cases promoted
  next settled =>
  split at promoted
  · split at promoted
    · cases promoted
    · split at promoted <;> cases promoted
  · cases promoted
  · dsimp only at promoted ⊢
    rcases outcome : promoteSurvivor roomId (room.eraseMember clientId) with
      ⟨survivor, kept⟩
    rw [outcome] at promoted
    obtain rfl : survivor = some promotion := by
      simpa [promotionsOf, eq_comm] using promoted
    obtain ⟨rfl, holds⟩ := promoteSurvivor_holds outcome
    rw [if_neg known, if_neg settled]
    exact holds.stored

theorem sweepRoom_promotion_holds
    {table : RoomTable}
    {order : VisitOrder}
    {now : Instant}
    {roomId : RoomId}
    {promotion : Promotion}
    (promoted : promotion ∈ (sweepRoom order now ([], table) roomId).1) :
    promotion.roomId = roomId ∧
      promotion.Holds (sweepRoom order now ([], table)
        roomId).2.rooms[roomId]? := by
  unfold sweepRoom at promoted ⊢
  dsimp only at promoted ⊢
  split at promoted
  · cases promoted
  next room found =>
  split at promoted
  · split at promoted <;> cases promoted
  next patient =>
  split at promoted
  · split at promoted <;> cases promoted
  next waiting =>
  split at promoted
  · cases promoted
  next direct =>
  simp only [patient, direct, if_false]
  rcases outcome : room.expireMembers roomId now with ⟨survivor, kept⟩
  rw [outcome] at promoted
  obtain rfl : survivor = some promotion := by
    simpa [eq_comm] using promoted
  unfold Room.expireMembers at outcome
  dsimp only at outcome
  split at outcome
  · cases outcome
  · obtain ⟨rfl, holds⟩ := promoteSurvivor_holds outcome
    exact ⟨rfl, holds.stored⟩

/-- Whoever is promoted leads its room after the call. -/
theorem Consistent.promotion_holds
    {table : RoomTable}
    {call : Call}
    {promotion : Promotion}
    (consistent : table.Consistent)
    (promoted : promotion ∈ table.promotionsBy call) :
    promotion.Holds (table.step call).rooms[promotion.roomId]? := by
  unfold promotionsBy at promoted
  split at promoted
  · next asked =>
      simp only [RoomTable.step, asked]
      exact remove_promotion_holds promoted
  · next now asked =>
      simp only [RoomTable.step, asked]
      obtain ⟨roomIds, arrived, -, -, visits, promotions⟩ :=
        handleTimeout_sweeps call.order now consistent.wellFormed
      rw [promotions] at promoted
      obtain ⟨roomId, -, there⟩ := List.mem_flatMap.1 promoted
      obtain ⟨rfl, holds⟩ := sweepRoom_promotion_holds there
      rw [(visits promotion.roomId).2.2]
      exact holds
  · cases promoted

end RoomTable

end V2
end Signaling
