import Signaling.V2.RoomMoves

/-!
# One offerer

Every P2P room has exactly one member that offers. The flag is set with the
first member, taken over by a survivor and elected anew by a downgrade; an
upgrade in flight keeps the one that its rollback returns to.
-/

namespace Signaling
namespace V2

open Std (ExtTreeMap)

/-- A member of the room that is its initiator. -/
def Room.Offers (room : Room) (clientId : ClientId) : Prop :=
  ∃ member : Member, room.members[clientId]? = some member ∧
    member.isInitiator = true

/-- A P2P room has one offerer, and so has a room that an upgrade can return to
P2P, where the joining client is not it. -/
structure Room.Elected (room : Room) : Prop where
  direct : room.mode = .p2p -> ∃! clientId, room.Offers clientId
  upgrade : ∀ upgrade, room.upgrade = some upgrade ->
    ¬room.Offers upgrade.joiningClientId ∧ ∃! clientId, room.Offers clientId

/-- The call removes the offerer of a failed room whose upgrade record is still
in place. -/
def Call.UnseatsOfferer
    (call : Call)
    (table : RoomTable) : Prop :=
  ∃ roomId clientId room, call.Removes table roomId clientId ∧
    table.rooms[roomId]? = some room ∧ room.mode = .failed ∧
    room.upgrade.isSome ∧ room.Offers clientId

/-- The removal from a failed room leaves the offerer of a running upgrade
alone. -/
def KeepsOfferer
    (roomId : RoomId)
    (room : Option Room) : Move -> Prop
  | .removeFailed changedId clientId => changedId = roomId ->
      ∀ stored : Room, room = some stored -> stored.upgrade.isSome ->
        ¬stored.Offers clientId
  | _ => True

namespace Room

variable
  {room after : Room}
  {clientId : ClientId}

/-- Replacing a member by one with the same flag changes no offerer. -/
theorem offers_insertMember
    {former : Member}
    (member : Member)
    (present : room.members[clientId]? = some former)
    (same : member.isInitiator = former.isInitiator)
    (otherId : ClientId) :
    (room.insertMember clientId member).Offers otherId ↔
      room.Offers otherId := by
  simp only [Offers, insertMember]
  grind

/-- A further member that does not offer changes no offerer. -/
theorem offers_insertNew
    {member : Member}
    (fresh : room.members.contains clientId = false)
    (silent : member.isInitiator = false)
    (otherId : ClientId) :
    (room.insertMember clientId member).Offers otherId ↔
      room.Offers otherId := by
  simp only [Offers, insertMember]
  grind

/-- Erasing a member leaves the other offerers. -/
theorem offers_eraseMember (otherId : ClientId) :
    (room.eraseMember clientId).Offers otherId ↔
      otherId ≠ clientId ∧ room.Offers otherId := by
  simp only [Offers, eraseMember]
  grind

/-- Members that are changed in place keep their flags. -/
theorem offers_map
    (update : ClientId -> Member -> Member)
    (members : after.members = room.members.map update)
    (same : ∀ clientId member,
      (update clientId member).isInitiator = member.isInitiator)
    (otherId : ClientId) :
    after.Offers otherId ↔ room.Offers otherId := by
  simp only [Offers, members, ExtTreeMap.getElem?_map,
    Option.map_eq_some_iff]
  grind

/-- Binding a member changes no offerer. -/
theorem offers_registerMember
    {member : Member}
    (present : room.members[clientId]? = some member)
    (otherId : ClientId) :
    (room.registerMember clientId member).Offers otherId ↔
      room.Offers otherId := by
  simp only [Offers, registerMember_members]
  grind

/-- Dropping members leaves no more than before. -/
theorem size_eraseMembers_le
    (room : Room)
    (clients : List ClientId) :
    (room.eraseMembers clients).members.size ≤ room.members.size := by
  induction clients generalizing room with
  | nil => exact Nat.le_refl _
  | cons first clients inductionHypothesis =>
      exact (inductionHypothesis (room.eraseMember first)).trans
        ExtTreeMap.size_erase_le

/-- Dropping at least one member of a room of two leaves at most one. -/
theorem size_eraseMembers_of_mem
    {clients : List ClientId}
    (space : room.members.size ≤ maxP2pMembers)
    (joined : clientId ∈ room.members)
    (dropped : clientId ∈ clients) :
    (room.eraseMembers clients).members.size ≤ 1 := by
  induction clients generalizing room with
  | nil => simp at dropped
  | cons first clients inductionHypothesis =>
      by_cases here : first = clientId
      · subst here
        refine (size_eraseMembers_le (room.eraseMember first) clients).trans ?_
        simp only [eraseMember, maxP2pMembers] at space ⊢
        grind
      · refine inductionHypothesis (ExtTreeMap.size_erase_le.trans space) ?_ ?_
        · simp only [eraseMember]
          grind
        · grind

/-- The only member of a room that has been promoted is its offerer. -/
theorem promoteOnly_offers
    (alone : room.members.size = 1) :
    ∃! clientId, room.promoteOnly.Offers clientId := by
  have one : room.members.keys.length = 1 := by simpa using alone
  obtain ⟨clientId, only⟩ := List.length_eq_one_iff.1 one
  have present (otherId : ClientId) :
      otherId ∈ room.members ↔ otherId = clientId := by
    rw [← ExtTreeMap.mem_keys, only]
    simp
  refine ⟨clientId, ?_, ?_⟩
  · have here := (present clientId).2 rfl
    exact ⟨{ room.members[clientId] with
      isInitiator := true, queuedMessages := [] },
      by simp [promoteOnly, here], rfl⟩
  · rintro otherId ⟨member, found, -⟩
    refine (present otherId).1 ?_
    simp only [promoteOnly, ExtTreeMap.getElem?_map,
      Option.map_eq_some_iff] at found
    grind

namespace Elected

/-- A change that keeps the mode, the upgrade and the offerers. -/
theorem of_offers
    (elected : room.Elected)
    (mode : after.mode = room.mode)
    (upgrade : after.upgrade = room.upgrade)
    (same : ∀ clientId, after.Offers clientId ↔ room.Offers clientId) :
    after.Elected where
  direct := by
    intro direct
    simpa only [same] using elected.direct (mode ▸ direct)
  upgrade := by
    intro running present
    simpa only [same] using elected.upgrade running (upgrade ▸ present)

/-- A room outside P2P with no upgrade in flight owes nothing. -/
theorem of_settled
    (settled : room.mode ≠ .p2p)
    (idle : room.upgrade = none) :
    room.Elected where
  direct := fun direct => absurd direct settled
  upgrade := by simp [idle]

/-- A failed room keeps what its upgrade needs. -/
theorem failed (elected : room.Elected) :
    { room with mode := .failed }.Elected where
  direct := by simp
  upgrade := elected.upgrade

/-- The rollback of an upgrade returns to the offerer of before. -/
theorem release
    {upgrade : Upgrade}
    (elected : room.Elected)
    (running : room.upgrade = some upgrade) :
    (room.release upgrade.joiningClientId).Elected := by
  obtain ⟨silent, offerer, offers, only⟩ := elected.upgrade upgrade running
  refine ⟨fun _ => ⟨offerer, ?_, fun otherId other => ?_⟩, ?_⟩
  · refine (offers_eraseMember offerer).2 ⟨?_, offers⟩
    rintro rfl
    exact silent offers
  · exact only otherId ((offers_eraseMember otherId).1 other).2
  · simp [Room.release, Room.rollBack]

/-- What remains of a P2P room after a removal has one offerer: the survivor is
promoted. -/
theorem promote
    {roomId : RoomId}
    {stored : Room}
    (few : room.members.size ≤ 1)
    (direct : room.mode = .p2p)
    (idle : room.upgrade = none)
    (present : (promoteSurvivor roomId room).2.stored = some stored) :
    stored.Elected := by
  rw [promoteSurvivor_eq] at present
  split at present
  · rename_i alone
    obtain rfl := Room.eq_of_stored present
    exact ⟨fun _ => promoteOnly_offers alone.1, by simp [promoteOnly, idle]⟩
  · rename_i crowded
    have nobody : room.members.size = 0 := by
      have several : room.members.size ≠ 1 :=
        fun alone => crowded ⟨alone, direct⟩
      omega
    simp [Room.stored, ExtTreeMap.isEmpty_eq_size_beq_zero, nobody] at present

end Elected
end Room

namespace RoomMoved

variable
  {roomId : RoomId}
  {move : Move}
  {room after : Option Room}

/-- Every move that keeps the offerer of a running upgrade keeps one offerer. -/
theorem elected
    (moved : RoomMoved roomId move room after)
    (keeps : KeepsOfferer roomId room move)
    (wellFormed : ∀ stored, room = some stored -> stored.WellFormed)
    (elected : ∀ stored, room = some stored -> stored.Elected)
    (stored : Room)
    (present : after = some stored) :
    stored.Elected := by
  cases moved with
  | kept => exact elected stored present
  | create clientId now grace token lifecycleId =>
      cases present
      have first : (Room.create clientId
          (newMember now grace token true lifecycleId)).Offers clientId :=
        ⟨newMember now grace token true lifecycleId, by simp [Room.create], rfl⟩
      refine ⟨fun _ => ⟨clientId, first, ?_⟩, by simp [Room.create]⟩
      rintro otherId ⟨member, found, -⟩
      simp only [Room.create] at found
      grind
  | joinDirect now grace token lifecycleId fresh direct space =>
      cases present
      exact (elected _ rfl).of_offers rfl rfl
        (Room.offers_insertNew fresh rfl)
  | beginUpgrade now grace token lifecycleId lifecycle instanceId fresh direct
      full =>
      rename_i room clientId authorityRequestId
      cases present
      have same (otherId : ClientId) :
          (room.startUpgrade authorityRequestId clientId
            (newMember now grace token false lifecycleId) lifecycle
            instanceId).Offers otherId ↔ room.Offers otherId :=
        (Room.offers_map (fun clientId member =>
          { member with lifecycleId := lifecycle clientId }) rfl
          (fun _ _ => rfl) otherId).trans (Room.offers_insertNew fresh rfl _)
      refine ⟨by simp [Room.startUpgrade], fun upgrade running => ?_⟩
      simp only [same]
      refine ⟨?_, (elected room rfl).direct direct⟩
      cases running
      rintro ⟨member, found, -⟩
      grind
  | beginJoin now grace token lifecycleId fresh forwarded noJoin noLeave =>
      cases present
      refine (elected _ rfl).of_offers rfl rfl fun otherId => ?_
      exact Room.offers_insertNew fresh rfl otherId
  | register settled found unregistered =>
      cases present
      exact (elected _ rfl).of_offers (by simp) (by simp)
        (Room.offers_registerMember found)
  | dropWithLeave found registered forwarded noLeave =>
      rename_i room clientId member
      cases present
      exact (elected _ rfl).of_offers rfl rfl
        (Room.offers_insertMember { member with registered := false } found rfl)
  | dropWithGrace deadline found registered =>
      cases present
      exact (elected _ rfl).of_offers rfl rfl
        (Room.offers_insertMember _ found rfl)
  | queueMessage found settled direct =>
      cases present
      exact (elected _ rfl).of_offers rfl rfl
        (Room.offers_insertMember _ found rfl)
  | requestLeave | retryLeave | clearDeadline | refuseLeave | completeJoin =>
      cases present
      exact (elected _ rfl).of_offers rfl rfl fun _ => Iff.rfl
  | advanceUpgrade requestId upgrading unfinished =>
      cases present
      have kept := (elected _ rfl).upgrade _ upgrading
      refine ⟨(elected _ rfl).direct, fun upgrade running => ?_⟩
      cases running
      exact kept
  | commitUpgrade requestId upgrading finished =>
      cases present
      exact .of_settled (by simp [Room.commitSfu]) (by simp [Room.commitSfu])
  | abortUpgrade requestId upgrading =>
      cases present
      exact (elected _ rfl).release upgrading
  | expireUpgrade instanceId upgrading running =>
      cases present
      exact (elected _ rfl).release running
  | reportFailure | refuseSync =>
      cases present
      exact (elected _ rfl).failed
  | removeFailed found noJoin noLeave failed =>
      rename_i room clientId member
      obtain rfl := Room.eq_of_stored present
      refine ⟨fun direct => ?_, fun upgrade running => ?_⟩
      · simp [Room.eraseMember, failed] at direct
      · have seated : ¬room.Offers clientId :=
          keeps rfl room rfl (Option.isSome_iff_exists.2 ⟨upgrade, running⟩)
        have same (otherId : ClientId) :
            (room.eraseMember clientId).Offers otherId ↔
              room.Offers otherId := by
          rw [Room.offers_eraseMember]
          refine ⟨And.right, fun offers => ⟨?_, offers⟩⟩
          rintro rfl
          exact seated offers
        simpa only [same] using (elected room rfl).upgrade upgrade running
  | removeDirect found noJoin noLeave direct =>
      rename_i room clientId member
      obtain ⟨space, -, idle, -⟩ := (wellFormed room rfl).direct direct
      have few : (room.eraseMember clientId).members.size ≤ 1 :=
        Room.size_eraseMembers_of_mem space
          (ExtTreeMap.mem_iff_isSome_getElem?.2 (by simp [found]))
          (List.mem_singleton_self clientId)
      exact .promote few direct idle present
  | expireMembers now direct =>
      rename_i room
      obtain ⟨space, -, idle, -⟩ := (wellFormed room rfl).direct direct
      unfold Room.expireMembers at present
      dsimp only at present
      split at present
      · rename_i nobody
        rw [List.isEmpty_iff.1 nobody] at present
        obtain rfl := Room.eq_of_stored present
        exact elected _ rfl
      · rename_i somebody
        obtain ⟨clientId, expired⟩ := List.exists_mem_of_ne_nil _
          (fun none => somebody (List.isEmpty_iff.2 none))
        have joined : clientId ∈ room.members :=
          ExtTreeMap.mem_keys.1 (List.mem_filter.1 expired).1
        exact .promote (Room.size_eraseMembers_of_mem space joined expired)
          (by rw [Room.eraseMembers_eq]; exact direct)
          (by rw [Room.eraseMembers_eq]; exact idle) present
  | refuseJoin requestId joining =>
      rename_i room pendingJoin
      cases present
      have idle := (wellFormed room rfl).idle (Or.inl (by simp [joining]))
      refine .of_settled (fun direct => ?_) idle
      simp [((wellFormed room rfl).direct direct).2.2.2.1] at joining
  | completeLeave requestId deadline leaving armed =>
      rename_i room leave clientId
      obtain rfl := Room.eq_of_stored present
      have idle := (wellFormed room rfl).idle (Or.inr (by simp [leaving]))
      refine .of_settled (fun direct => ?_) idle
      simp [((wellFormed room rfl).direct direct).2.2.2.2] at leaving
  | expireRoom instanceId settled =>
      rename_i room
      cases present
      refine ⟨by simp [Room.fail], fun upgrade running => ?_⟩
      have noJoin := ((wellFormed room rfl).upgrade upgrade running).2.2.2.1
      simpa [Room.fail, Room.Offers, noJoin] using
        (elected room rfl).upgrade upgrade running
  | downgrade forwarded small noJoin noLeave clients =>
      rename_i room initiatorClientId others
      cases present
      have idle := ((wellFormed room rfl).forwarded forwarded).2
      have here : initiatorClientId ∈ room.members := by
        rw [← ExtTreeMap.mem_keys, clients]
        exact List.mem_cons_self
      refine ⟨fun _ => ⟨initiatorClientId, ?_, ?_⟩, fun upgrade running => ?_⟩
      · exact ⟨{ room.members[initiatorClientId] with
          isInitiator := true, queuedMessages := [] },
          by simp [Room.commitP2p, here], rfl⟩
      · rintro otherId ⟨member, found, offers⟩
        simp only [Room.commitP2p, ExtTreeMap.getElem?_map,
          Option.map_eq_some_iff] at found
        obtain ⟨former, -, rfl⟩ := found
        simpa using offers
      · simp [Room.commitP2p, idle] at running
  | rearmGrace deadline found unregistered forwarded =>
      cases present
      refine .of_settled (by simp [forwarded]) ?_
      exact ((wellFormed _ rfl).forwarded forwarded).2

end RoomMoved

/-- Every P2P room has exactly one offerer, in every run in which the offerer of
a failed room is not removed while its upgrade record is in place. -/
theorem one_offerer
    {reconnectGrace : Duration}
    {history : History}
    {table : RoomTable}
    (run : (RoomTable.machine reconnectGrace).Run history table)
    (guarded : Machine.Guarded (fun table call => ¬call.UnseatsOfferer table)
      history)
    {roomId : RoomId}
    {room : Room}
    (found : table.rooms[roomId]? = some room)
    (direct : room.mode = .p2p) :
    ∃! clientId, room.Offers clientId := by
  refine (RoomTable.rooms_invariant Room.Elected KeepsOfferer
    (fun roomId move room after moved keeps wellFormed => moved.elected keeps
      wellFormed)
    (fun before call phase table move phase' table' guard taken arises
      consistent roomId => ?_) run guarded roomId room found).direct direct
  cases move <;> simp only [KeepsOfferer]
  case removeFailed changedId clientId =>
    rintro rfl stored present running offers
    obtain ⟨rfl, removes⟩ := arises
    cases taken with
    | removeFailed there member noJoin noLeave failed =>
        rw [there] at present
        cases present
        exact guard ⟨_, _, _, removes, there, failed, running, offers⟩

/-- The worker refuses the first join of an upgrade. -/
def abortedOperations : List Operation :=
  upgradingOperations ++ [refused 1]

theorem one_offerer_aborted :
    ∃ room : Room, (RoomTable.played 0 abortedOperations).2.rooms[
      exampleRoomId]? = some room ∧ ∃! clientId, room.Offers clientId := by
  have present : ((RoomTable.played 0 abortedOperations).2.rooms[
      exampleRoomId]?).isSome := by
    decide +kernel
  obtain ⟨room, found⟩ := Option.isSome_iff_exists.1 present
  have direct : (RoomTable.played 0 abortedOperations).2.mode?
      exampleRoomId = some .p2p := by
    decide +kernel
  simp only [RoomTable.mode?, found, Option.map_some,
    Option.some.injEq] at direct
  refine ⟨room, found, one_offerer (RoomTable.played_run 0 abortedOperations)
    (RoomTable.played_guarded 0 _ fun operation listed table unseats => ?_)
    found direct⟩
  obtain ⟨_, _, _, ⟨_, _, _, asked, -⟩, -⟩ := unseats
  dsimp only at asked
  subst asked
  simp [abortedOperations, upgradingOperations, refused] at listed

/-- The room fails in the middle of its upgrade, its first member is removed,
and the worker refuses the join. -/
def unseatedOperations : List Operation :=
  upgradingOperations ++
    [failureReport.operation, .remove 4 exampleRoomId 1 "first", refused 1]

/-- The rollback of the upgrade leaves a member without an offerer. -/
theorem abort_leaves_no_offerer :
    ¬∀ (history : History) (table : RoomTable) (roomId : RoomId) (room : Room),
      (RoomTable.machine 0).Run history table ->
      table.rooms[roomId]? = some room -> room.mode = .p2p ->
      room.members.isEmpty = false -> ∃! clientId, room.Offers clientId := by
  intro elects
  have present : ((RoomTable.played 0 unseatedOperations).2.rooms[
      exampleRoomId]?).isSome := by
    decide +kernel
  obtain ⟨room, found⟩ := Option.isSome_iff_exists.1 present
  have left : (RoomTable.played 0 unseatedOperations).2.rooms[
      exampleRoomId]?.map (fun room => (room.mode, room.members.isEmpty,
        room.members.toList.any fun entry => entry.2.isInitiator)) =
          some (.p2p, false, false) := by
    decide +kernel
  rw [found] at left
  simp only [Option.map_some, Option.some.injEq, Prod.mk.injEq] at left
  obtain ⟨direct, filled, nobody⟩ := left
  obtain ⟨clientId, ⟨member, joined, offers⟩, -⟩ := elects _ _ _ room
    (RoomTable.played_run 0 unseatedOperations) found direct filled
  have silent := List.any_eq_false.1 nobody (clientId, member)
    (ExtTreeMap.mem_toList_iff_getElem?_eq_some.2 joined)
  exact silent offers

end V2
end Signaling
