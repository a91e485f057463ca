import Signaling.V2.RoomMoves

/-!
# Members that have gone

A member without a browser has a way out of its room: a deadline for its
return, or a leave on its way to the worker. A refused leave is the one place
where the way out may be lost.
-/

namespace Signaling
namespace V2

open Std (ExtTreeMap ExtTreeSet)
open RoomTable

/-- The member has no browser and no deadline for one. -/
def Member.Adrift (member : Member) : Prop :=
  member.registered = false ∧ member.reconnectDeadline = none

/-- Every member without a browser has a deadline, or the pending leave is its
own. -/
def Room.Unhaunted (room : Room) : Prop :=
  ∀ (clientId : ClientId) (member : Member),
    room.members[clientId]? = some member -> member.registered = false ->
    member.reconnectDeadline.isSome ∨ ∃ leave,
      room.pendingLeave = some leave ∧ leave.clientId = clientId

/-- The answer to a leave ends the pending leave of a member that is adrift and
stays: the worker refused it, or the leave was another client's. -/
def Call.Haunts
    (call : Call)
    (table : RoomTable) : Prop :=
  ∃ instanceId requestId expected roomId clientId lifecycleId assignmentEpoch
    result room leave member,
    call.Answers table instanceId requestId
      (.sfuLeave expected roomId clientId lifecycleId assignmentEpoch) result ∧
    table.rooms[roomId]? = some room ∧
    room.mode = .sfu ∧
    room.pendingLeave = some leave ∧
    room.members[leave.clientId]? = some member ∧
    member.Adrift ∧
    ((PendingCommand.sfuLeave expected roomId clientId lifecycleId
      assignmentEpoch).Confirms instanceId result -> clientId ≠ leave.clientId)

/-- The pending leave of a member that is adrift does not end before the
member goes. -/
def KeepsExit
    (roomId : RoomId)
    (room : Option Room)
    (move : Move) : Prop :=
  match move with
  | .completeLeave _ leftFrom clientId => leftFrom = roomId ->
      ∀ (stored : Room) (leave : PendingLeave) (member : Member),
        room = some stored -> stored.mode = .sfu ->
        stored.pendingLeave = some leave ->
        stored.members[leave.clientId]? = some member -> member.Adrift ->
        clientId = leave.clientId
  | .refuseLeave _ leftFrom => leftFrom = roomId ->
      ∀ (stored : Room) (leave : PendingLeave) (member : Member),
        room = some stored -> stored.mode = .sfu ->
        stored.pendingLeave = some leave ->
        stored.members[leave.clientId]? = some member -> ¬member.Adrift
  | _ => True

/-- What a room keeps of this through its failure: a failed room is haunted
only when it cannot come back. -/
def Room.Escapable (room : Room) : Prop :=
  room.mode ≠ .failed ∨ room.upgrade.isSome -> room.Unhaunted

namespace Room.Unhaunted

variable
  {room after : Room}
  {clientId : ClientId}

/-- Members that are not adrift may be put into a room. -/
theorem of_members
    (unhaunted : room.Unhaunted)
    (leave : after.pendingLeave = room.pendingLeave)
    (members : ∀ (clientId : ClientId) (member : Member),
      after.members[clientId]? = some member -> ¬member.Adrift ∨
        ∃ former : Member, room.members[clientId]? = some former ∧
          former.registered = member.registered ∧
          former.reconnectDeadline = member.reconnectDeadline) :
    after.Unhaunted := by
  intro someId member present unregistered
  rw [leave]
  rcases members someId member present with kept | ⟨former, found, same, deadline⟩
  · refine Or.inl (Option.isSome_iff_ne_none.2 fun free => ?_)
    exact kept ⟨unregistered, free⟩
  · have exit := unhaunted someId former found (same.trans unregistered)
    rw [deadline] at exit
    exact exit

theorem insertMember
    {member : Member}
    (unhaunted : room.Unhaunted)
    (settled : ¬member.Adrift) :
    (room.insertMember clientId member).Unhaunted := by
  refine unhaunted.of_members rfl fun someId other found => ?_
  simp only [Room.insertMember] at found
  grind

theorem eraseMember
    (unhaunted : room.Unhaunted) :
    (room.eraseMember clientId).Unhaunted := by
  refine unhaunted.of_members rfl fun someId member found => ?_
  simp only [Room.eraseMember] at found
  grind

theorem release
    (unhaunted : room.Unhaunted) :
    (room.release clientId).Unhaunted := by
  refine unhaunted.of_members rfl fun someId member found => ?_
  simp only [Room.release, Room.rollBack, Room.eraseMember] at found
  grind

theorem fail
    (unhaunted : room.Unhaunted)
    (noJoin : room.pendingJoin = none)
    (noLeave : room.pendingLeave = none) :
    room.fail.Unhaunted := by
  refine unhaunted.of_members (by simp [Room.fail, noLeave])
    fun someId member found => ?_
  simp only [Room.fail, noJoin] at found
  exact Or.inr ⟨member, found, rfl, rfl⟩

/-- A leave may begin while no other one is pending. -/
theorem beginLeave
    {leave : PendingLeave}
    (unhaunted : room.Unhaunted)
    (noLeave : room.pendingLeave = none)
    (leaving : after.pendingLeave = some leave)
    (members : ∀ (someId : ClientId) (member : Member),
      after.members[someId]? = some member -> someId ≠ leave.clientId ->
      room.members[someId]? = some member) :
    after.Unhaunted := by
  intro someId member found unregistered
  by_cases same : someId = leave.clientId
  · exact Or.inr ⟨leave, leaving, same.symm⟩
  · have before := members someId member found same
    refine Or.inl ((unhaunted someId member before unregistered).resolve_right
      ?_)
    rintro ⟨other, pending, -⟩
    simp [noLeave] at pending

/-- A leave may end unless its client stays adrift. -/
theorem endLeave
    {leave : PendingLeave}
    (unhaunted : room.Unhaunted)
    (leaving : room.pendingLeave = some leave)
    (members : ∀ (someId : ClientId) (member : Member),
      after.members[someId]? = some member ->
      room.members[someId]? = some member)
    (settled : ∀ member : Member,
      after.members[leave.clientId]? = some member -> ¬member.Adrift) :
    after.Unhaunted := by
  intro someId member found unregistered
  rcases unhaunted someId member (members someId member found) unregistered
    with waiting | ⟨other, same, rfl⟩
  · exact Or.inl waiting
  · rw [leaving] at same
    cases same
    refine Or.inl (Option.isSome_iff_ne_none.2 fun free => ?_)
    exact settled member found ⟨unregistered, free⟩

end Room.Unhaunted

/-- A leave is pending in an SFU room, unless the room has failed for good. -/
theorem Room.WellFormed.forwarded_of_leaving
    {room : Room}
    {leave : PendingLeave}
    (wellFormed : room.WellFormed)
    (leaving : room.pendingLeave = some leave)
    (standing : room.mode ≠ .failed ∨ room.upgrade.isSome) :
    room.mode = .sfu := by
  have idle := wellFormed.idle (Or.inr (by simp [leaving]))
  have stands : room.mode ≠ .failed := by simpa [idle] using standing
  cases mode : room.mode with
  | sfu => rfl
  | failed => exact absurd mode stands
  | p2p => simp [(wellFormed.direct mode).2.2.2.2] at leaving
  | upgrading =>
      obtain ⟨upgrade, running, -⟩ := wellFormed.upgrading mode
      simp [idle] at running

namespace RoomMoved

variable
  {roomId : RoomId}
  {move : Move}
  {room after : Option Room}

/-- Every move that keeps the exits keeps a room escapable. -/
theorem escapable
    (moved : RoomMoved roomId move room after)
    (keeps : KeepsExit roomId room move)
    (wellFormed : ∀ stored, room = some stored -> stored.WellFormed)
    (escapable : ∀ stored, room = some stored -> stored.Escapable)
    (stored : Room)
    (present : after = some stored) :
    stored.Escapable := by
  have base {room : Room} (found : room.Escapable)
      (mode : stored.mode = room.mode) (upgrade : stored.upgrade = room.upgrade)
      (standing : stored.mode ≠ .failed ∨ stored.upgrade.isSome) :
      room.Unhaunted := found (by rwa [mode, upgrade] at standing)
  cases moved with
  | kept => exact escapable stored present
  | create clientId now grace token lifecycleId =>
      cases present
      intro standing someId member found unregistered
      simp only [Room.create] at found
      have same : member = newMember now grace token true lifecycleId := by
        grind
      subst same
      exact Or.inl rfl
  | joinDirect now grace token lifecycleId fresh direct space =>
      cases present
      intro standing
      exact (base (escapable _ rfl) rfl rfl standing).insertMember
        (by simp [Member.Adrift, newMember])
  | beginUpgrade now grace token lifecycleId lifecycle instanceId fresh direct
      full =>
      cases present
      intro standing
      refine (escapable _ rfl (Or.inl (by simp [direct]))).of_members rfl
        fun someId member found => ?_
      simp only [Room.startUpgrade, Room.relive, Room.insertMember,
        ExtTreeMap.getElem?_map, Option.map_eq_some_iff] at found
      obtain ⟨former, found, rfl⟩ := found
      grind [Member.Adrift, newMember]
  | beginJoin now grace token lifecycleId fresh forwarded noJoin noLeave =>
      cases present
      intro standing
      exact (escapable _ rfl (Or.inl (by simp [forwarded]))).insertMember
        (by simp [Member.Adrift, newMember])
  | register settled found unregistered =>
      rename_i room clientId member
      cases present
      intro standing
      refine (base (escapable _ rfl) (by simp) (by simp)
        standing).of_members (by simp) fun someId other listed => ?_
      rw [Room.registerMember_members] at listed
      grind [Member.Adrift]
  | dropWithLeave found registered forwarded noLeave =>
      rename_i room clientId member
      cases present
      intro standing
      refine (escapable _ rfl (Or.inl (by simp [forwarded]))).beginLeave
        noLeave rfl fun someId other listed different => ?_
      simp only [Room.insertMember] at listed
      grind
  | dropWithGrace deadline found registered =>
      cases present
      intro standing
      exact (base (escapable _ rfl) rfl rfl standing).insertMember
        (by simp [Member.Adrift])
  | queueMessage found settled direct =>
      cases present
      intro standing
      refine (base (escapable _ rfl) rfl rfl standing).of_members rfl
        fun someId member listed => ?_
      simp only [Room.insertMember] at listed
      grind
  | requestLeave found forwarded noJoin noLeave =>
      rename_i room clientId member authorityRequestId
      cases present
      intro standing
      exact (escapable _ rfl (Or.inl (by simp [forwarded]))).beginLeave
        noLeave rfl fun _ _ listed _ => listed
  | retryLeave found waiting forwarded noLeave =>
      rename_i room clientId member deadline
      cases present
      intro standing
      exact (escapable _ rfl (Or.inl (by simp [forwarded]))).beginLeave
        noLeave rfl fun _ _ listed _ => listed
  | removeFailed found noJoin noLeave failed =>
      obtain rfl := Room.eq_of_stored present
      intro standing
      exact (base (escapable _ rfl) rfl rfl standing).eraseMember
  | removeDirect found noJoin noLeave direct =>
      obtain rfl := Room.eq_of_stored present
      intro standing
      refine (escapable _ rfl (Or.inl (by simp [direct]))).of_members (by simp)
        fun someId member listed => ?_
      obtain ⟨former, before, same⟩ := Room.promoteSurvivor_members _ _ listed
      simp only [Room.eraseMember] at before
      grind
  | expireMembers now direct =>
      obtain rfl := Room.eq_of_stored present
      intro standing
      refine (escapable _ rfl (Or.inl (by simp [direct]))).of_members (by simp)
        fun someId member listed => ?_
      obtain ⟨former, before, -, same⟩ := Room.expireMembers_members _ _ listed
      grind
  | reportFailure | refuseSync =>
      cases present
      intro standing
      exact (escapable _ rfl (Or.inr (by simpa using standing))).of_members rfl
        fun _ member listed => Or.inr ⟨member, listed, rfl, rfl⟩
  | advanceUpgrade requestId upgrading unfinished =>
      cases present
      intro standing
      exact (escapable _ rfl (Or.inr (by simp [upgrading]))).of_members rfl
        fun _ member listed => Or.inr ⟨member, listed, rfl, rfl⟩
  | commitUpgrade requestId upgrading finished =>
      cases present
      intro standing
      refine (escapable _ rfl (Or.inr (by simp [upgrading]))).of_members rfl
        fun someId member listed => ?_
      simp only [Room.commitSfu, Room.advanceUpgrade, ExtTreeMap.getElem?_map,
        Option.map_eq_some_iff] at listed
      grind
  | abortUpgrade requestId upgrading =>
      cases present
      intro standing
      exact (escapable _ rfl (Or.inr (by simp [upgrading]))).release
  | expireUpgrade instanceId upgrading running =>
      cases present
      intro standing
      exact (escapable _ rfl (Or.inr (by simp [running]))).release
  | completeJoin | clearDeadline =>
      cases present
      intro standing
      exact (base (escapable _ rfl) rfl rfl standing).of_members rfl
        fun _ member listed => Or.inr ⟨member, listed, rfl, rfl⟩
  | refuseJoin requestId joining =>
      cases present
      intro standing
      exact (base (escapable _ rfl) rfl rfl standing).eraseMember
  | completeLeave requestId deadline leaving armed =>
      rename_i room leave clientId
      obtain rfl := Room.eq_of_stored present
      intro standing
      have forwarded := (wellFormed room rfl).forwarded_of_leaving leaving
        (standing.imp id id)
      refine (escapable room rfl (Or.inl (by simp [forwarded]))).endLeave
        leaving (fun someId member listed => ?_) fun member listed adrift => ?_
      all_goals simp only [Room.afterLeave, Room.eraseMember] at listed
      · grind
      · have before : room.members[leave.clientId]? = some member := by grind
        have left := keeps rfl room leave member rfl forwarded leaving before
          adrift
        simp [left] at listed
  | refuseLeave requestId leaving =>
      rename_i room leave
      cases present
      intro standing
      have forwarded := (wellFormed room rfl).forwarded_of_leaving leaving
        (standing.imp id id)
      exact (escapable room rfl (Or.inl (by simp [forwarded]))).endLeave leaving
        (fun _ _ listed => listed) fun member listed adrift =>
          keeps rfl room leave member rfl forwarded leaving listed adrift
  | expireRoom instanceId settled =>
      rename_i room
      cases present
      intro standing
      have running : room.upgrade.isSome := by
        rcases standing with standing | running
        · exact absurd rfl standing
        · exact running
      obtain ⟨upgrade, flying⟩ := Option.isSome_iff_exists.1 running
      obtain ⟨-, -, -, noJoin, noLeave, -⟩ :=
        (wellFormed room rfl).upgrade upgrade flying
      exact (escapable room rfl (Or.inr running)).fail noJoin noLeave
  | downgrade forwarded small noJoin noLeave clients =>
      cases present
      intro standing
      refine (escapable _ rfl (Or.inl (by simp [forwarded]))).of_members rfl
        fun someId member listed => ?_
      simp only [Room.commitP2p, ExtTreeMap.getElem?_map] at listed
      grind
  | rearmGrace deadline found unregistered forwarded =>
      cases present
      intro standing
      refine (base (escapable _ rfl) rfl rfl standing).of_members rfl
        fun someId member listed => ?_
      simp only [Room.modifyMember] at listed
      grind [Member.Adrift]

end RoomMoved

/-- Every P2P or SFU room lets its members out, in every run in which no answer
to a leave strands a member. -/
theorem no_ghosts
    {reconnectGrace : Duration}
    {history : History}
    {table : RoomTable}
    (run : (RoomTable.machine reconnectGrace).Run history table)
    (guarded : Machine.Guarded (fun table call => ¬call.Haunts table) history)
    {roomId : RoomId}
    {room : Room}
    (found : table.rooms[roomId]? = some room)
    (live : room.mode = .p2p ∨ room.mode = .sfu) :
    room.Unhaunted := by
  refine RoomTable.rooms_invariant Room.Escapable KeepsExit
    (fun roomId move room after moved keeps wellFormed => moved.escapable keeps
      wellFormed)
    (fun before call phase table move phase' table' guard taken arises
      consistent roomId => ?_) run guarded roomId room found
    (Or.inl (by rcases live with mode | mode <;> simp [mode]))
  cases move <;> simp only [KeepsExit]
  case completeLeave requestId leftFrom clientId =>
      rintro rfl stored leave member present forwarded leaving joined adrift
      obtain ⟨rfl, instanceId, pending, result, answers, confirms⟩ := arises
      cases taken with
      | completeLeave now outstanding =>
          obtain rfl := answers.recorded outstanding
          by_contra other
          exact guard ⟨_, _, _, _, _, _, _, _, _, _, _, answers, present,
            forwarded, leaving, joined, adrift, fun _ => other⟩
  case refuseLeave requestId leftFrom =>
      rintro rfl stored leave member present forwarded leaving joined adrift
      obtain ⟨rfl, instanceId, pending, result, answers, refuses⟩ := arises
      cases taken with
      | refuseLeave reason outstanding =>
          obtain rfl := answers.recorded outstanding
          exact guard ⟨_, _, _, _, _, _, _, _, _, _, _, answers, present,
            forwarded, leaving, joined, adrift, fun confirms =>
              absurd confirms refuses⟩

/-- A browser registers with an SFU room and goes away. -/
def departedOperations : List Operation :=
  forwardedOperations ++
    [.register exampleRoomId 1 "first", .deregister 0 exampleRoomId 1]

theorem no_ghosts_pending :
    ∃ room : Room, (RoomTable.played 0 departedOperations).2.rooms[
      exampleRoomId]? = some room ∧ room.Unhaunted := by
  have present : ((RoomTable.played 0 departedOperations).2.rooms[
      exampleRoomId]?).isSome := by
    decide +kernel
  obtain ⟨room, found⟩ := Option.isSome_iff_exists.1 present
  refine ⟨room, found, ?_⟩
  have forwarded : (RoomTable.played 0 departedOperations).2.mode?
      exampleRoomId = some .sfu := by
    decide +kernel
  simp only [RoomTable.mode?, found, Option.map_some,
    Option.some.injEq] at forwarded
  refine no_ghosts (RoomTable.played_run 0 departedOperations)
    (fun event taken haunts => ?_) found (Or.inr forwarded)
  have unanswered : (RoomTable.played 0 departedOperations).1.all (fun event =>
      ((event.2.answered? event.1).bind PendingCommand.transition?).all
        fun transition => transition.1 = .upgrade) = true := by
    decide +kernel
  obtain ⟨_, _, _, _, _, _, _, _, _, _, _, answers, -⟩ := haunts
  have checked := List.all_eq_true.1 unanswered event taken
  simp [answers.answered?, PendingCommand.transition?] at checked

/-- The worker refuses the leave of a browser that has gone away. -/
theorem refused_leave_haunts :
    ¬∀ (history : History) (table : RoomTable) (roomId : RoomId) (room : Room),
      (RoomTable.machine 0).Run history table ->
      table.rooms[roomId]? = some room ->
      room.mode = .p2p ∨ room.mode = .sfu -> room.Unhaunted := by
  intro exits
  obtain ⟨room, found⟩ : ∃ room, (RoomTable.played 0 (departedOperations ++
      [refused 4])).2.rooms[exampleRoomId]? = some room :=
    Option.isSome_iff_exists.1 (by decide +kernel)
  have left : (RoomTable.played 0 (departedOperations ++
      [refused 4])).2.rooms[exampleRoomId]?.map (fun room =>
        (room.mode, room.pendingLeave, room.members[1]?.map fun member =>
          (member.registered, member.reconnectDeadline))) =
        some (.sfu, none, some (false, none)) := by
    decide +kernel
  rw [found] at left
  simp only [Option.map_some, Option.some.injEq, Prod.mk.injEq,
    Option.map_eq_some_iff] at left
  obtain ⟨forwarded, idle, member, present, unregistered, free⟩ := left
  rcases exits _ _ _ room (RoomTable.played_run 0 _) found (Or.inr forwarded) 1
    member present unregistered with waiting | ⟨leave, leaving, -⟩
  · simp [free] at waiting
  · simp [idle] at leaving

end V2
end Signaling
